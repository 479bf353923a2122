import MachineTest.Pages.Contexts
import MachineTest.Pages.Fetching

/-! # The whole app

The routes and the session of `MockAPP`, the memory, and what the pages show. A page shows what it
read when it was last built, and its buttons are those of that build. A home page is built when it
is created, after its own taps, when the checkout page that it pushed goes, and, if it is
`globalHomepageState`, when a response arrives. A checkout page is built when it is created and
after its own taps. A change of the `MediaQuery`, which all of them read, builds every page. What
navigates after an `await` does so only if its page is still there (`Contexts`).

The pages are those of a release build: a `Text` of null shows nothing, where a debug build fails
(`HomePageState`). -/

namespace MachineTest

variable {D : Type}

/-- A home page on the stack, with the memory at its last build. A card that came into view later
has its count from then. -/
structure BuiltHomePage (D : Type) where
  /-- How many home pages were created before it. -/
  serial : ℕ
  /-- `homePageModel.user` -/
  user : Option User
  built : Memory D

/-- A checkout page on the stack, with the memory at its last build. -/
structure BuiltCheckoutPage (D : Type) where
  model : CheckoutModel D
  built : Memory D

namespace BuiltHomePage

def build (s : Memory D) (page : BuiltHomePage D) : BuiltHomePage D := { page with built := s }

/-- The page was built with its tabs, the cart icon and the drawer. Without a user the drawer does
not build. In a release build it does without a name. -/
def showsTabs (page : BuiltHomePage D) : Bool := Phone.showsTabs page.built && page.user.isSome

/-- A tap on plus or minus of a card. The build decides whether the button is enabled and which
dish object it counts, and the memory at the time of the tap what comes of it. -/
def tapDish [DecidableEq D] [DartDouble D] (isAdd : Bool) (mainIndex index : ℕ)
    (page : BuiltHomePage D) (s : Memory D) : Option (Memory D) := do
  let tempMenutype ← page.built.categories[mainIndex]?
  let dish ← tempMenutype.categoryDishes[index]?
  let _ ← HomePage.viewCardType page.built dish
  if page.built.dishOrdeCount dish = 0 ∧ isAdd = false then none else some (s.tapped dish isAdd)

/-- The card of `dish` is built from the memory now. -/
def recount [DecidableEq D] (dish : DishRef D) (s : Memory D) (page : BuiltHomePage D) :
    BuiltHomePage D :=
  let dishOrdeCount := Function.update page.built.dishOrdeCount dish (s.dishOrdeCount dish)
  { page with built := { page.built with dishOrdeCount } }

/-- `ListView.builder` builds a card that comes into view. -/
def buildCard [DecidableEq D] (mainIndex index : ℕ) (s : Memory D) (page : BuiltHomePage D) :
    Option (BuiltHomePage D) := do
  let tempMenutype ← page.built.categories[mainIndex]?
  let dish ← tempMenutype.categoryDishes[index]?
  some (page.recount dish s)

end BuiltHomePage

namespace BuiltCheckoutPage

def build (s : Memory D) (page : BuiltCheckoutPage D) : BuiltCheckoutPage D :=
  { page with built := s }

/-- No row threw when the page was built. One that throws takes the page with it. -/
def builds [DartDouble D] (page : BuiltCheckoutPage D) : Bool :=
  page.built.cartData.dishes.all fun dish => (dish.dishCalories.bind DartDouble.toInt).isSome

/-- A tap on plus or minus of a row. It throws when the cart has lost the key since the build. -/
def tapRow [DecidableEq D] [Add D] [Sub D] (isAdd : Bool) (key : Option String)
    (page : BuiltCheckoutPage D) (s : Memory D) : Option (Memory D × BuiltCheckoutPage D) := do
  if key ∈ page.built.cartData.map.keys then
    let (s, model) ← CheckoutPage.addAndMinus isAdd key s page.model
    some (s, { model, built := s })
  else none

end BuiltCheckoutPage

/-- The app, titled "Mocky". -/
structure Mocky (D : Type) where
  app : MockAPP
  contexts : Contexts := .start app
  /-- The session fields of the singleton are those of `app.store`. -/
  memory : Memory D := {}
  /-- The home pages on the stack, the top one first. -/
  homePages : List (BuiltHomePage D) := []
  /-- The checkout pages on the stack, the top one first. -/
  checkoutPages : List (BuiltCheckoutPage D) := []
  /-- How many home pages were created. The last is `globalHomepageState`. -/
  created : ℕ := 0
  /-- How many requests of `fetchAPIData` have not been answered. -/
  outstanding : ℕ := 0

namespace Mocky

inductive Event (D : Type) where
  /-- Of the taps on the cart icon only those that open the cart are events. -/
  | app (e : MockAPP.Event)
  /-- The phone reads a code by itself. -/
  | verificationCompleted (user : User)
  | dish (isAdd : Bool) (mainIndex index : ℕ)
  /-- A card of the home page comes into view. -/
  | card (mainIndex index : ℕ)
  | row (isAdd : Bool) (key : Option String)
  | respond (response : Response D)
  | mediaQuery
  /-- The `i`-th sign-in is answered before the others. -/
  | answersNext (i : ℕ)
  /-- The transition of a route that left has ended, and its page goes. -/
  | dispose (page : ℕ)

/-- A route leaves the stack. When a checkout page does, the `then` of `badgeOntap` calls `setState`
on the home page beneath. -/
def leave (s : Mocky D) : Route → Mocky D
  | .homePage => { s with homePages := s.homePages.tail }
  | .checkoutPage => { s with
      checkoutPages := s.checkoutPages.tail
      homePages := s.homePages.modifyHead (BuiltHomePage.build s.memory) }
  | _ => s

/-- A home page is created, in the place of the route on top if there is one. Its `initState` runs
before any other page is built again. -/
def createHomePage (user : Option User) (replaced : Option Route) (s : Mocky D) : Mocky D :=
  let s := { s with memory := HomePageController.fetchAPIData s.memory }
  let s := replaced.elim s s.leave
  { s with
    homePages := { serial := s.created, user, built := s.memory } :: s.homePages
    created := s.created + 1
    outstanding := s.outstanding + 1 }

/-- `globalHomepageState.callSetState()`, which throws when that page is gone. -/
def callSetState (s : Mocky D) : Mocky D :=
  { s with homePages := s.homePages.map fun page =>
      if page.serial + 1 = s.created then page.build s.memory else page }

/-- A response arrives. -/
def respond [Zero D] [IntCast D] (response : Response D) (s : Mocky D) : Mocky D :=
  let memory := HomePageController.fetchAPIDataResume response s.memory
  let s := { s with memory, outstanding := s.outstanding - 1 }
  if response.clears then s.callSetState else s

def mediaQuery (s : Mocky D) : Mocky D :=
  { s with
    homePages := s.homePages.map (BuiltHomePage.build s.memory)
    checkoutPages := s.checkoutPages.map (BuiltCheckoutPage.build s.memory) }

/-- The home page of the app if it is the home route. -/
def start (currentUser : Option User) (app : MockAPP) : Mocky D :=
  match app.routes with
  | .homePage :: _ => createHomePage currentUser none { app }
  | _ => { app }

/-- `main`, with what survives the process. -/
def runApp (storage : FlutterSecureStorage) (currentUser : Option User) : Mocky D :=
  start currentUser (MockAPP.runApp storage currentUser)

variable [DecidableEq D] [DartDouble D] [Zero D] [Add D] [Sub D] [Mul D] [IntCast D]

/-- What an event of the routes and of the session does to the memory and to the pages. -/
def react (s : Mocky D) : MockAPP.Event → List Route → Option (Mocky D)
  | .signedIn user true, routes => some (s.createHomePage (some user) routes.head?)
  | .badgeOntap, _ => do
    let page ← s.homePages.head?
    if page.showsTabs then
      (HomePage.badgeOntap s.memory).map fun memory =>
        let checkoutPage := { model := CheckoutPage.initState memory, built := memory }
        { s with memory, checkoutPages := checkoutPage :: s.checkoutPages }
    else none
  | .placeOrder, _ => do
    let page ← s.checkoutPages.head?
    if page.builds then some s else none
  | .ok, .orderPlaced :: _ =>
    some ({ s with memory := CheckoutController.resetCount s.memory }.leave .checkoutPage)
  | .back, top :: _ => some (s.leave top)
  | .logout, _ => do
    let page ← s.homePages.head?
    if page.showsTabs then some s else none
  | .resume i _, top :: _ =>
    some (if s.app.calls[i]? = some .clearUserToken then s.leave top else s)
  | _, _ => some s

def step (s : Mocky D) : Event D → Option (Mocky D)
  | .app e =>
    if s.contexts.allows s.app e then do
      let app ← s.app.step e
      let t ← s.react e s.app.routes
      some { t with app, contexts := s.contexts.after s.app e }
    else none
  | .verificationCompleted user =>
    (s.app.verificationCompleted user).map fun app => { s with app }
  | .dish isAdd mainIndex index =>
    match s.app.routes, s.homePages with
    | .homePage :: _, page :: pages =>
      if page.showsTabs then
        (page.tapDish isAdd mainIndex index s.memory).map fun memory =>
          { s with memory, homePages := page.build memory :: pages }
      else none
    | _, _ => none
  | .card mainIndex index =>
    match s.app.routes, s.homePages with
    | .homePage :: _, page :: pages =>
      (page.buildCard mainIndex index s.memory).map fun page =>
        { s with homePages := page :: pages }
    | _, _ => none
  | .row isAdd key =>
    match s.app.routes, s.checkoutPages with
    | .checkoutPage :: _, page :: pages =>
      if page.builds then
        (page.tapRow isAdd key s.memory).map fun r =>
          { s with memory := r.1, checkoutPages := r.2 :: pages }
      else none
    | _, _ => none
  | .respond response => if s.outstanding = 0 then none else some (s.respond response)
  | .mediaQuery => some s.mediaQuery
  | .answersNext i => (s.contexts.answersNext i).map fun contexts => { s with contexts }
  | .dispose page => (s.contexts.dispose page).map fun contexts => { s with contexts }

def machine (D : Type) [DecidableEq D] [DartDouble D] [Zero D] [Add D] [Sub D] [Mul D]
    [IntCast D] : Machine (Mocky D) (Event D) where
  step := step

/-! ## What an event does -/

end Mocky

/-- The events that create a page or that its build may disable. -/
def MockAPP.Event.usesPage : MockAPP.Event → Bool
  | .signedIn _ true | .badgeOntap | .placeOrder | .logout => true
  | _ => false

/-- A route whose page has a place in the lists of `Mocky`. -/
def Route.isPage : Route → Bool
  | .homePage | .checkoutPage => true
  | _ => false

section
variable [DecidableEq D] [DartDouble D]

/-- A tap on the home page is enabled on a card that was built, but not minus at count 0. -/
theorem BuiltHomePage.tapDish_eq_some {isAdd : Bool} {i j : ℕ} {page : BuiltHomePage D}
    {s s' : Memory D} : page.tapDish isAdd i j s = some s' ↔
      ∃ d, page.built.dishAt i j = some d ∧ d.built = true ∧
        (isAdd = false → page.built.dishOrdeCount d ≠ 0) ∧ s' = s.tapped d isAdd := by
  have htap : page.tapDish isAdd i j s = (page.built.dishAt i j).bind fun dish =>
      (HomePage.viewCardType page.built dish).bind fun _ =>
        if page.built.dishOrdeCount dish = 0 ∧ isAdd = false then none
        else some (s.tapped dish isAdd) := (Option.bind_assoc ..).symm
  rw [htap, Option.bind_eq_some_iff]
  refine exists_congr fun d => and_congr_right fun _ => ?_
  rw [← HomePage.isSome_viewCardType page.built d, Option.bind_eq_some_iff,
    Option.isSome_iff_exists, ← exists_and_right]
  refine exists_congr fun _ => and_congr_right fun _ => ?_
  rw [Option.ite_none_left_eq_some, not_and', Option.some_inj]
  exact and_congr_right fun _ => eq_comm

omit [DartDouble D] in
theorem BuiltHomePage.buildCard_eq_some {i j : ℕ} {page page' : BuiltHomePage D} {s : Memory D} :
    page.buildCard i j s = some page' ↔
      ∃ d, page.built.dishAt i j = some d ∧ page' = page.recount d s := by
  have hcard : page.buildCard i j s =
      (page.built.dishAt i j).bind fun dish => some (page.recount dish s) :=
    (Option.bind_assoc ..).symm
  rw [hcard, Option.bind_eq_some_iff]
  exact exists_congr fun d => and_congr_right fun _ => Option.some_inj.trans eq_comm

omit [DartDouble D] in
theorem BuiltCheckoutPage.tapRow_eq_some [Add D] [Sub D] {isAdd : Bool} {key : Option String}
    {page page' : BuiltCheckoutPage D} {s s' : Memory D} :
    page.tapRow isAdd key s = some (s', page') ↔ key ∈ page.built.cartData.map.keys ∧
      ∃ d ∈ s.cartData.dishes, d.dishId = key ∧ s' = s.rowTapped d isAdd ∧
        page' = { model := page.model.tapped d isAdd, built := s' } := by
  rw [BuiltCheckoutPage.tapRow, Option.ite_none_right_eq_some]
  refine and_congr_right fun _ => ?_
  rw [Option.bind_eq_bind, Option.bind_eq_some_iff]
  constructor
  · rintro ⟨⟨s'', model⟩, hrow, hs⟩
    obtain ⟨d, hd, hkey, rfl, rfl⟩ := CheckoutPage.addAndMinus_eq_some.mp hrow
    cases hs
    exact ⟨d, hd, hkey, rfl, rfl⟩
  · rintro ⟨d, hd, hkey, rfl, rfl⟩
    exact ⟨_, CheckoutPage.addAndMinus_eq_some.mpr ⟨d, hd, hkey, rfl, rfl⟩, rfl⟩

end

namespace Mocky

variable [DecidableEq D] [DartDouble D] [Zero D] [Add D] [Sub D] [Mul D] [IntCast D]

/-- The cart opens. -/
def openCheckoutPage (s : Mocky D) : Mocky D :=
  let checkoutPage :=
    { model := CheckoutPage.initState s.memory.cleaned, built := s.memory.cleaned }
  { s with memory := s.memory.cleaned, checkoutPages := checkoutPage :: s.checkoutPages }

/-- The steps of the app, by what they do. -/
inductive Step (s : Mocky D) : Event D → Mocky D → Prop
  /-- No home page and no checkout page comes or goes. -/
  | session {e : MockAPP.Event} {app : MockAPP} : s.app.Step e app → e.usesPage = false →
    app.routes.filter Route.isPage = s.app.routes.filter Route.isPage →
    s.contexts.allows s.app e = true →
    Step s (.app e) { s with app, contexts := s.contexts.after s.app e }
  | verificationCompleted {user : User} : s.app.requested ≠ 0 → user.method = .phone →
    Step s (.verificationCompleted user) { s with app.currentUser := some user }
  | created {user : User} : user.method ∈ s.app.signIns →
    s.contexts.allows s.app (.signedIn user true) = true → Step s (.app (.signedIn user true))
      { s.createHomePage (some user) s.app.routes.head? with
        app := s.app.signedIn user true
        contexts := s.contexts.after s.app (.signedIn user true) }
  | opened {page : BuiltHomePage D} {pages : List (BuiltHomePage D)} {rest : List Route} :
    s.app.routes = .homePage :: rest → s.homePages = page :: pages → page.showsTabs = true →
    s.memory.cartCount ≠ 0 → Step s (.app .badgeOntap)
      { s.openCheckoutPage with
        app := s.app.push .checkoutPage
        contexts := s.contexts.after s.app .badgeOntap }
  | placeOrder {page : BuiltCheckoutPage D} {pages : List (BuiltCheckoutPage D)}
    {rest : List Route} : s.app.routes = .checkoutPage :: rest → s.checkoutPages = page :: pages →
    page.builds = true → Step s (.app .placeOrder)
      { s with
        app := s.app.push .orderPlaced
        contexts := s.contexts.after s.app .placeOrder }
  | ordered {rest : List Route} : s.app.routes = .orderPlaced :: rest → Step s (.app .ok)
      { ({ s with memory := CheckoutController.resetCount s.memory } : Mocky D).leave .checkoutPage
        with app := s.app.pop.pop, contexts := s.contexts.after s.app .ok }
  | back {top below : Route} {rest : List Route} : s.app.routes = top :: below :: rest →
    Step s (.app .back)
      { s.leave top with app := s.app.pop, contexts := s.contexts.after s.app .back }
  | logout {page : BuiltHomePage D} {pages : List (BuiltHomePage D)} {rest : List Route} :
    s.app.routes = .homePage :: rest → s.homePages = page :: pages → page.showsTabs = true →
    Step s (.app .logout)
      { s with app := s.app.logout, contexts := s.contexts.after s.app .logout }
  | cleared {i serial : ℕ} {top : Route} {rest : List Route} {app : MockAPP} :
    s.app.calls[i]? = some .clearUserToken → s.app.routes = top :: rest →
    s.app.Step (.resume i serial) app → app.routes = .loginPage :: rest →
    s.contexts.allows s.app (.resume i serial) = true → Step s (.app (.resume i serial))
      { s.leave top with app, contexts := s.contexts.after s.app (.resume i serial) }
  | dish {page : BuiltHomePage D} {pages : List (BuiltHomePage D)} {rest : List Route}
    {isAdd : Bool} {i j : ℕ} {d : DishRef D} : s.app.routes = .homePage :: rest →
    s.homePages = page :: pages → page.showsTabs = true → page.built.dishAt i j = some d →
    d.built = true → (isAdd = false → page.built.dishOrdeCount d ≠ 0) → Step s (.dish isAdd i j)
      { s with
        memory := s.memory.tapped d isAdd
        homePages := page.build (s.memory.tapped d isAdd) :: pages }
  | card {page : BuiltHomePage D} {pages : List (BuiltHomePage D)} {i j : ℕ} {d : DishRef D} :
    s.homePages = page :: pages → page.built.dishAt i j = some d →
    Step s (.card i j) { s with homePages := page.recount d s.memory :: pages }
  | row {page : BuiltCheckoutPage D} {pages : List (BuiltCheckoutPage D)} {rest : List Route}
    {isAdd : Bool} {d : DishRef D} : s.app.routes = .checkoutPage :: rest →
    s.checkoutPages = page :: pages → d.dishId ∈ page.built.cartData.map.keys →
    d ∈ s.memory.cartData.dishes → Step s (.row isAdd d.dishId)
      { s with
        memory := s.memory.rowTapped d isAdd
        checkoutPages := { model := page.model.tapped d isAdd
                           built := s.memory.rowTapped d isAdd } :: pages }
  | respond {response : Response D} : s.outstanding ≠ 0 →
    Step s (.respond response) (s.respond response)
  | mediaQuery : Step s .mediaQuery s.mediaQuery
  | answersNext {i : ℕ} {contexts : Contexts} : s.contexts.answersNext i = some contexts →
    Step s (.answersNext i) { s with contexts }
  | dispose {page : ℕ} {contexts : Contexts} : s.contexts.dispose page = some contexts →
    Step s (.dispose page) { s with contexts }

theorem app_sound {s s' : Mocky D} {e : MockAPP.Event} {app : MockAPP} (h : s.app.Step e app)
    (hallows : s.contexts.allows s.app e = true) (hreact : s.react e s.app.routes = some s') :
    s.Step (.app e) { s' with app, contexts := s.contexts.after s.app e } := by
  cases h with
  | googleButtonAction hroutes =>
    cases hreact
    exact .session (.googleButtonAction hroutes) rfl rfl hallows
  | phoneButtonAction hroutes =>
    cases hreact
    exact .session (.phoneButtonAction hroutes) rfl rfl hallows
  | editPhoneNumber hroutes =>
    cases hreact
    refine .session (.editPhoneNumber hroutes) rfl ?_ hallows
    rw [hroutes]
    rfl
  | editOtp hroutes =>
    cases hreact
    refine .session (.editOtp hroutes) rfl ?_ hallows
    rw [hroutes]
    rfl
  | registered hroutes hphase hlength =>
    cases hreact
    refine .session (.registered hroutes hphase hlength) rfl ?_ hallows
    rw [hroutes]
    rfl
  | refused hroutes hphase hlength =>
    cases hreact
    refine .session (.refused hroutes hphase hlength) rfl ?_ hallows
    rw [hroutes]
    rfl
  | submitted hroutes hphase =>
    cases hreact
    exact .session (.submitted hroutes hphase) rfl rfl hallows
  | codeSent hmem =>
    cases hreact
    exact .session (.codeSent hmem) rfl rfl hallows
  | verificationFailed hmem =>
    cases hreact
    exact .session (.verificationFailed hmem) rfl rfl hallows
  | @signedIn user mounted hmem =>
    cases mounted with
    | true => cases hreact; exact .created hmem hallows
    | false => cases hreact; exact .session (.signedIn hmem) rfl rfl hallows
  | signInFailed hmem =>
    cases hreact
    exact .session (.signInFailed hmem) rfl rfl hallows
  | badgeOntap hroutes =>
    obtain ⟨page, hpage, hreact⟩ := Option.bind_eq_some_iff.mp hreact
    obtain ⟨pages, hpages⟩ := List.head?_eq_some_iff.mp hpage
    obtain ⟨hshows, hreact⟩ := Option.ite_none_right_eq_some.mp hreact
    obtain ⟨memory, hbadge, rfl⟩ := Option.map_eq_some_iff.mp hreact
    obtain ⟨hcount, rfl⟩ := HomePage.badgeOntap_eq_some.mp hbadge
    exact .opened hroutes hpages hshows hcount
  | placeOrder hroutes =>
    obtain ⟨page, hpage, hreact⟩ := Option.bind_eq_some_iff.mp hreact
    obtain ⟨pages, hpages⟩ := List.head?_eq_some_iff.mp hpage
    obtain ⟨hbuilds, hreact⟩ := Option.ite_none_right_eq_some.mp hreact
    cases hreact
    exact .placeOrder hroutes hpages hbuilds
  | okInvalidNumber hroutes =>
    rw [hroutes] at hreact
    cases hreact
    refine .session (.okInvalidNumber hroutes) rfl ?_ hallows
    rw [MockAPP.pop, hroutes]
    rfl
  | okOrderPlaced hroutes =>
    rw [hroutes] at hreact
    cases hreact
    exact .ordered hroutes
  | back hroutes =>
    rw [hroutes] at hreact
    cases hreact
    exact .back hroutes
  | logout hroutes =>
    obtain ⟨page, hpage, hreact⟩ := Option.bind_eq_some_iff.mp hreact
    obtain ⟨pages, hpages⟩ := List.head?_eq_some_iff.mp hpage
    obtain ⟨hshows, hreact⟩ := Option.ite_none_right_eq_some.mp hreact
    cases hreact
    exact .logout hroutes hpages hshows
  | @resumed i _ call hcall hclear =>
    have hne : s.app.calls[i]? ≠ some .clearUserToken := fun h =>
      hclear (Option.some.inj (hcall.symm.trans h))
    obtain rfl : s = s' := by
      cases hroutes : s.app.routes with
      | nil => rw [hroutes] at hreact; cases hreact; rfl
      | cons top rest =>
        rw [hroutes, react, if_neg hne] at hreact
        cases hreact
        rfl
    exact .session (.resumed hcall hclear) rfl rfl hallows
  | cleared hcall =>
    by_cases hnil : s.app.routes = []
    · rw [hnil] at hreact
      cases hreact
      refine .session (.cleared hcall) rfl ?_ hallows
      rw [hnil]
      rfl
    · obtain ⟨top, rest, hroutes⟩ := List.exists_cons_of_ne_nil hnil
      rw [hroutes, react, if_pos hcall] at hreact
      cases hreact
      exact .cleared hcall hroutes (.cleared hcall) (by rw [hroutes]; rfl) hallows
  | threw hcall => cases hreact; exact .session (.threw hcall) rfl rfl hallows

theorem step_sound {s s' : Mocky D} {e : Event D} (h : (machine D).step s e = some s') :
    s.Step e s' := by
  cases e with
  | app e =>
    obtain ⟨hallows, h⟩ := Option.ite_none_right_eq_some.mp h
    obtain ⟨app, happ, h⟩ := Option.bind_eq_some_iff.mp h
    obtain ⟨t, hreact, h⟩ := Option.bind_eq_some_iff.mp h
    cases h
    exact app_sound (MockAPP.step_sound happ) hallows hreact
  | verificationCompleted user =>
    obtain ⟨app, happ, rfl⟩ := Option.map_eq_some_iff.mp h
    obtain ⟨hrequested, hphone, rfl⟩ := MockAPP.verificationCompleted_eq_some.mp happ
    exact .verificationCompleted hrequested hphone
  | dish isAdd i j =>
    change s.step (.dish isAdd i j) = some s' at h
    rw [step] at h
    split at h
    · rename_i hroutes hpages
      obtain ⟨hshows, h⟩ := Option.ite_none_right_eq_some.mp h
      obtain ⟨memory, htap, rfl⟩ := Option.map_eq_some_iff.mp h
      obtain ⟨d, hd, hbuilt, hguard, rfl⟩ := BuiltHomePage.tapDish_eq_some.mp htap
      exact .dish hroutes hpages hshows hd hbuilt hguard
    · cases h
  | card i j =>
    change s.step (.card i j) = some s' at h
    rw [step] at h
    split at h
    · rename_i hpages
      obtain ⟨page, hcard, rfl⟩ := Option.map_eq_some_iff.mp h
      obtain ⟨d, hd, rfl⟩ := BuiltHomePage.buildCard_eq_some.mp hcard
      exact .card hpages hd
    · cases h
  | row isAdd key =>
    change s.step (.row isAdd key) = some s' at h
    rw [step] at h
    split at h
    · rename_i hroutes hpages
      obtain ⟨_, h⟩ := Option.ite_none_right_eq_some.mp h
      obtain ⟨⟨memory, page⟩, htap, rfl⟩ := Option.map_eq_some_iff.mp h
      obtain ⟨hkey, d, hd, rfl, rfl, rfl⟩ := BuiltCheckoutPage.tapRow_eq_some.mp htap
      exact .row hroutes hpages hkey hd
    · cases h
  | respond response =>
    obtain ⟨hne, h⟩ := Option.ite_none_left_eq_some.mp h
    cases h
    exact .respond hne
  | mediaQuery => cases h; exact .mediaQuery
  | answersNext i =>
    obtain ⟨contexts, hnext, rfl⟩ := Option.map_eq_some_iff.mp h
    exact .answersNext hnext
  | dispose page =>
    obtain ⟨contexts, hdispose, rfl⟩ := Option.map_eq_some_iff.mp h
    exact .dispose hdispose

end Mocky
end MachineTest
