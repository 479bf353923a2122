import MachineTest.Pages.Mocky
import MachineTest.Verify.Contexts
import MachineTest.Verify.Navigator
import MachineTest.Verify.Residue

/-! # What the app shows

The lists of `Mocky` follow the stack. As long as the top home page is the one created last, the
page on top shows what a build from the memory would show now. What the app does to its routes and
its session is a life of `MockAPP`. -/

namespace MachineTest

namespace Mocky

section
variable {D : Type} (s : Mocky D) (route : Route)

/-! ## Pages that leave and pages that are created -/

@[simp] theorem leave_app : (s.leave route).app = s.app := by cases route <;> rfl

@[simp] theorem leave_memory : (s.leave route).memory = s.memory := by cases route <;> rfl

@[simp] theorem leave_created : (s.leave route).created = s.created := by cases route <;> rfl

@[simp] theorem leave_outstanding : (s.leave route).outstanding = s.outstanding := by
  cases route <;> rfl

theorem serials_leave : ((s.leave route).homePages.map BuiltHomePage.serial).Sublist
    (s.homePages.map BuiltHomePage.serial) := by
  cases route with
  | homePage => exact (List.tail_sublist _).map _
  | checkoutPage =>
    rw [leave]
    cases s.homePages <;> exact List.Sublist.refl _
  | loginPage | otpPage _ _ | invalidNumber | orderPlaced => exact List.Sublist.refl _

variable {s route}

/-- A page that stays keeps its build, or it is built again. -/
theorem mem_leave {page : BuiltHomePage D} (h : page ∈ (s.leave route).homePages) :
    page ∈ s.homePages ∨ page.built = s.memory := by
  cases route with
  | homePage => exact .inl (List.mem_of_mem_tail h)
  | checkoutPage =>
    rw [leave] at h
    cases hpages : s.homePages with
    | nil =>
      rw [hpages] at h
      cases h
    | cons top pages =>
      rw [hpages] at h
      rcases List.mem_cons.mp h with rfl | h
      · exact .inr rfl
      · exact .inl (List.mem_cons_of_mem _ h)
  | loginPage | otpPage _ _ | invalidNumber | orderPlaced => exact .inl h

theorem mem_leave_checkoutPages {page : BuiltCheckoutPage D}
    (h : page ∈ (s.leave route).checkoutPages) : page ∈ s.checkoutPages := by
  cases route with
  | checkoutPage => exact List.mem_of_mem_tail h
  | homePage | loginPage | otpPage _ _ | invalidNumber | orderPlaced => exact h

variable (s) (user : Option User) (replaced : Option Route)

@[simp] theorem createHomePage_memory :
    (s.createHomePage user replaced).memory = HomePageController.fetchAPIData s.memory := by
  cases replaced with
  | none => rfl
  | some route => exact leave_memory _ route

@[simp] theorem createHomePage_created :
    (s.createHomePage user replaced).created = s.created + 1 := by
  cases replaced with
  | none => rfl
  | some route => exact congrArg (· + 1) (leave_created _ route)

@[simp] theorem createHomePage_outstanding :
    (s.createHomePage user replaced).outstanding = s.outstanding + 1 := by
  cases replaced with
  | none => rfl
  | some route => exact congrArg (· + 1) (leave_outstanding _ route)

/-- The new page is on top. -/
theorem createHomePage_homePages : ∃ pages, (s.createHomePage user replaced).homePages =
      { serial := s.created, user, built := HomePageController.fetchAPIData s.memory } :: pages ∧
    (pages.map BuiltHomePage.serial).Sublist (s.homePages.map BuiltHomePage.serial) ∧
    ∀ page ∈ pages, page ∈ s.homePages ∨
      page.built = HomePageController.fetchAPIData s.memory := by
  let t : Mocky D := { s with memory := HomePageController.fetchAPIData s.memory }
  cases replaced with
  | none => exact ⟨_, rfl, List.Sublist.refl _, fun _ h => .inl h⟩
  | some route =>
    refine ⟨(t.leave route).homePages, ?_, serials_leave t route, fun _ h => mem_leave h⟩
    simp [createHomePage, t]

theorem mem_createHomePage_checkoutPages {page : BuiltCheckoutPage D}
    (h : page ∈ (s.createHomePage user replaced).checkoutPages) : page ∈ s.checkoutPages := by
  cases replaced with
  | none => exact h
  | some route =>
    have hleft : page ∈ (leave { s with memory := HomePageController.fetchAPIData s.memory }
      route).checkoutPages := h
    have hmem := mem_leave_checkoutPages hleft
    exact hmem

theorem runApp_cases {P : Mocky D → Prop} {storage : FlutterSecureStorage}
    {currentUser : Option User}
    (home : ∀ app : MockAPP, app.routes = [.homePage] →
      P (createHomePage currentUser none { app }))
    (login : ∀ app : MockAPP, app.routes = [.loginPage] → P { app }) :
    P (runApp storage currentUser) :=
  MockAPP.runApp_cases (P := fun app => P (start currentUser app)) (fun _ => home _ rfl)
    fun _ => login _ rfl

/-! ## The lists and the stack -/

/-- The lists hold a page for each route of their kind. -/
structure Aligned (s : Mocky D) : Prop where
  homePages : s.homePages.length = s.app.routes.count .homePage
  checkoutPages : s.checkoutPages.length = s.app.routes.count .checkoutPage

/-- The home pages are in the order of their creation, the last one first. -/
def Ordered (s : Mocky D) : Prop :=
  (s.created :: s.homePages.map BuiltHomePage.serial).Pairwise (· > ·)

/-- What any run keeps. -/
structure Inv (s : Mocky D) : Prop where
  wellStacked : MockAPP.WellStacked s.app.routes
  aligned : s.Aligned
  ordered : s.Ordered
  follows : s.contexts.Follows s.app

variable {s}

theorem Aligned.leave {top : Route} {rest : List Route} (h : s.Aligned)
    (hroutes : s.app.routes = top :: rest) :
    (s.leave top).homePages.length = rest.count .homePage ∧
      (s.leave top).checkoutPages.length = rest.count .checkoutPage := by
  obtain ⟨hhome, hcheckout⟩ := h
  rw [hroutes, List.count_cons] at hhome hcheckout
  cases top with
  | homePage => exact ⟨by simp [Mocky.leave, hhome], hcheckout⟩
  | checkoutPage => exact ⟨by simpa [Mocky.leave] using hhome, by simp [Mocky.leave, hcheckout]⟩
  | loginPage | otpPage _ _ | invalidNumber | orderPlaced => exact ⟨hhome, hcheckout⟩

/-- The same pages on the stack have the same places in the lists. -/
theorem Aligned.of_filter {app : MockAPP} {contexts : Contexts} (h : s.Aligned)
    (hpages : app.routes.filter Route.isPage = s.app.routes.filter Route.isPage) :
    Aligned { s with app, contexts } := by
  have hcount : ∀ route : Route, route.isPage = true →
      app.routes.count route = s.app.routes.count route := fun route hroute => by
    rw [← List.count_filter hroute, hpages, List.count_filter hroute]
  constructor
  · rw [hcount .homePage rfl]
    exact h.homePages
  · rw [hcount .checkoutPage rfl]
    exact h.checkoutPages

theorem Aligned.createHomePage (h : s.Aligned) (user : Option User) :
    (s.createHomePage user s.app.routes.head?).homePages.length =
        (s.app.routes.tail.count .homePage) + 1 ∧
      (s.createHomePage user s.app.routes.head?).checkoutPages.length =
        s.app.routes.tail.count .checkoutPage := by
  have hfetch : Aligned { s with memory := HomePageController.fetchAPIData s.memory } :=
    ⟨h.homePages, h.checkoutPages⟩
  cases hroutes : s.app.routes with
  | nil =>
    obtain ⟨hhome, hcheckout⟩ := h
    rw [hroutes] at hhome hcheckout
    exact ⟨congrArg (· + 1) hhome, hcheckout⟩
  | cons top rest =>
    obtain ⟨hhome, hcheckout⟩ := hfetch.leave hroutes
    exact ⟨congrArg (· + 1) hhome, hcheckout⟩

/-- A page beneath another home page is not the last. -/
theorem Ordered.ne_created {page page' : BuiltHomePage D} {pages : List (BuiltHomePage D)}
    (h : s.Ordered) (hpages : s.homePages = page :: pages) (hmem : page' ∈ pages) :
    page'.serial + 1 ≠ s.created := by
  rw [Ordered, hpages] at h
  obtain ⟨hcreated, hrest⟩ := List.pairwise_cons.mp h
  have hlt : page'.serial < page.serial :=
    (List.pairwise_cons.mp hrest).1 _ (List.mem_map_of_mem hmem)
  have htop : page.serial < s.created := hcreated _ List.mem_cons_self
  omega

theorem Ordered.createHomePage (h : s.Ordered) : (s.createHomePage user replaced).Ordered := by
  obtain ⟨pages, hpages, hsub, _⟩ := createHomePage_homePages s user replaced
  have hrest : (s.created :: pages.map BuiltHomePage.serial).Pairwise (· > ·) :=
    h.sublist (hsub.cons_cons _)
  rw [Ordered, createHomePage_created, hpages]
  refine List.pairwise_cons.mpr ⟨fun n hn => ?_, hrest⟩
  rcases List.mem_cons.mp hn with rfl | hn
  · exact Nat.lt_succ_self _
  · exact Nat.lt_succ_of_lt ((List.pairwise_cons.mp hrest).1 n hn)

theorem follows_runApp (storage : FlutterSecureStorage) (currentUser : Option User) :
    (runApp storage currentUser : Mocky D).contexts.Follows
      (runApp storage currentUser : Mocky D).app :=
  MockAPP.runApp_cases (P := fun app => (start currentUser app : Mocky D).contexts.Follows
    (start currentUser app : Mocky D).app) (fun _ => Contexts.follows_start rfl rfl)
    fun _ => Contexts.follows_start rfl rfl

theorem inv_runApp (storage : FlutterSecureStorage) (currentUser : Option User) :
    (runApp storage currentUser : Mocky D).Inv := by
  suffices hstart : MockAPP.WellStacked (runApp storage currentUser : Mocky D).app.routes ∧
      (runApp storage currentUser : Mocky D).Aligned ∧
      (runApp storage currentUser : Mocky D).Ordered from
    ⟨hstart.1, hstart.2.1, hstart.2.2, follows_runApp storage currentUser⟩
  refine runApp_cases (P := fun s => MockAPP.WellStacked s.app.routes ∧ s.Aligned ∧ s.Ordered)
    (fun app hroutes => ⟨?_, ⟨?_, ?_⟩, ?_⟩) fun app hroutes => ⟨?_, ⟨?_, ?_⟩, ?_⟩
  · change MockAPP.WellStacked app.routes
    rw [hroutes]
    exact .home
  · change 1 = app.routes.count .homePage
    rw [hroutes]
    rfl
  · change 0 = app.routes.count .checkoutPage
    rw [hroutes]
    rfl
  · exact Ordered.createHomePage _ _ (List.pairwise_singleton _ _)
  · rw [hroutes]
    exact .login
  · rw [hroutes]
    rfl
  · rw [hroutes]
    rfl
  · exact List.pairwise_singleton _ _

end

section
variable {D : Type} [Zero D] [IntCast D] (s : Mocky D) (response : Response D)

@[simp] theorem respond_app : (s.respond response).app = s.app := by
  rw [respond]; split <;> rfl

@[simp] theorem respond_memory : (s.respond response).memory =
    HomePageController.fetchAPIDataResume response s.memory := by
  rw [respond]; split <;> rfl

@[simp] theorem respond_contexts : (s.respond response).contexts = s.contexts := by
  rw [respond]; split <;> rfl

@[simp] theorem respond_created : (s.respond response).created = s.created := by
  rw [respond]; split <;> rfl

@[simp] theorem respond_outstanding :
    (s.respond response).outstanding = s.outstanding - 1 := by
  rw [respond]; split <;> rfl

@[simp] theorem respond_checkoutPages :
    (s.respond response).checkoutPages = s.checkoutPages := by
  rw [respond]; split <;> rfl

/-- A response may build a page again, which keeps its place and its user. -/
theorem map_respond_homePages {β : Type} {f : BuiltHomePage D → β}
    (hf : ∀ page t, f (page.build t) = f page) :
    (s.respond response).homePages.map f = s.homePages.map f := by
  rw [respond]
  split
  · rw [callSetState, List.map_map]
    refine List.map_congr_left fun page _ => ?_
    rw [Function.comp_apply]
    split
    · exact hf page _
    · rfl
  · rfl

theorem serials_respond : (s.respond response).homePages.map BuiltHomePage.serial =
    s.homePages.map BuiltHomePage.serial := map_respond_homePages s response fun _ _ => rfl

theorem length_respond_homePages : (s.respond response).homePages.length = s.homePages.length := by
  have hlength := congrArg List.length (serials_respond s response)
  rwa [List.length_map, List.length_map] at hlength

end

section
variable {D : Type} [DecidableEq D] [DartDouble D] [Zero D] [Add D] [Sub D] [Mul D] [IntCast D]
variable {s s' : Mocky D} {e : Event D}

/-- An event is an event of the routes and of the session, or leaves the routes as they are, with
whatever waits. -/
theorem Step.app_cases (h : s.Step e s') :
    (s'.app.routes = s.app.routes ∧
      (s.contexts.Follows s.app → s'.contexts.Follows s'.app)) ∨
    ∃ e', e = .app e' ∧ s.app.Step e' s'.app ∧ s'.contexts = s.contexts.after s.app e' := by
  cases h with
  | session hstep _ _ _ => exact .inr ⟨_, rfl, hstep, rfl⟩
  | created hmem _ => exact .inr ⟨_, rfl, .signedIn hmem, rfl⟩
  | opened hroutes _ _ _ => exact .inr ⟨_, rfl, .badgeOntap hroutes, rfl⟩
  | placeOrder hroutes _ _ => exact .inr ⟨_, rfl, .placeOrder hroutes, rfl⟩
  | ordered hroutes => exact .inr ⟨_, rfl, .okOrderPlaced hroutes, rfl⟩
  | logout hroutes _ _ => exact .inr ⟨_, rfl, .logout hroutes, rfl⟩
  | back hroutes => exact .inr ⟨_, rfl, .back hroutes, rfl⟩
  | cleared _ _ hstep _ _ => exact .inr ⟨_, rfl, hstep, rfl⟩
  | verificationCompleted => exact .inl ⟨rfl, fun h => ⟨h.pages, h.signIns, h.calls⟩⟩
  | respond _ =>
    rw [respond_app, respond_contexts]
    exact .inl ⟨rfl, id⟩
  | dish | card | row | mediaQuery => exact .inl ⟨rfl, id⟩
  | answersNext hnext => exact .inl ⟨rfl, fun h => h.answersNext hnext⟩
  | dispose hdispose => exact .inl ⟨rfl, fun h => h.dispose hdispose⟩

/-- The pages follow the app. -/
theorem Step.follows (hstep : s.Step e s') (h : s.contexts.Follows s.app) :
    s'.contexts.Follows s'.app := by
  rcases hstep.app_cases with ⟨_, hkept⟩ | ⟨_, _, happ, hcontexts⟩
  · exact hkept h
  · rw [hcontexts]
    exact h.step happ

theorem Aligned.step (h : s.Aligned) (hstacked : MockAPP.WellStacked s.app.routes)
    (hstep : s.Step e s') : s'.Aligned := by
  have hboth := h
  obtain ⟨hhome, hcheckout⟩ := hboth
  cases hstep with
  | session _ _ hpages _ => exact h.of_filter hpages
  | verificationCompleted | placeOrder | logout | answersNext | dispose => exact h.of_filter rfl
  | @created user _ =>
    obtain ⟨hhome, hcheckout⟩ := h.createHomePage (some user)
    constructor
    · exact hhome.trans List.count_cons_self.symm
    · exact hcheckout.trans (List.count_cons_of_ne (by decide)).symm
  | opened =>
    constructor
    · exact hhome.trans (List.count_cons_of_ne (by decide)).symm
    · exact (congrArg (· + 1) hcheckout).trans List.count_cons_self.symm
  | ordered hroutes =>
    rw [hroutes] at hstacked hhome hcheckout
    obtain ⟨rest, rfl⟩ := hstacked.of_orderPlaced
    constructor
    · simp [Mocky.leave, MockAPP.pop, hroutes, hhome]
    · simp [Mocky.leave, MockAPP.pop, hroutes, hcheckout]
  | back hroutes =>
    obtain ⟨hhome, hcheckout⟩ := h.leave hroutes
    have htail : s.app.pop.routes = _ := congrArg List.tail hroutes
    exact ⟨htail ▸ hhome, htail ▸ hcheckout⟩
  | cleared _ hroutes _ happ _ =>
    obtain ⟨hhome, hcheckout⟩ := h.leave hroutes
    constructor
    · rw [happ, List.count_cons_of_ne (by decide)]
      exact hhome
    · rw [happ, List.count_cons_of_ne (by decide)]
      exact hcheckout
  | dish _ hpages => exact ⟨by simpa [hpages] using hhome, hcheckout⟩
  | card hpages => exact ⟨by simpa [hpages] using hhome, hcheckout⟩
  | row _ hpages => exact ⟨hhome, by simpa [hpages] using hcheckout⟩
  | respond _ =>
    constructor
    · rw [length_respond_homePages, respond_app]
      exact hhome
    · rw [respond_checkoutPages, respond_app]
      exact hcheckout
  | mediaQuery => exact ⟨by simpa [mediaQuery] using hhome, by simpa [mediaQuery] using hcheckout⟩

theorem Ordered.step (h : s.Ordered) (hstep : s.Step e s') : s'.Ordered := by
  cases hstep with
  | session | verificationCompleted | placeOrder | logout | opened | row => exact h
  | answersNext | dispose => exact h
  | created => exact h.createHomePage _ _
  | ordered => exact h.sublist ((serials_leave _ _).cons_cons _)
  | back => exact h.sublist (by simpa using (serials_leave s _).cons_cons s.created)
  | cleared => exact h.sublist (by simpa using (serials_leave s _).cons_cons s.created)
  | dish _ hpages =>
    rw [Ordered, hpages] at h
    exact h
  | card hpages =>
    rw [Ordered, hpages] at h
    exact h
  | respond _ =>
    rw [Ordered, respond_created, serials_respond]
    exact h
  | mediaQuery =>
    rw [Ordered, mediaQuery, List.map_map]
    exact h

theorem Inv.step (h : s.Inv) (hstep : s.Step e s') : s'.Inv where
  wellStacked := by
    rcases hstep.app_cases with ⟨happ, _⟩ | ⟨_, _, happ, _⟩
    · rw [happ]
      exact h.wellStacked
    · exact h.wellStacked.step happ
  aligned := h.aligned.step h.wellStacked hstep
  ordered := h.ordered.step hstep
  follows := hstep.follows h.follows

theorem inv_run {storage : FlutterSecureStorage} {currentUser : Option User}
    {events : List (Event D)}
    (hrun : (machine D).run (runApp storage currentUser) events = some s) : s.Inv :=
  Machine.run_invariant (fun _ _ _ h hstep => h.step (step_sound hstep))
    (inv_runApp storage currentUser) hrun

/-! ## The routes and the session -/

/-- What an event is to the routes and the session. -/
def Event.life : Event D → Option MockAPP.Life
  | .app e => some (.event e)
  | .verificationCompleted user => some (.verificationCompleted user)
  | _ => none

/-- A step of the app is a step of `MockAPP`, or leaves it as it is. -/
theorem step_life (h : (machine D).step s e = some s') :
    MockAPP.lives.orIdle.step s.app e.life = some s'.app := by
  cases e with
  | app e =>
    obtain ⟨_, h⟩ := Option.ite_none_right_eq_some.mp h
    obtain ⟨app, happ, h⟩ := Option.bind_eq_some_iff.mp h
    obtain ⟨t, _, h⟩ := Option.bind_eq_some_iff.mp h
    cases h
    exact happ
  | verificationCompleted user =>
    obtain ⟨app, happ, rfl⟩ := Option.map_eq_some_iff.mp h
    exact happ
  | respond response =>
    cases step_sound h with
    | respond _ => exact congrArg some (respond_app s response).symm
  | dish | card | row | mediaQuery | answersNext | dispose =>
    cases step_sound h
    rfl

/-- What holds of every life of `MockAPP` holds of the whole app. -/
theorem lives_run {events : List (Event D)} (hrun : (machine D).run s events = some s') :
    MockAPP.lives.run s.app (events.filterMap Event.life) = some s'.app := by
  have hstep : ∀ (s : Mocky D) e s' app, s.app = app → True → (machine D).step s e = some s' →
      ∃ app', MockAPP.lives.run app (e.life.toList) = some app' ∧ s'.app = app' := by
    rintro s e s' _ rfl _ hstep
    have hlife : MockAPP.lives.orIdle.run s.app [e.life] = some s'.app :=
      Machine.run_cons.mpr ⟨_, step_life hstep, rfl⟩
    rw [Machine.run_orIdle, List.reduceOption_singleton] at hlife
    exact ⟨_, hlife, rfl⟩
  obtain ⟨_, hlife, rfl⟩ := Machine.run_simulates hstep rfl (fun _ _ => trivial) hrun
  rw [List.filterMap_eq_flatMap_toList]
  exact hlife

/-! ## Dishes -/

/-- Every dish that the app can show or count is known, and those of the carts have been tapped on a
card. -/
structure Known (known : DishRef D → Prop) (s : Mocky D) : Prop where
  displayed : ∀ d ∈ s.memory.dishes, known d
  cart : ∀ d ∈ s.memory.cartData.dishes, known d ∧ d.built = true
  built : ∀ page ∈ s.homePages, ∀ d ∈ page.built.dishes, known d
  rows : ∀ page ∈ s.checkoutPages, ∀ d ∈ page.built.cartData.dishes, known d ∧ d.built = true

omit [DecidableEq D] [Zero D] [Add D] [Sub D] [Mul D] [IntCast D] in
theorem Known.imp {known known' : DishRef D → Prop} (h : s.Known known)
    (himp : ∀ d, known d → known' d) : s.Known known' where
  displayed d hd := himp d (h.displayed d hd)
  cart d hd := (h.cart d hd).imp_left (himp d)
  built page hpage d hd := himp d (h.built page hpage d hd)
  rows page hpage d hd := (h.rows page hpage d hd).imp_left (himp d)

omit [DecidableEq D] [Zero D] [Add D] [Sub D] [Mul D] [IntCast D] in
/-- At the start of the app there are no dishes. -/
theorem known_runApp (known : DishRef D → Prop) (storage : FlutterSecureStorage)
    (currentUser : Option User) : (runApp storage currentUser : Mocky D).Known known := by
  refine runApp_cases (fun app _ => ?_) fun app _ => ?_
  · constructor
    · exact fun d hd => by cases hd
    · exact fun d hd => by cases hd
    · intro page hpage d hd
      cases List.mem_singleton.mp hpage
      cases hd
    · exact fun page hpage => by cases hpage
  · constructor
    · exact fun d hd => by cases hd
    · exact fun d hd => by cases hd
    · exact fun page hpage => by cases hpage
    · exact fun page hpage => by cases hpage

omit [DecidableEq D] [Add D] [Sub D] [Mul D] in
/-- A response that is not accepted leaves the dishes as they are. -/
theorem Known.respond {known : DishRef D → Prop} (h : s.Known known) {response : Response D}
    (hnew : ∀ tree menus, response = .body tree → tree.bind menuModelOfTree = .ok menus →
      ∀ d ∈ (s.memory.install menus).dishes, known d) : (s.respond response).Known known := by
  have hmemory : (∀ d ∈ (s.respond response).memory.dishes, known d) ∧
      (s.respond response).memory.cartData = s.memory.cartData := by
    rw [respond_memory]
    rcases HomePageController.fetchAPIDataResume_cases response s.memory with
      ⟨tree, menus, rfl, hmenus, hs⟩ | ⟨_, isLoading, hs⟩
    · rw [hs]
      exact ⟨hnew tree menus rfl hmenus, rfl⟩
    · rw [hs]
      exact ⟨h.displayed, rfl⟩
  refine ⟨hmemory.1, hmemory.2 ▸ h.cart, fun page hpage => ?_, ?_⟩
  · rw [Mocky.respond] at hpage
    split at hpage
    · obtain ⟨page, hmem, rfl⟩ := List.mem_map.mp hpage
      split
      · have hbuilt := hmemory.1
        rw [respond_memory] at hbuilt
        exact hbuilt
      · exact h.built page hmem
    · exact h.built page hpage
  · rw [respond_checkoutPages]
    exact h.rows

/-- A tap, a page that comes or goes and a build bring no dish that was not known before. -/
theorem Known.step {known : DishRef D → Prop} (h : s.Known known)
    (hnew : ∀ tree menus, e = .respond (.body tree) → tree.bind menuModelOfTree = .ok menus →
      ∀ d ∈ (s.memory.install menus).dishes, known d) (hstep : s.Step e s') : s'.Known known := by
  cases hstep with
  | session | verificationCompleted | placeOrder | logout | answersNext | dispose =>
    exact ⟨h.displayed, h.cart, h.built, h.rows⟩
  | @created user _ =>
    obtain ⟨pages, hpages, _, hkept⟩ :=
      createHomePage_homePages s (some user) s.app.routes.head?
    refine ⟨?_, ?_, ?_, ?_⟩
    · rw [createHomePage_memory]
      exact fun d hd => by cases hd
    · rw [createHomePage_memory]
      exact h.cart
    · rw [hpages]
      refine List.forall_mem_cons.mpr ⟨fun d hd => (by cases hd), fun page hpage d hd => ?_⟩
      rcases hkept page hpage with hmem | hbuilt
      · exact h.built page hmem d hd
      · rw [hbuilt] at hd
        cases hd
    · exact fun page hpage => h.rows page
        (mem_createHomePage_checkoutPages s (some user) s.app.routes.head? hpage)
  | opened =>
    have hcart : ∀ d ∈ s.memory.cleaned.cartData.dishes, known d ∧ d.built = true := fun d hd => by
      rw [Memory.cleaned, CartData.dishes_filter] at hd
      exact h.cart d (List.mem_of_mem_filter hd)
    exact ⟨h.displayed, hcart, h.built, List.forall_mem_cons.mpr ⟨hcart, h.rows⟩⟩
  | ordered =>
    refine ⟨h.displayed, fun d hd => (by cases hd), fun page hpage => ?_, fun page hpage => ?_⟩
    · rcases mem_leave hpage with hmem | hbuilt
      · exact h.built page hmem
      · rw [hbuilt]
        exact h.displayed
    · have hmem := mem_leave_checkoutPages hpage
      exact h.rows page hmem
  | back | cleared =>
    refine ⟨?_, ?_, fun page hpage => ?_, fun page hpage => ?_⟩
    · rw [leave_memory]
      exact h.displayed
    · rw [leave_memory]
      exact h.cart
    · rcases mem_leave hpage with hmem | hbuilt
      · exact h.built page hmem
      · rw [hbuilt]
        exact h.displayed
    · exact h.rows page (mem_leave_checkoutPages hpage)
  | @dish page pages _ isAdd i j d _ hpages _ hd hbuilt _ =>
    have hbuilts := h.built
    rw [hpages] at hbuilts
    obtain ⟨hpage, hrest⟩ := List.forall_mem_cons.mp hbuilts
    refine ⟨h.displayed, fun e he => ?_, ?_, h.rows⟩
    · rcases Memory.tapped_cases he with ⟨_, rfl⟩ | ⟨_, hmem, _⟩
      · exact ⟨hpage e (Singleton.mem_dishes_iff.mpr ⟨i, j, hd⟩), hbuilt⟩
      · exact h.cart e hmem
    · exact List.forall_mem_cons.mpr ⟨h.displayed, hrest⟩
  | card hpages _ =>
    have hbuilt := h.built
    rw [hpages] at hbuilt
    obtain ⟨hpage, hrest⟩ := List.forall_mem_cons.mp hbuilt
    exact ⟨h.displayed, h.cart, List.forall_mem_cons.mpr ⟨hpage, hrest⟩, h.rows⟩
  | row _ hpages _ _ =>
    have hrows := h.rows
    rw [hpages] at hrows
    exact ⟨h.displayed, h.cart, h.built,
      List.forall_mem_cons.mpr ⟨h.cart, (List.forall_mem_cons.mp hrows).2⟩⟩
  | respond _ => exact h.respond fun tree menus hbody => hnew tree menus (congrArg _ hbody)
  | mediaQuery =>
    refine ⟨h.displayed, h.cart, fun page hpage => ?_, fun page hpage => ?_⟩
    · obtain ⟨_, _, rfl⟩ := List.mem_map.mp hpage
      exact h.displayed
    · obtain ⟨_, _, rfl⟩ := List.mem_map.mp hpage
      exact h.cart

end
end Mocky
end MachineTest
