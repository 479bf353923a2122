import MachineTest.Verify.Provenance

/-! # What is on the screen

The page on top was built some time ago. If the home page on top, or the one under the checkout
page on top, is the one created last, a build from the memory would show the same now. As long as no
home page is created over another this is always so, and the app is the `Phone` of one home page,
which is built again after every event. -/

namespace MachineTest

/-- Both memories show the same rows and the same heading. -/
structure Memory.SameRows {D : Type} (s t : Memory D) : Prop where
  cartData : s.cartData = t.cartData
  cartCount : s.cartCount = t.cartCount
  counts : ∀ d ∈ s.cartData.dishes, s.dishOrdeCount d = t.dishOrdeCount d

namespace Memory.SameRows

variable {D : Type} {s t : Memory D}

theorem refl (s : Memory D) : s.SameRows s := ⟨rfl, rfl, fun _ _ => rfl⟩

theorem menuList_eq [DartDouble D] [Mul D] [IntCast D] (h : s.SameRows t) :
    CheckoutPage.menuList s = CheckoutPage.menuList t := by
  rw [MachineTest.menuList_eq, MachineTest.menuList_eq, ← h.cartData]
  refine List.map_congr_left fun d hd => ?_
  rw [CheckoutPage.cardContent, CheckoutPage.cardContent, h.counts d hd]

theorem topHeading_eq (h : s.SameRows t) :
    CheckoutPage.topHeading s = CheckoutPage.topHeading t := by
  rw [CheckoutPage.topHeading, CheckoutPage.topHeading, h.cartData, h.cartCount]

/-- A response changes no row. -/
theorem respond [Zero D] [IntCast D] (h : s.SameRows t)
    (hheld : ∀ d ∈ t.cartData.dishes, d.fetch < t.fetches) (response : Response D) :
    s.SameRows (HomePageController.fetchAPIDataResume response t) := by
  rcases HomePageController.fetchAPIDataResume_cases response t with
    ⟨tree, menus, rfl, _, ht⟩ | ⟨_, isLoading, ht⟩
  · rw [ht]
    refine ⟨h.cartData, h.cartCount, fun d hd => (h.counts d hd).trans ?_⟩
    exact (if_neg (hheld d (h.cartData ▸ hd)).ne).symm
  · rw [ht]
    exact ⟨h.cartData, h.cartCount, h.counts⟩

end Memory.SameRows

/-- A card of a page that is up to date comes into view with the count that it had. -/
theorem BuiltHomePage.recount_of_built {D : Type} [DecidableEq D] {page : BuiltHomePage D}
    {s : Memory D} (h : page.built = s) (d : DishRef D) : page.recount d s = page := by
  obtain ⟨serial, user, built⟩ := page
  obtain rfl : built = s := h
  rw [recount, Function.update_eq_self]

namespace Mocky

/-! ## Builds that are up to date -/

section
variable {D : Type} {s : Mocky D}

/-- The top one of the home pages and checkout pages on the stack. -/
def topPage (routes : List Route) : Option Route := (routes.filter Route.isPage).head?

theorem topPage_of_head? {routes : List Route} {route : Route} (hroute : route.isPage = true)
    (h : routes.head? = some route) : topPage routes = some route := by
  obtain ⟨rest, hroutes⟩ := List.head?_eq_some_iff.mp h
  rw [topPage, hroutes, List.filter_cons_of_pos hroute]
  rfl

/-- If the top home page is the last one, the top page shows what a build would show now. -/
structure UpToDate (s : Mocky D) : Prop where
  home : topPage s.app.routes = some .homePage → ∀ page ∈ s.homePages.head?,
    page.serial + 1 = s.created → page.built = s.memory
  checkout : topPage s.app.routes = some .checkoutPage → ∀ page ∈ s.homePages.head?,
    page.serial + 1 = s.created → ∀ checkoutPage ∈ s.checkoutPages.head?,
      checkoutPage.built.SameRows s.memory

theorem UpToDate.of_homePage (htop : topPage s.app.routes = some .homePage)
    (h : ∀ page ∈ s.homePages.head?, page.serial + 1 = s.created → page.built = s.memory) :
    s.UpToDate where
  home _ := h
  checkout hcheckout := by cases htop.symm.trans hcheckout

theorem UpToDate.of_checkoutPage (htop : topPage s.app.routes = some .checkoutPage)
    (h : ∀ checkoutPage ∈ s.checkoutPages.head?, checkoutPage.built.SameRows s.memory) :
    s.UpToDate where
  home hhome := by cases htop.symm.trans hhome
  checkout _ _ _ _ := h

/-- Under a checkout page there is its home page. -/
theorem topPage_of_checkoutPage {rest : List Route}
    (h : MockAPP.WellStacked (.checkoutPage :: rest)) : topPage rest = some .homePage := by
  obtain ⟨below, rest', rfl⟩ := h.rest_ne_nil (fun h => nomatch h) fun h => nomatch h
  obtain rfl : below = .homePage := h.liesOn
  rfl

/-- What is left when a route leaves is up to date if the top route was. -/
theorem UpToDate.leave {top : Route} {rest : List Route} {app : MockAPP} {contexts : Contexts}
    (h : s.UpToDate) (hinv : s.Inv) (hroutes : s.app.routes = top :: rest)
    (hpages : topPage app.routes = topPage rest) :
    UpToDate { s.leave top with app, contexts } := by
  cases top with
  | homePage =>
    refine ⟨fun _ page hpage hlast => ?_, fun _ page hpage hlast => ?_⟩
    all_goals
      change page ∈ s.homePages.tail.head? at hpage
      cases hlist : s.homePages with
      | nil => rw [hlist] at hpage; cases hpage
      | cons first pages =>
        rw [hlist] at hpage
        exact (hinv.ordered.ne_created hlist (List.mem_of_mem_head? hpage) hlast).elim
  | checkoutPage =>
    have hwell := hinv.wellStacked
    rw [hroutes] at hwell
    refine .of_homePage (hpages.trans (topPage_of_checkoutPage hwell)) fun page hpage _ => ?_
    change page ∈ (s.homePages.modifyHead _).head? at hpage
    cases hlist : s.homePages with
    | nil => rw [hlist] at hpage; cases hpage
    | cons first pages =>
      rw [hlist] at hpage
      cases hpage
      rfl
  | loginPage | otpPage _ _ | invalidNumber | orderPlaced =>
    have htop : topPage app.routes = topPage s.app.routes := by
      rw [hpages, hroutes]
      rfl
    exact ⟨fun hhome => h.home (htop ▸ hhome), fun hcheckout => h.checkout (htop ▸ hcheckout)⟩

theorem upToDate_runApp (storage : FlutterSecureStorage) (currentUser : Option User) :
    (runApp storage currentUser : Mocky D).UpToDate := by
  refine runApp_cases (fun app hroutes => ?_) fun app _ => ?_
  · refine .of_homePage (congrArg topPage hroutes) fun page hpage _ => ?_
    cases hpage
    rfl
  · exact ⟨fun _ page hpage => (by cases hpage), fun _ page hpage => (by cases hpage)⟩

end
section
variable {D : Type} [Zero D] [IntCast D] {s : Mocky D}

/-- A response that does not clear the flag changes nothing. -/
theorem respond_memory_of_not_clears {response : Response D}
    (h : response.clears = false) (t : Memory D) :
    HomePageController.fetchAPIDataResume response t = t := by
  cases response with
  | socketException => cases h
  | otherException => rfl
  | body tree =>
    rw [HomePageController.fetchAPIDataResume]
    cases hmenus : tree.bind menuModelOfTree with
    | ok menus => rw [Response.clears, hmenus] at h; cases h
    | error e => rfl

theorem UpToDate.respond (h : s.UpToDate)
    (hheld : ∀ d ∈ s.memory.cartData.dishes, d.fetch < s.memory.fetches) (response : Response D) :
    (s.respond response).UpToDate := by
  constructor
  · intro htop page hpage hlast
    rw [respond_app] at htop
    rw [respond_created] at hlast
    rw [respond_memory]
    cases hclears : response.clears with
    | true =>
      rw [Mocky.respond, if_pos hclears, callSetState, List.head?_map] at hpage
      obtain ⟨first, _, rfl⟩ := Option.map_eq_some_iff.mp hpage
      dsimp only at hlast ⊢
      by_cases hserial : first.serial + 1 = s.created
      · rw [if_pos hserial]
        rfl
      · rw [if_neg hserial] at hlast
        exact (hserial hlast).elim
    | false =>
      rw [Mocky.respond, hclears] at hpage
      rw [respond_memory_of_not_clears hclears]
      exact h.home htop page hpage hlast
  · intro htop page hpage hlast checkoutPage hcheckout
    rw [respond_app] at htop
    rw [respond_created] at hlast
    rw [respond_checkoutPages] at hcheckout
    rw [respond_memory]
    have hserials := congrArg List.head? (serials_respond s response)
    rw [List.head?_map, List.head?_map, hpage] at hserials
    obtain ⟨first, hfirst, hserial⟩ := Option.map_eq_some_iff.mp hserials.symm
    exact (h.checkout htop first hfirst (hserial ▸ hlast) checkoutPage hcheckout).respond hheld
      response

end

section
variable {D : Type} [DecidableEq D] [DartDouble D] [Zero D] [Add D] [Sub D] [Mul D] [IntCast D]
variable {s s' : Mocky D} {e : Event D}

theorem UpToDate.step (h : s.UpToDate) (hinv : s.Inv)
    (hheld : ∀ d ∈ s.memory.cartData.dishes, d.fetch < s.memory.fetches) (hstep : s.Step e s') :
    s'.UpToDate := by
  cases hstep with
  | session _ _ hpages _ =>
    have htop : topPage _ = topPage s.app.routes := congrArg List.head? hpages
    exact ⟨fun hhome => h.home (htop ▸ hhome), fun hcheckout => h.checkout (htop ▸ hcheckout)⟩
  | verificationCompleted | placeOrder | logout | answersNext | dispose =>
    exact ⟨h.home, h.checkout⟩
  | @created user _ =>
    obtain ⟨pages, hpages, _, _⟩ := createHomePage_homePages s (some user) s.app.routes.head?
    refine .of_homePage rfl fun page hpage _ => ?_
    rw [createHomePage_memory]
    rw [hpages] at hpage
    cases hpage
    rfl
  | opened =>
    refine .of_checkoutPage rfl fun page hpage => ?_
    cases hpage
    exact .refl _
  | ordered hroutes =>
    have hwell := hinv.wellStacked
    rw [hroutes] at hwell
    obtain ⟨rest, rfl⟩ := hwell.of_orderPlaced
    refine .of_homePage ?_ fun page hpage _ => ?_
    · change topPage s.app.routes.tail.tail = _
      rw [hroutes]
      rfl
    · change page ∈ (s.homePages.modifyHead _).head? at hpage
      cases hlist : s.homePages with
      | nil => rw [hlist] at hpage; cases hpage
      | cons first pages =>
        rw [hlist] at hpage
        cases hpage
        rfl
  | back hroutes => exact h.leave hinv hroutes (congrArg (topPage ∘ List.tail) hroutes)
  | cleared _ hroutes _ happ _ => exact h.leave hinv hroutes (by rw [happ]; rfl)
  | dish hroutes =>
    refine .of_homePage (by rw [hroutes]; rfl) fun page hpage _ => ?_
    cases hpage
    rfl
  | @card page pages i j d hpages hd =>
    refine ⟨fun htop page' hpage' hlast => ?_, fun htop page' hpage' hlast => ?_⟩
    · cases hpage'
      have hbuilt := h.home htop page (by rw [hpages]; rfl) hlast
      rw [BuiltHomePage.recount_of_built hbuilt]
      exact hbuilt
    · cases hpage'
      exact h.checkout htop page (by rw [hpages]; rfl) hlast
  | row hroutes =>
    refine .of_checkoutPage (by rw [hroutes]; rfl) fun page hpage => ?_
    cases hpage
    exact .refl _
  | respond _ => exact h.respond hheld _
  | mediaQuery =>
    refine ⟨fun _ page hpage _ => ?_, fun _ _ _ _ page hpage => ?_⟩
    · rw [mediaQuery, List.head?_map] at hpage
      obtain ⟨_, _, rfl⟩ := Option.map_eq_some_iff.mp hpage
      rfl
    · rw [mediaQuery, List.head?_map] at hpage
      obtain ⟨_, _, rfl⟩ := Option.map_eq_some_iff.mp hpage
      exact .refl _

omit [DecidableEq D] [Zero D] [Add D] [Sub D] [Mul D] in
/-- The dishes of the cart came with a response of the past. -/
theorem SourcedBy.fetch_lt {past : List (Event D)} (h : SourcedBy past s) :
    ∀ d ∈ s.memory.cartData.dishes, d.fetch < s.memory.fetches := fun d hd => by
  rw [h.fetches]
  exact (h.known.cart d hd).1.fetch_lt

theorem upToDate_run {storage : FlutterSecureStorage} {currentUser : Option User}
    {events : List (Event D)}
    (hrun : (machine D).run (runApp storage currentUser) events = some s) :
    s.Inv ∧ s.UpToDate := by
  have hall := Machine.run_history
    (I := fun past s => s.Inv ∧ SourcedBy past s ∧ s.UpToDate) ?_ ?_ hrun
  · exact ⟨hall.1, hall.2.2⟩
  · intro past s e s' ⟨hinv, hsourced, hcurrent⟩ hstep
    have hstep := step_sound hstep
    exact ⟨hinv.step hstep, hsourced.step hstep, hcurrent.step hinv hsourced.fetch_lt hstep⟩
  · exact ⟨inv_runApp storage currentUser, sourcedBy_runApp storage currentUser,
      upToDate_runApp storage currentUser⟩

/-- **The screen.** In every state of every run in which the top home page is the last one created:
if it is on top, it was built from the memory as it is now, and if its checkout page is on top, the
rows and the heading of the page are those that a build would show now. -/
theorem shown_now {storage : FlutterSecureStorage} {currentUser : Option User}
    {events : List (Event D)}
    (hrun : (machine D).run (runApp storage currentUser) events = some s) {page : BuiltHomePage D}
    (hpage : s.homePages.head? = some page) (hlast : page.serial + 1 = s.created) :
    (s.app.routes.head? = some .homePage → page.built = s.memory) ∧
    (s.app.routes.head? = some .checkoutPage → ∃ checkoutPage,
      s.checkoutPages.head? = some checkoutPage ∧
        CheckoutPage.menuList checkoutPage.built = CheckoutPage.menuList s.memory ∧
        CheckoutPage.topHeading checkoutPage.built = CheckoutPage.topHeading s.memory) := by
  obtain ⟨hinv, hcurrent⟩ := upToDate_run hrun
  refine ⟨fun hhome => hcurrent.home (topPage_of_head? rfl hhome) page hpage hlast,
    fun hcheckout => ?_⟩
  have hlength := hinv.aligned.checkoutPages
  obtain ⟨rest, hroutes⟩ := List.head?_eq_some_iff.mp hcheckout
  rw [hroutes, List.count_cons_self] at hlength
  cases hlist : s.checkoutPages with
  | nil => rw [hlist] at hlength; cases hlength
  | cons checkoutPage pages =>
    have hrows := hcurrent.checkout (topPage_of_head? rfl hcheckout) page hpage hlast checkoutPage
      (by rw [hlist]; rfl)
    exact ⟨checkoutPage, rfl, hrows.menuList_eq, hrows.topHeading_eq⟩

end

theorem shown_now_oneDish : ∃ s page checkoutPage, (machine ℚ).run
      (runApp { userToken := some ⟨⟨"alice", .google⟩, 0⟩ } (some ⟨"alice", .google⟩))
      [.respond oneDish, .dish true 0 0, .app .badgeOntap, .row true (some "1")] = some s ∧
    s.homePages.head? = some page ∧ s.checkoutPages.head? = some checkoutPage ∧
    CheckoutPage.menuList checkoutPage.built = CheckoutPage.menuList s.memory := by
  obtain ⟨s, page, hrun, hpage, hlast, hroute⟩ : ∃ s page, (machine ℚ).run homeOfOneDish
      [.dish true 0 0, .app .badgeOntap, .row true (some "1")] = some s ∧
      s.homePages.head? = some page ∧ page.serial + 1 = s.created ∧
      s.app.routes.head? = some .checkoutPage := ⟨_, _, rfl, rfl, rfl, rfl⟩
  rw [← run_homeOfOneDish] at hrun
  obtain ⟨checkoutPage, hcheckout, hrows, _⟩ := (shown_now hrun hpage hlast).2 hroute
  exact ⟨s, page, checkoutPage, hrun, hpage, hcheckout, hrows⟩

end Mocky

/-! ## The phone of one home page -/

/-- What the phone does when the route leaves the stack. -/
def Route.phoneEvent {D : Type} : Route → Option (Phone.Event D)
  | .homePage => some .leave
  | .checkoutPage => some (.tap .back)
  | _ => none

namespace Mocky

section
variable {D : Type}

/-- A checkout page needs a home page of its own. -/
theorem count_checkoutPage_le {routes : List Route} (h : MockAPP.WellStacked routes) :
    routes.count .checkoutPage ≤ routes.count .homePage ∧
      (routes.head? = some .homePage →
        routes.count .checkoutPage + 1 ≤ routes.count .homePage) := by
  induction routes with
  | nil => exact ⟨le_rfl, fun h => by cases h⟩
  | cons top rest ih =>
    have hrest : rest.count .checkoutPage ≤ rest.count .homePage ∧
        (rest.head? = some .homePage →
          rest.count .checkoutPage + 1 ≤ rest.count .homePage) := by
      cases rest with
      | nil => exact ⟨le_rfl, fun h => by cases h⟩
      | cons below rest => exact ih h.pop
    cases top with
    | homePage =>
      rw [List.count_cons_self, List.count_cons_of_ne (by decide)]
      exact ⟨Nat.le_succ_of_le hrest.1, fun _ => Nat.succ_le_succ hrest.1⟩
    | checkoutPage =>
      obtain ⟨below, rest', rfl⟩ := h.rest_ne_nil (fun h => nomatch h) fun h => nomatch h
      obtain rfl : below = .homePage := h.liesOn
      rw [List.count_cons_self, List.count_cons_of_ne (by decide)]
      exact ⟨hrest.2 rfl, fun h => by cases h⟩
    | loginPage | otpPage _ _ | invalidNumber | orderPlaced =>
      rw [List.count_cons_of_ne (by simp), List.count_cons_of_ne (by simp)]
      exact ⟨hrest.1, fun h => by cases h⟩

/-- The home page or the checkout page that the user is on, or was on before a dialog. -/
def page (s : Mocky D) : Option (Page D) :=
  s.homePages.head?.map fun _ =>
    s.checkoutPages.head?.elim .home fun checkoutPage => .checkout checkoutPage.model

/-- What is left of the app without its routes, its session and its builds. -/
def phone (s : Mocky D) : Phone D where
  memory := s.memory
  page := s.page
  outstanding := s.outstanding

/-- Builds do not count. -/
theorem page_congr {s t : Mocky D}
    (hhome : s.homePages.map BuiltHomePage.serial = t.homePages.map BuiltHomePage.serial)
    (hcheckout : s.checkoutPages.map BuiltCheckoutPage.model =
      t.checkoutPages.map BuiltCheckoutPage.model) : s.page = t.page := by
  have hall : ∀ u : Mocky D, u.page = (u.homePages.map BuiltHomePage.serial).head?.map fun _ =>
      (u.checkoutPages.map BuiltCheckoutPage.model).head?.elim .home .checkout := fun u => by
    rw [page, List.head?_map, List.head?_map, Option.map_map, Option.elim_map]
    rfl
  rw [hall, hall, hhome, hcheckout]

/-- What an event is for the phone, if anything. For a route that leaves and for the button of a
dialog this depends on the routes. -/
def phoneEvent (s : Mocky D) : Event D → Option (Phone.Event D)
  | .app (.signedIn _ true) => some .createHomePage
  | .app .badgeOntap => some (.tap .cartIcon)
  | .app .ok => if s.app.routes.head? = some .orderPlaced then some (.tap .ok) else none
  | .app .back => s.app.routes.head?.bind Route.phoneEvent
  | .app (.resume i _) =>
    if s.app.calls[i]? = some .clearUserToken then s.app.routes.head?.bind Route.phoneEvent
    else none
  | .dish isAdd mainIndex index => some (.tap (.dish isAdd mainIndex index))
  | .row isAdd key => some (.tap (.row isAdd key))
  | .respond response => some (.respond response)
  | _ => none

/-- No home page is created over another. -/
def CreatesNoSecond (s : Mocky D) : Event D → Prop
  | .app (.signedIn _ true) => .homePage ∉ s.app.routes.tail
  | _ => True

/-- There is at most one home page, and it is the last. -/
def Single (s : Mocky D) : Prop :=
  (s.homePages.map BuiltHomePage.serial).Sublist [s.created - 1]

variable {s : Mocky D}

/-- A route that takes no page with it leaves the phone as it is. -/
theorem phoneEvent_head {routes : List Route}
    (h : routes.tail.filter Route.isPage = routes.filter Route.isPage) :
    routes.head?.bind (Route.phoneEvent (D := D)) = none := by
  cases routes with
  | nil => rfl
  | cons top rest =>
    have hpage : top.isPage ≠ true := fun htop => by
      rw [List.filter_cons_of_pos htop] at h
      exact absurd (congrArg List.length h) (Nat.ne_of_lt (Nat.lt_succ_self _))
    cases top with
    | homePage | checkoutPage => exact (hpage rfl).elim
    | loginPage | otpPage _ _ | invalidNumber | orderPlaced => rfl

/-- The button of the order dialog takes a checkout page with it. -/
theorem head_ne_orderPlaced {e : MockAPP.Event} {app : MockAPP} (hinv : s.Inv)
    (hstep : s.app.Step e app)
    (hpages : app.routes.filter Route.isPage = s.app.routes.filter Route.isPage) (hok : e = .ok) :
    s.app.routes.head? ≠ some .orderPlaced := by
  subst hok
  intro hhead
  obtain ⟨rest, hroutes⟩ := List.head?_eq_some_iff.mp hhead
  have hwell := hinv.wellStacked
  rw [hroutes] at hwell
  obtain ⟨rest', rfl⟩ := hwell.of_orderPlaced
  cases hstep with
  | okInvalidNumber hother =>
    rw [hroutes] at hother
    cases hother
  | okOrderPlaced _ =>
    have hpages : s.app.routes.tail.tail.filter Route.isPage =
        s.app.routes.filter Route.isPage := hpages
    rw [hroutes] at hpages
    exact absurd (congrArg List.length hpages) (Nat.ne_of_lt (Nat.lt_succ_self _))

/-- What changes no page on the stack is nothing to the phone. -/
theorem phoneEvent_session {e : MockAPP.Event} {app : MockAPP} (hinv : s.Inv)
    (hstep : s.app.Step e app) (huses : e.usesPage = false)
    (hpages : app.routes.filter Route.isPage = s.app.routes.filter Route.isPage) :
    s.phoneEvent (.app e) = none := by
  have hok := head_ne_orderPlaced hinv hstep hpages
  cases hstep with
  | @signedIn user mounted =>
    cases mounted with
    | true => cases huses
    | false => rfl
  | badgeOntap | placeOrder | logout => cases huses
  | okInvalidNumber | okOrderPlaced => exact if_neg (hok rfl)
  | back => exact phoneEvent_head hpages
  | resumed hcall hclear =>
    exact if_neg fun h => hclear (Option.some.inj (hcall.symm.trans h))
  | cleared hcall => exact (if_pos hcall).trans (phoneEvent_head hpages)
  | _ => rfl

theorem Single.eq_nil_or (h : s.Single) (hinv : s.Inv) :
    s.homePages = [] ∨ ∃ page, s.homePages = [page] ∧ page.serial + 1 = s.created := by
  rcases List.sublist_singleton.mp h with hnil | hone
  · exact .inl (List.map_eq_nil_iff.mp hnil)
  · obtain ⟨page, hpage, hserial⟩ := List.map_eq_singleton_iff.mp hone
    have hlt := hinv.ordered
    rw [Ordered, hpage] at hlt
    have hlt : page.serial < s.created := (List.pairwise_cons.mp hlt).1 _ List.mem_cons_self
    exact .inr ⟨page, hpage, by omega⟩

theorem Single.length_homePages (h : s.Single) : s.homePages.length ≤ 1 := by
  have hlength := List.Sublist.length_le h
  rwa [List.length_map] at hlength

theorem Single.checkoutPages_eq_nil (h : s.Single) (hinv : s.Inv) {rest : List Route}
    (hroutes : s.app.routes = .homePage :: rest) : s.checkoutPages = [] := by
  have hcount := (count_checkoutPage_le hinv.wellStacked).2 (by rw [hroutes]; rfl)
  rw [← hinv.aligned.homePages, ← hinv.aligned.checkoutPages] at hcount
  have hone := h.length_homePages
  exact List.length_eq_zero_iff.mp (by omega)

/-- With a checkout page on the stack there is this one and its home page. -/
theorem Single.of_checkoutPage (h : s.Single) (hinv : s.Inv)
    (hmem : .checkoutPage ∈ s.app.routes) : ∃ page checkoutPage, s.homePages = [page] ∧
      page.serial + 1 = s.created ∧ s.checkoutPages = [checkoutPage] := by
  have hcount := (count_checkoutPage_le hinv.wellStacked).1
  have hpos : 0 < s.app.routes.count .checkoutPage := List.count_pos_iff.mpr hmem
  rw [← hinv.aligned.homePages, ← hinv.aligned.checkoutPages] at hcount
  rw [← hinv.aligned.checkoutPages] at hpos
  rcases h.eq_nil_or hinv with hnil | ⟨page, hpage, hlast⟩
  · rw [hnil] at hcount
    exact absurd (hpos.trans_le hcount) (Nat.lt_irrefl 0)
  · rw [hpage] at hcount
    obtain ⟨checkoutPage, hcheckout⟩ :=
      List.length_eq_one_iff.mp (Nat.le_antisymm hcount hpos)
    exact ⟨page, checkoutPage, hpage, hlast, hcheckout⟩

/-- The home page on top is the only page, and its build is the memory. -/
theorem Single.homePage (h : s.Single) (hinv : s.Inv) (hcurrent : s.UpToDate)
    {page : BuiltHomePage D} {pages : List (BuiltHomePage D)} {rest : List Route}
    (hroutes : s.app.routes = .homePage :: rest) (hpages : s.homePages = page :: pages) :
    page.built = s.memory ∧ s.checkoutPages = [] ∧ s.page = some .home := by
  have hnil := h.checkoutPages_eq_nil hinv hroutes
  rcases h.eq_nil_or hinv with hempty | ⟨only, honly, hlast⟩
  · rw [hempty] at hpages
    cases hpages
  · rw [honly] at hpages
    cases hpages
    refine ⟨hcurrent.home (by rw [hroutes]; rfl) page (by rw [honly]; rfl) hlast, hnil, ?_⟩
    rw [Mocky.page, honly, hnil]
    rfl

theorem Single.leave (h : s.Single) (route : Route) : (s.leave route).Single := by
  rw [Single, leave_created]
  exact (serials_leave s route).trans h

theorem Single.createHomePage (hinv : s.Inv) (hone : .homePage ∉ s.app.routes.tail)
    (user : Option User) : (s.createHomePage user s.app.routes.head?).Single := by
  obtain ⟨pages, hpages, _, _⟩ := createHomePage_homePages s user s.app.routes.head?
  have hlength := (hinv.aligned.createHomePage user).1
  rw [List.count_eq_zero_of_not_mem hone, hpages] at hlength
  obtain rfl : pages = [] := List.length_eq_zero_iff.mp (Nat.succ.inj hlength)
  rw [Single, hpages, createHomePage_created]
  exact List.Sublist.refl _

end

section
variable {D : Type} [DecidableEq D] [DartDouble D] [Zero D] [Add D] [Sub D] [Mul D] [IntCast D]
variable {s s' : Mocky D} {e : Event D}

theorem Single.step (h : s.Single) (hinv : s.Inv) (hone : s.CreatesNoSecond e)
    (hstep : s.Step e s') : s'.Single := by
  cases hstep with
  | session | verificationCompleted | placeOrder | logout | opened | row => exact h
  | answersNext | dispose => exact h
  | created => exact Single.createHomePage hinv hone _
  | ordered =>
    have hreset : Single { s with memory := CheckoutController.resetCount s.memory } := h
    exact hreset.leave .checkoutPage
  | back | cleared => exact h.leave _
  | dish _ hpages =>
    rw [Single, hpages] at h
    exact h
  | card hpages =>
    rw [Single, hpages] at h
    exact h
  | respond _ =>
    rw [Single, respond_created, serials_respond]
    exact h
  | mediaQuery =>
    rw [Single, mediaQuery, List.map_map]
    exact h

/-- The route on top leaves: the phone goes back, or nothing happens to it. -/
theorem phone_leave (h : s.Single) (hinv : s.Inv) {top : Route} {rest : List Route}
    (hroutes : s.app.routes = top :: rest) :
    (Phone.machine D).orIdle.step s.phone top.phoneEvent = some (s.leave top).phone := by
  cases top with
  | homePage =>
    have hnil := h.checkoutPages_eq_nil hinv hroutes
    have hlength := hinv.aligned.homePages
    rw [hroutes, List.count_cons_self] at hlength
    rcases h.eq_nil_or hinv with hhome | ⟨page, hhome, _⟩
    · rw [hhome] at hlength
      cases hlength
    · rw [phone, phone, Mocky.page, Mocky.page, Mocky.leave, hhome, hnil]
      rfl
  | checkoutPage =>
    obtain ⟨page, checkoutPage, hhome, _, hcheckout⟩ :=
      h.of_checkoutPage hinv (hroutes ▸ List.mem_cons_self)
    rw [phone, phone, Mocky.page, Mocky.page, Mocky.leave, hhome, hcheckout]
    rfl
  | loginPage | otpPage _ _ | invalidNumber | orderPlaced => rfl

/-- A tap on the page that the user is on. -/
theorem phone_tap {tap : Tap} {page after : Page D} {memory : Memory D} (hpage : s.page = some page)
    (hshows : page = .home → Phone.showsTabs s.memory = true)
    (htap : App.Step ⟨s.memory, page⟩ tap ⟨memory, after⟩) :
    (Phone.machine D).orIdle.step s.phone (some (.tap tap)) =
      some { memory, page := some after, outstanding := s.outstanding } := by
  change Phone.step s.phone (.tap tap) = _
  rw [Phone.step, phone, hpage]
  dsimp only
  rw [if_neg (fun h => Bool.false_ne_true (h.2.symm.trans (hshows h.1))), App.step_complete htap]
  rfl

/-- The phone does what the event is for it. -/
theorem Step.phone (h : s.Single) (hinv : s.Inv) (hcurrent : s.UpToDate)
    (hone : s.CreatesNoSecond e) (hinv' : s'.Inv) (hstep : s.Step e s') :
    (Phone.machine D).orIdle.step s.phone (s.phoneEvent e) = some s'.phone := by
  have hsingle := h.step hinv hone hstep
  cases hstep with
  | verificationCompleted | placeOrder | logout | answersNext | dispose => rfl
  | session hstep huses hpages _ =>
    rw [phoneEvent_session hinv hstep huses hpages]
    rfl
  | @created user _ =>
    obtain ⟨pages, hpages, _, _⟩ := createHomePage_homePages s (some user) s.app.routes.head?
    have hnil := hsingle.checkoutPages_eq_nil hinv' rfl
    dsimp only at hnil
    rw [Mocky.phone, Mocky.phone, Mocky.page, Mocky.page]
    dsimp only
    rw [hpages, hnil, createHomePage_memory, createHomePage_outstanding]
    rfl
  | opened hroutes hpages hshows hcount =>
    obtain ⟨hbuilt, hnil, hpage⟩ := h.homePage hinv hcurrent hroutes hpages
    rw [BuiltHomePage.showsTabs, hbuilt] at hshows
    refine (phone_tap hpage (fun _ => (Bool.and_eq_true_iff.mp hshows).1) (.opened hcount)).trans ?_
    rw [Mocky.phone, Mocky.page, openCheckoutPage]
    dsimp only
    rw [hpages]
    rfl
  | ordered hroutes =>
    have hwell := hinv.wellStacked
    rw [hroutes] at hwell
    obtain ⟨rest, rfl⟩ := hwell.of_orderPlaced
    obtain ⟨page, checkoutPage, hpages, _, hcheckout⟩ := h.of_checkoutPage hinv (by simp [hroutes])
    have hplace : s.phoneEvent (.app .ok) = some (.tap .ok) := if_pos (by rw [hroutes]; rfl)
    rw [hplace, Mocky.phone, Mocky.phone, Mocky.page, Mocky.page, Mocky.leave]
    dsimp only
    rw [hpages, hcheckout]
    rfl
  | back hroutes =>
    have hleave := phone_leave h hinv hroutes
    rw [phoneEvent, hroutes]
    exact hleave
  | cleared hcall hroutes =>
    have hleave := phone_leave h hinv hroutes
    rw [phoneEvent, if_pos hcall, hroutes]
    exact hleave
  | @dish page pages rest isAdd i j d hroutes hpages hshows hd hbuilt hguard =>
    obtain ⟨hmemory, hnil, hpage⟩ := h.homePage hinv hcurrent hroutes hpages
    rw [BuiltHomePage.showsTabs, hmemory] at hshows
    rw [hmemory] at hd hguard
    refine (phone_tap hpage (fun _ => (Bool.and_eq_true_iff.mp hshows).1)
      (.dish hd hbuilt hguard)).trans ?_
    rw [Mocky.phone, Mocky.page]
    dsimp only
    rw [hnil]
    rfl
  | card hpages =>
    rw [Mocky.phone, Mocky.phone]
    exact congrArg (fun page => some (Phone.mk s.memory page s.outstanding))
      (page_congr (by rw [hpages]; rfl) rfl)
  | @row page pages rest isAdd d hroutes hpages hkey hd =>
    obtain ⟨homePage, checkoutPage, hhomes, _, hone⟩ :=
      h.of_checkoutPage hinv (hroutes ▸ List.mem_cons_self)
    rw [hone] at hpages
    cases hpages
    have hpage : s.page = some (.checkout page.model) := by
      rw [Mocky.page, hhomes, hone]
      rfl
    refine (phone_tap hpage (fun h => by cases h) (.row hd)).trans ?_
    rw [Mocky.phone, Mocky.page]
    dsimp only
    rw [hhomes]
    rfl
  | @respond response hout =>
    have hpage : (s.respond response).page = s.page :=
      page_congr (serials_respond s response) (by rw [respond_checkoutPages])
    have hsome : s.phone.outstanding ≠ 0 := hout
    change Phone.step s.phone (.respond response) = some (s.respond response).phone
    rw [Phone.step, if_neg hsome, Mocky.phone, Mocky.phone, hpage, respond_memory,
      respond_outstanding]
  | mediaQuery =>
    have hpage : s.mediaQuery.page = s.page := by
      refine page_congr ?_ ?_
      · exact List.map_map.trans (List.map_congr_left fun _ _ => rfl)
      · exact List.map_map.trans (List.map_congr_left fun _ _ => rfl)
    rw [Mocky.phone, Mocky.phone, hpage]
    rfl

/-- What a run keeps that creates no home page over another. -/
structure OneHomePage (s : Mocky D) : Prop where
  inv : s.Inv
  upToDate : s.UpToDate
  single : s.Single
  sourced : ∃ past, SourcedBy past s

theorem OneHomePage.step (h : s.OneHomePage) (hone : s.CreatesNoSecond e) (hstep : s.Step e s') :
    s'.OneHomePage := by
  obtain ⟨past, hsourced⟩ := h.sourced
  exact ⟨h.inv.step hstep, h.upToDate.step h.inv hsourced.fetch_lt hstep,
    h.single.step h.inv hone hstep, _, hsourced.step hstep⟩

omit [DecidableEq D] [Zero D] [Add D] [Sub D] [Mul D] in
theorem oneHomePage_runApp (storage : FlutterSecureStorage) (currentUser : Option User) :
    (runApp storage currentUser : Mocky D).OneHomePage where
  inv := inv_runApp storage currentUser
  upToDate := upToDate_runApp storage currentUser
  single := runApp_cases (fun _ _ => List.Sublist.refl _) fun _ _ => List.nil_sublist _
  sourced := ⟨[], sourcedBy_runApp storage currentUser⟩

theorem OneHomePage.phone (h : s.OneHomePage) (hone : s.CreatesNoSecond e)
    (hstep : s.Step e s') :
    (Phone.machine D).orIdle.step s.phone (s.phoneEvent e) = some s'.phone :=
  hstep.phone h.single h.inv h.upToDate hone (h.inv.step hstep)

/-- **One home page.** A run that creates no home page over another is a run of the `Phone`: of the
same taps on dishes, rows and the cart icon, the same orders and ways back, the same responses and
the same new home pages, in the same order. It leads to the same memory and page, so no build is
ever stale. -/
theorem refines_phone {storage : FlutterSecureStorage} {currentUser : Option User}
    {events : List (Event D)}
    (hone : (machine D).AlongSteps CreatesNoSecond (runApp storage currentUser) events)
    (hrun : (machine D).run (runApp storage currentUser) events = some s) :
    (Phone.machine D).run (runApp storage currentUser : Mocky D).phone
      ((machine D).outputs phoneEvent (runApp storage currentUser) events).reduceOption =
        some s.phone := by
  rw [← Machine.run_orIdle]
  exact Machine.run_abstracts (I := OneHomePage) (C := CreatesNoSecond)
    (fun _ _ _ h hone hstep => h.step hone (step_sound hstep))
    (fun _ _ _ h hone hstep => h.phone hone (step_sound hstep))
    (oneHomePage_runApp storage currentUser) hone hrun

end

/-- An order that is placed, and a way back from the cart. -/
theorem refines_phone_oneDish : ∃ s, (machine ℚ).run
      (runApp { userToken := some ⟨⟨"alice", .google⟩, 0⟩ } (some ⟨"alice", .google⟩))
      [.respond oneDish, .dish true 0 0, .app .badgeOntap, .app .placeOrder, .app .ok,
        .dish true 0 0, .app .badgeOntap, .app .back] = some s ∧
    (Phone.machine ℚ).run
        (runApp { userToken := some ⟨⟨"alice", .google⟩, 0⟩ } (some ⟨"alice", .google⟩) :
          Mocky ℚ).phone
        [.respond oneDish, .tap (.dish true 0 0), .tap .cartIcon, .tap .ok, .tap (.dish true 0 0),
          .tap .cartIcon, .tap .back] = some s.phone := by
  obtain ⟨s, hrun⟩ : ∃ s, (machine ℚ).run homeOfOneDish [.dish true 0 0, .app .badgeOntap,
      .app .placeOrder, .app .ok, .dish true 0 0, .app .badgeOntap, .app .back] = some s := ⟨_, rfl⟩
  rw [← run_homeOfOneDish] at hrun
  have hone : ∀ e ∈ [.respond oneDish, .dish true 0 0, .app .badgeOntap, .app .placeOrder, .app .ok,
      .dish true 0 0, .app .badgeOntap, .app .back], ∀ t : Mocky ℚ, t.CreatesNoSecond e := by
    simp [CreatesNoSecond]
  have hphone := refines_phone (.of_forall hone) hrun
  rw [Machine.outputs_cons step_homeOfOneDish] at hphone
  exact ⟨s, hrun, hphone⟩

end Mocky
end MachineTest
