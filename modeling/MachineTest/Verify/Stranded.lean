import MachineTest.Verify.Provenance

/-! # Home pages without an exit

The only button that leaves a home page at the bottom of the stack is the logout of its drawer, and
the drawer is there only when the page was built with a menu and with a user. Without a menu, a
request under way may still bring one. A sign-in under way may create another home page, and a
logout under way may replace the page, if the page that waits for it is still there. When none of
these is left, the page stays for ever. -/

namespace MachineTest

/-- The calls of `removeFirebaseToken`. -/
def TokenCall.removes : TokenCall → Bool
  | .deleteUserToken | .deleteIsLogin | .clearUserToken => true
  | _ => false

/-- What is left of a call is a part of the same call. -/
theorem TokenCall.removes_resume {call rest : TokenCall} {serial : ℕ} {s : SessionStore}
    (h : rest ∈ (call.resume serial s).2.toList) : rest.removes = call.removes := by
  rw [Option.mem_toList] at h
  cases call <;> cases h <;> rfl

/-! ## What waits -/

namespace Contexts

variable {c c' : Contexts} {app app' : MockAPP} {e : MockAPP.Event}

/-- The pages that wait for a sign-in or for a logout are gone. -/
structure Deserted (c : Contexts) (app : MockAPP) : Prop where
  follows : c.Follows app
  signIns : ∀ signIn ∈ c.signIns, c.mounted signIn.2 = false
  calls : ∀ call page, c.Started app call page → call.removes = true → c.mounted page = false

namespace Deserted

/-- What the last home page was waiting for comes to nothing. -/
theorem step (h : c.Deserted app) (hroutes : app.routes = [.homePage])
    (huses : e.usesPage = false) (hallows : c.allows app e = true) (hstep : app.Step e app') :
    (c.after app e).Deserted app' ∧ app'.routes = [.homePage] := by
  have hfollows := h.follows.step hstep
  have htop {top : Route} {rest : List Route} (hother : app.routes = top :: rest)
      (hne : top ≠ .homePage) : False := hne (List.cons.inj (hother.symm.trans hroutes)).1
  cases hstep with
  | googleButtonAction hother | phoneButtonAction hother => exact (htop hother nofun).elim
  | editPhoneNumber hother | editOtp hother | registered hother | refused hother
  | submitted hother => exact (htop hother nofun).elim
  | okInvalidNumber hother | okOrderPlaced hother => exact (htop hother nofun).elim
  | back hother => cases hother.symm.trans hroutes
  | badgeOntap | placeOrder | logout => cases huses
  | codeSent | verificationFailed => exact ⟨⟨hfollows, h.signIns, h.calls⟩, hroutes⟩
  | @signedIn user mounted =>
    cases mounted with
    | true => cases huses
    | false =>
      refine ⟨⟨hfollows, fun signIn hmem => ?_, h.calls⟩, hroutes⟩
      exact h.signIns signIn (List.mem_of_mem_eraseP hmem)
  | signInFailed =>
    refine ⟨⟨hfollows, fun signIn hmem => ?_, h.calls⟩, hroutes⟩
    exact h.signIns signIn (List.mem_of_mem_eraseP hmem)
  | @resumed i serial tokenCall hcall hclear =>
    have hne : app.calls[i]? ≠ some .clearUserToken := fun h =>
      hclear (Option.some.inj (hcall.symm.trans h))
    obtain ⟨hsignIns, hmounted⟩ := c.after_resume_of_ne serial hne
    refine ⟨⟨hfollows, ?_, fun call page hstarted hremoves => ?_⟩, hroutes⟩
    · rw [hsignIns, hmounted]
      exact h.signIns
    · rw [hmounted]
      rcases hstarted.of_resume h.follows hcall rfl with hold | ⟨hrest, hold⟩
      · exact h.calls call page hold hremoves
      · rw [TokenCall.removes_resume (Option.mem_toList.mpr hrest)] at hremoves
        exact h.calls tokenCall page hold hremoves
  | cleared hcall =>
    obtain ⟨page, hstarted, hmounted⟩ := exists_of_cleared hcall hallows
    exact (Bool.false_ne_true ((h.calls _ page hstarted rfl).symm.trans hmounted)).elim
  | threw hcall =>
    refine ⟨⟨hfollows, h.signIns, fun call page hstarted => ?_⟩, hroutes⟩
    exact h.calls call page (hstarted.of_throws rfl)

theorem answersNext {i : ℕ} (h : c.Deserted app) (hnext : c.answersNext i = some c') :
    c'.Deserted app := by
  have hfollows := h.follows.answersNext hnext
  obtain ⟨signIns, hperm, rfl⟩ := answersNext_eq_some hnext
  exact ⟨hfollows, fun signIn hmem => h.signIns signIn (hperm.mem_iff.mp hmem), h.calls⟩

theorem dispose {page : ℕ} (h : c.Deserted app) (hdispose : c.dispose page = some c') :
    c'.Deserted app := by
  have hfollows := h.follows.dispose hdispose
  obtain rfl := dispose_eq_some hdispose
  exact ⟨hfollows, fun signIn hmem => mounted_erase (h.signIns signIn hmem),
    fun call page hstarted hremoves => mounted_erase (h.calls call page hstarted hremoves)⟩

end Deserted
end Contexts

namespace Mocky

/-! ## What stays -/

section
variable {D : Type} {s : Mocky D}

/-- Nothing will ever take the home page from the bottom of the stack. -/
structure Stranded (s : Mocky D) : Prop where
  routes : s.app.routes = [.homePage]
  deserted : s.contexts.Deserted s.app
  pages : ∀ page ∈ s.homePages, page.user = none ∨ (Phone.showsTabs page.built = false ∧
    Phone.showsTabs s.memory = false ∧ s.outstanding = 0)

/-- What a stranded page does not change. -/
structure Kept (s s' : Mocky D) : Prop where
  requested : s'.app.requested = s.app.requested
  signIns : s.app.signIns = [] → s'.app.signIns = []
  currentUser : s.app.requested = 0 → s.app.signIns = [] →
    s'.app.currentUser = s.app.currentUser
  cartData : s'.memory.cartData = s.memory.cartData
  store : s.app.calls = [] → s'.app.calls = [] ∧ s'.app.store = s.app.store

theorem Kept.of_eq {s' : Mocky D} (happ : s'.app = s.app)
    (hcart : s'.memory.cartData = s.memory.cartData) : s.Kept s' := by
  refine ⟨?_, fun hnil => ?_, fun _ _ => ?_, hcart, fun hnil => ?_⟩
  · rw [happ]
  · rw [happ]
    exact hnil
  · rw [happ]
  · rw [happ]
    exact ⟨hnil, rfl⟩

theorem Stranded.not_showsTabs (h : s.Stranded) {page : BuiltHomePage D}
    (hmem : page ∈ s.homePages) : page.showsTabs ≠ true := by
  intro hshows
  obtain ⟨hmenu, huser⟩ := Bool.and_eq_true_iff.mp hshows
  rcases h.pages page hmem with hnone | ⟨hbuilt, _, _⟩
  · rw [hnone] at huser
    cases huser
  · exact Bool.false_ne_true (hbuilt.symm.trans hmenu)

/-- A route on top other than the home page. -/
theorem Stranded.ne_top {top : Route} {rest : List Route} (h : s.Stranded)
    (hroutes : s.app.routes = top :: rest) (hne : top ≠ .homePage) : False :=
  hne (List.cons.inj (hroutes.symm.trans h.routes)).1

/-- What the session keeps. -/
theorem Stranded.kept_session {e : MockAPP.Event} {app : MockAPP} {contexts : Contexts}
    (h : s.Stranded) (huses : e.usesPage = false) (hstep : s.app.Step e app) :
    s.Kept { s with app, contexts } := by
  cases hstep with
  | googleButtonAction hroutes | phoneButtonAction hroutes => exact (h.ne_top hroutes nofun).elim
  | editPhoneNumber hroutes | editOtp hroutes | registered hroutes | refused hroutes
  | submitted hroutes => exact (h.ne_top hroutes nofun).elim
  | okInvalidNumber hroutes | okOrderPlaced hroutes => exact (h.ne_top hroutes nofun).elim
  | back hroutes => cases hroutes.symm.trans h.routes
  | badgeOntap | placeOrder | logout => cases huses
  | codeSent | verificationFailed =>
    exact ⟨rfl, id, fun _ _ => rfl, rfl, fun hnil => ⟨hnil, rfl⟩⟩
  | @signedIn user mounted hmem =>
    have hsome : s.app.signIns ≠ [] := List.ne_nil_of_mem hmem
    cases mounted with
    | true => cases huses
    | false => exact ⟨rfl, fun hnil => absurd hnil hsome, fun _ hnil => absurd hnil hsome, rfl,
        fun hnil => ⟨hnil, rfl⟩⟩
  | signInFailed hmem =>
    have hsome : s.app.signIns ≠ [] := List.ne_nil_of_mem hmem
    exact ⟨rfl, fun hnil => absurd hnil hsome, fun _ _ => rfl, rfl, fun hnil => ⟨hnil, rfl⟩⟩
  | resumed hcall _ | cleared hcall | threw hcall =>
    refine ⟨rfl, id, fun _ _ => rfl, rfl, fun hnil => ?_⟩
    rw [hnil] at hcall
    cases hcall

end

section
variable {D : Type} [DecidableEq D] [DartDouble D] [Zero D] [Add D] [Sub D] [Mul D] [IntCast D]
variable {s s' : Mocky D} {e : Event D}

/-- A stranded page stays. -/
theorem Stranded.step (h : s.Stranded) (hstep : s.Step e s') : s'.Stranded ∧ s.Kept s' := by
  cases hstep with
  | session hstep huses _ hallows =>
    obtain ⟨hdeserted, hroutes⟩ := h.deserted.step h.routes huses hallows hstep
    exact ⟨⟨hroutes, hdeserted, h.pages⟩, h.kept_session huses hstep⟩
  | verificationCompleted hrequested hphone =>
    have hfollows := (Step.verificationCompleted hrequested hphone).follows h.deserted.follows
    exact ⟨⟨h.routes, ⟨hfollows, h.deserted.signIns, h.deserted.calls⟩, h.pages⟩,
      ⟨rfl, id, fun hnone _ => absurd hnone hrequested, rfl, fun hnil => ⟨hnil, rfl⟩⟩⟩
  | created _ hallows =>
    obtain ⟨signIn, hmem, hmounted⟩ := Contexts.exists_of_signedIn hallows
    have hgone := h.deserted.signIns signIn hmem
    exact (Bool.false_ne_true (hgone.symm.trans hmounted)).elim
  | opened _ hpages hshows | logout _ hpages hshows | dish _ hpages hshows =>
    exact (h.not_showsTabs (hpages ▸ List.mem_cons_self) hshows).elim
  | placeOrder hroutes | ordered hroutes | row hroutes => exact (h.ne_top hroutes nofun).elim
  | back hroutes => cases hroutes.symm.trans h.routes
  | cleared hcall _ _ _ hallows =>
    obtain ⟨page, hstarted, hmounted⟩ := Contexts.exists_of_cleared hcall hallows
    have hgone := h.deserted.calls _ page hstarted rfl
    exact (Bool.false_ne_true (hgone.symm.trans hmounted)).elim
  | card hpages =>
    refine ⟨⟨h.routes, h.deserted, ?_⟩, .of_eq rfl rfl⟩
    have hall := h.pages
    rw [hpages] at hall
    exact List.forall_mem_cons.mpr (List.forall_mem_cons.mp hall)
  | @respond response hout =>
    have happ : (s.respond response).app = s.app := respond_app s response
    have hcontexts : (s.respond response).contexts = s.contexts := respond_contexts s response
    have hnone : ∀ page ∈ s.homePages, page.user = none := fun page hmem =>
      (h.pages page hmem).resolve_right fun hstuck => hout hstuck.2.2
    have husers := map_respond_homePages (f := BuiltHomePage.user) s response fun _ _ => rfl
    refine ⟨⟨?_, ?_, fun page hpage => .inl ?_⟩, .of_eq happ ?_⟩
    · rw [happ]
      exact h.routes
    · rw [happ, hcontexts]
      exact h.deserted
    · have hmem := List.mem_map_of_mem (f := BuiltHomePage.user) hpage
      rw [husers] at hmem
      obtain ⟨page', hpage', huser⟩ := List.mem_map.mp hmem
      exact huser ▸ hnone page' hpage'
    · rw [respond_memory]
      rcases HomePageController.fetchAPIDataResume_cases response s.memory with
        ⟨_, _, _, _, hs⟩ | ⟨_, _, hs⟩
      · rw [hs]
        rfl
      · rw [hs]
  | mediaQuery =>
    refine ⟨⟨h.routes, h.deserted, fun page hpage => ?_⟩, .of_eq rfl rfl⟩
    obtain ⟨page, hmem, rfl⟩ := List.mem_map.mp hpage
    exact (h.pages page hmem).imp_right fun hstuck => ⟨hstuck.2.1, hstuck.2⟩
  | answersNext hnext =>
    exact ⟨⟨h.routes, h.deserted.answersNext hnext, h.pages⟩, .of_eq rfl rfl⟩
  | dispose hdispose =>
    exact ⟨⟨h.routes, h.deserted.dispose hdispose, h.pages⟩, .of_eq rfl rfl⟩

theorem Stranded.run {events : List (Event D)} (h : s.Stranded)
    (hrun : (machine D).run s events = some s') : s'.Stranded :=
  Machine.run_invariant (fun _ _ _ h hstep => (h.step (step_sound hstep)).1) h hrun

/-- The app as it starts with a stored token when Firebase has no user. -/
structure LockedOut (storage : FlutterSecureStorage) (s : Mocky D) : Prop extends Stranded s where
  requested : s.app.requested = 0
  noSignIns : s.app.signIns = []
  currentUser : s.app.currentUser = none
  cartData : s.memory.cartData.dishes = []
  noCalls : s.app.calls = []
  storage : s.app.store.storage = storage

omit [DecidableEq D] [DartDouble D] [Zero D] [Add D] [Sub D] [Mul D] [IntCast D] in
theorem lockedOut_runApp {storage : FlutterSecureStorage} (htoken : storage.userToken ≠ none) :
    (runApp storage none : Mocky D).LockedOut storage := by
  have hfollows := follows_runApp (D := D) storage none
  have hstart : MockAPP.runApp storage none = MockAPP.initHomePage
      { routes := [.homePage], store := (checkIfLoggedIn { storage }).2, currentUser := none } := by
    rw [MockAPP.runApp, checkIfLoggedIn, if_pos htoken]
    rfl
  rw [runApp, hstart] at hfollows ⊢
  constructor
  · refine ⟨rfl, ⟨hfollows, fun _ h => (by cases h), fun call page hstarted => ?_⟩,
      fun page hpage => .inl (List.mem_singleton.mp hpage ▸ rfl)⟩
    obtain ⟨i, hcall, _⟩ := hstarted
    cases hcall
  · rfl
  · rfl
  · rfl
  · rfl
  · rfl
  · change (checkIfLoggedIn { storage }).2.storage = storage
    rw [checkIfLoggedIn, if_pos htoken]

theorem LockedOut.step {storage : FlutterSecureStorage} (h : s.LockedOut storage)
    (hstep : s.Step e s') : s'.LockedOut storage := by
  obtain ⟨hstranded, hkept⟩ := h.toStranded.step hstep
  obtain ⟨hcalls, hstore⟩ := hkept.store h.noCalls
  exact { hstranded with
    requested := hkept.requested.trans h.requested
    noSignIns := hkept.signIns h.noSignIns
    currentUser := (hkept.currentUser h.requested h.noSignIns).trans h.currentUser
    cartData := (congrArg CartData.dishes hkept.cartData).trans h.cartData
    noCalls := hcalls
    storage := (congrArg SessionStore.storage hstore).trans h.storage }

/-- **Locked out.** Started with a stored token when Firebase has no user, the app stays on its home
page in every run, without tabs, cart or drawer, and leaves the storage as it is: the next start is
the same. -/
theorem locked_out {storage : FlutterSecureStorage} {events : List (Event D)}
    (htoken : storage.userToken ≠ none)
    (hrun : (machine D).run (runApp storage none) events = some s) :
    s.app.routes = [.homePage] ∧ (∀ page ∈ s.homePages, page.showsTabs = false) ∧
      s.memory.cartData.dishes = [] ∧ s.app.store.storage = storage ∧ s.app.currentUser = none := by
  have hlocked : s.LockedOut storage := Machine.run_invariant
    (fun _ _ _ h hstep => h.step (step_sound hstep)) (lockedOut_runApp htoken) hrun
  refine ⟨hlocked.routes, fun page hmem => ?_, hlocked.cartData, hlocked.storage,
    hlocked.currentUser⟩
  exact Bool.eq_false_of_not_eq_true (hlocked.not_showsTabs hmem)

/-! ## What leaves -/

theorem step_app {e : MockAPP.Event} {app : MockAPP} {t : Mocky D}
    (hallows : s.contexts.allows s.app e = true) (happ : s.app.step e = some app)
    (hreact : s.react e s.app.routes = some t) : (machine D).step s (.app e) =
      some { t with app, contexts := s.contexts.after s.app e } := by
  change s.step (.app e) = _
  rw [step, if_pos hallows, happ, Option.bind_eq_bind, Option.bind_some, hreact]
  rfl

/-- Some run puts the login page in the place of the route on top. -/
def Replaceable (s : Mocky D) : Prop :=
  ∃ events s', (machine D).run s events = some s' ∧ s'.app.routes = .loginPage :: s.app.routes.tail

theorem Replaceable.of_step (h : s'.Replaceable) (hstep : (machine D).step s e = some s')
    (hroutes : s'.app.routes = s.app.routes) : s.Replaceable := by
  obtain ⟨events, t, hrun, ht⟩ := h
  exact ⟨e :: events, t, Machine.run_cons.mpr ⟨s', hstep, hrun⟩, hroutes ▸ ht⟩

/-- A logout that waits for its last step navigates if its page is still there. -/
theorem replaceable_of_clearUserToken {page : ℕ}
    (hstarted : s.contexts.Started s.app .clearUserToken page)
    (hmounted : s.contexts.mounted page = true) (hnil : s.app.routes ≠ []) : s.Replaceable := by
  obtain ⟨i, hcall, hpage⟩ := hstarted
  obtain ⟨top, below, hroutes⟩ := List.exists_cons_of_ne_nil hnil
  have hallows : s.contexts.allows s.app (.resume i 0) = true := by
    simp [Contexts.allows, hpage, hmounted]
  have hreact : s.react (.resume i 0) s.app.routes = some (s.leave top) := by
    rw [hroutes, react, if_pos hcall]
  exact ⟨[.app (.resume i 0)], _, Machine.run_cons.mpr
    ⟨_, step_app hallows (MockAPP.step_complete (.cleared hcall)) hreact, rfl⟩, rfl⟩

/-- One `await` less. -/
theorem replaceable_of_rest {call rest : TokenCall} {page : ℕ}
    (hstarted : s.contexts.Started s.app call page) (hmounted : s.contexts.mounted page = true)
    (hnil : s.app.routes ≠ []) (hrest : (call.resume 0 s.app.store).2 = some rest)
    (h : ∀ {s' : Mocky D}, s'.contexts.Started s'.app rest page →
      s'.contexts.mounted page = true → s'.app.routes ≠ [] → s'.Replaceable) :
    s.Replaceable := by
  obtain ⟨i, hcall, hpage⟩ := hstarted
  obtain ⟨top, below, hroutes⟩ := List.exists_cons_of_ne_nil hnil
  have hclear : call ≠ .clearUserToken := fun hclear => by
    subst hclear
    cases hrest
  have hne : s.app.calls[i]? ≠ some .clearUserToken := fun h =>
    hclear (Option.some.inj (hcall.symm.trans h))
  have hallows : s.contexts.allows s.app (.resume i 0) = true := by
    simp [Contexts.allows, hne]
  have hreact : s.react (.resume i 0) s.app.routes = some s := by
    rw [hroutes, react, if_neg hne]
  refine Replaceable.of_step ?_
    (step_app hallows (MockAPP.step_complete (.resumed hcall hclear)) hreact) rfl
  refine h ⟨0, ?_, ?_⟩ ?_ hnil
  · dsimp only
    rw [hrest]
    rfl
  · dsimp only
    rw [Contexts.after, if_neg hne, hcall, Option.bind_some, hrest, hpage]
    rfl
  · dsimp only
    rw [(s.contexts.after_resume_of_ne 0 hne).2]
    exact hmounted

/-- A logout under way can complete if its page is still there. -/
theorem replaceable_of_removes {call : TokenCall} {page : ℕ}
    (hstarted : s.contexts.Started s.app call page) (hremoves : call.removes = true)
    (hmounted : s.contexts.mounted page = true) (hnil : s.app.routes ≠ []) : s.Replaceable := by
  cases call with
  | clearUserToken => exact replaceable_of_clearUserToken hstarted hmounted hnil
  | deleteIsLogin =>
    exact replaceable_of_rest hstarted hmounted hnil rfl replaceable_of_clearUserToken
  | deleteUserToken =>
    refine replaceable_of_rest hstarted hmounted hnil rfl fun hstarted hmounted hnil => ?_
    exact replaceable_of_rest hstarted hmounted hnil rfl replaceable_of_clearUserToken
  | _ => cases hremoves

/-- With its drawer a home page can log out. -/
theorem replaceable_of_showsTabs (hfollows : s.contexts.Follows s.app) {page : BuiltHomePage D}
    {pages : List (BuiltHomePage D)} {rest : List Route}
    (hroutes : s.app.routes = .homePage :: rest) (hpages : s.homePages = page :: pages)
    (hshows : page.showsTabs = true) : s.Replaceable := by
  obtain ⟨top, below, htop⟩ := hfollows.exists_page hroutes
  have hreact : s.react .logout s.app.routes = some s := by
    rw [react, hpages]
    exact if_pos hshows
  have hstarted : s.contexts.call.Started s.app.logout .deleteUserToken top := by
    refine ⟨0, rfl, ?_⟩
    rw [Contexts.call, htop]
    rfl
  have hmounted : s.contexts.mounted top = true :=
    decide_eq_true (.inl (htop ▸ List.mem_cons_self))
  refine Replaceable.of_step ?_ (step_app rfl (MockAPP.step_complete (.logout hroutes)) hreact) rfl
  exact replaceable_of_removes hstarted rfl hmounted (hroutes ▸ List.cons_ne_nil _ _)

/-- A build from the memory brings the drawer when there is a menu and a user. -/
theorem replaceable_of_menu (hfollows : s.contexts.Follows s.app) {page : BuiltHomePage D}
    {pages : List (BuiltHomePage D)} {rest : List Route}
    (hroutes : s.app.routes = .homePage :: rest) (hpages : s.homePages = page :: pages)
    (huser : page.user.isSome = true) (hmenu : Phone.showsTabs s.memory = true) :
    s.Replaceable := by
  refine Replaceable.of_step (e := .mediaQuery) ?_ rfl rfl
  have hbuilt : s.mediaQuery.homePages = page.build s.memory :: pages.map (.build s.memory) := by
    rw [mediaQuery, hpages, List.map_cons]
  exact replaceable_of_showsTabs hfollows hroutes hbuilt (Bool.and_eq_true_iff.mpr ⟨hmenu, huser⟩)

/-- A request under way may bring a menu. -/
theorem replaceable_of_outstanding (hfollows : s.contexts.Follows s.app) {page : BuiltHomePage D}
    {pages : List (BuiltHomePage D)} {rest : List Route}
    (hroutes : s.app.routes = .homePage :: rest) (hpages : s.homePages = page :: pages)
    (huser : page.user.isSome = true) (hout : s.outstanding ≠ 0) : s.Replaceable := by
  obtain ⟨tree, menu, hmenus⟩ : ∃ (tree : Except DartError (Json D))
      (menu : MenuModel (CategoryDish D)), tree.bind menuModelOfTree = .ok [menu] :=
    ⟨.ok (menuModelTree [menuOf []]), menuOf [], menuModelOfTree_menuOf (List.forall_mem_nil _)⟩
  have husers := map_respond_homePages (f := BuiltHomePage.user) s (.body tree) fun _ _ => rfl
  rw [hpages, List.map_cons] at husers
  obtain ⟨page', pages', hpages', huser', _⟩ := List.map_eq_cons_iff.mp husers
  have hsame : (s.respond (.body tree)).app = s.app := respond_app s _
  have hstep : (machine D).step s (.respond (.body tree)) = some (s.respond (.body tree)) :=
    if_neg hout
  refine Replaceable.of_step ?_ hstep (by rw [hsame])
  refine replaceable_of_menu ((step_sound hstep).follows hfollows)
    ((congrArg MockAPP.routes hsame).trans hroutes) hpages' (huser' ▸ huser) ?_
  rw [respond_memory, HomePageController.fetchAPIDataResume_ok hmenus]
  rfl

/-- A sign-in under way may create a home page, with a user and with a request, if the page that
waits for it is still there. -/
theorem replaceable_of_signIn (hfollows : s.contexts.Follows s.app) {signIn : LoginMethod × ℕ}
    {rest : List Route} (hroutes : s.app.routes = .homePage :: rest)
    (hmem : signIn ∈ s.contexts.signIns) (hmounted : s.contexts.mounted signIn.2 = true) :
    s.Replaceable := by
  obtain ⟨i, hi⟩ := List.mem_iff_getElem?.mp hmem
  let first : Contexts :=
    { s.contexts with signIns := signIn :: s.contexts.signIns.eraseIdx i }
  have hnext : s.contexts.answersNext i = some first := by
    rw [Contexts.answersNext, hi]
    rfl
  have hfirst : (machine D).step s (.answersNext i) = some { s with contexts := first } :=
    congrArg (Option.map _) hnext
  refine Replaceable.of_step ?_ hfirst rfl
  let user : User := ⟨"", signIn.1⟩
  have hunder : user.method ∈ s.app.signIns :=
    (hfollows.signIns.mem_iff).mp (List.mem_map_of_mem (f := Prod.fst) hmem)
  have hallows : first.allows s.app (.signedIn user true) = true := by
    have hwaits : first.waits user.method = some signIn.2 :=
      congrArg (Option.map Prod.snd) (List.find?_cons_of_pos (decide_eq_true rfl))
    rw [Contexts.allows, hwaits]
    exact beq_iff_eq.mpr hmounted
  have hstep := step_app (s := { s with contexts := first }) hallows
    (MockAPP.step_complete (.signedIn hunder)) rfl
  obtain ⟨pages, hpages, _, _⟩ :=
    createHomePage_homePages { s with contexts := first } (some user) s.app.routes.head?
  have hsame : (s.app.signedIn user true).routes = s.app.routes := by
    rw [hroutes]
    exact congrArg (Route.homePage :: ·) (congrArg List.tail hroutes)
  refine Replaceable.of_step ?_ hstep hsame
  refine replaceable_of_outstanding
    ((step_sound hstep).follows (hfollows.answersNext hnext)) (hsame.trans hroutes) hpages rfl ?_
  dsimp only
  rw [createHomePage_outstanding]
  exact Nat.succ_ne_zero _

/-- **The way out.** When the home page is the only route, some run leads to another route if and
only if a sign-in or a logout is under way whose page is still there, or the page has a user and a
menu, in its build or in the memory, or a request for one. -/
theorem leaves_iff {storage : FlutterSecureStorage} {currentUser : Option User}
    {events : List (Event D)}
    (hrun : (machine D).run (runApp storage currentUser) events = some s)
    (hroutes : s.app.routes = [.homePage]) : ∃ page, s.homePages = [page] ∧
      ((∃ later s', (machine D).run s later = some s' ∧ s'.app.routes ≠ [.homePage]) ↔
        (∃ signIn ∈ s.contexts.signIns, s.contexts.mounted signIn.2 = true) ∨
        (∃ call page, s.contexts.Started s.app call page ∧ call.removes = true ∧
          s.contexts.mounted page = true) ∨
          page.user.isSome = true ∧ (Phone.showsTabs page.built = true ∨
            Phone.showsTabs s.memory = true ∨ s.outstanding ≠ 0)) := by
  have hinv := inv_run hrun
  have hlength := hinv.aligned.homePages
  rw [hroutes, List.count_singleton_self] at hlength
  obtain ⟨page, hpages⟩ := List.length_eq_one_iff.mp hlength
  refine ⟨page, hpages, ?_, fun h => ?_⟩
  · rintro ⟨later, s', hlater, hleft⟩
    by_contra hstuck
    have hdeserted : s.contexts.Deserted s.app := by
      refine ⟨hinv.follows, fun signIn hmem => ?_, fun call page hstarted hremoves => ?_⟩
      · exact Bool.eq_false_of_not_eq_true fun hmounted => hstuck (.inl ⟨signIn, hmem, hmounted⟩)
      · refine Bool.eq_false_of_not_eq_true fun hmounted => ?_
        exact hstuck (.inr (.inl ⟨call, page, hstarted, hremoves, hmounted⟩))
    have hstranded : s.Stranded := by
      refine ⟨hroutes, hdeserted, fun page' hmem => ?_⟩
      rw [hpages] at hmem
      obtain rfl := List.mem_singleton.mp hmem
      refine or_iff_not_imp_left.mpr fun huser => ?_
      have huser := Option.isSome_iff_ne_none.mpr huser
      refine ⟨?_, ?_, ?_⟩
      · exact Bool.eq_false_of_not_eq_true fun h => hstuck (.inr (.inr ⟨huser, .inl h⟩))
      · exact Bool.eq_false_of_not_eq_true fun h => hstuck (.inr (.inr ⟨huser, .inr (.inl h)⟩))
      · exact not_not.mp fun h => hstuck (.inr (.inr ⟨huser, .inr (.inr h)⟩))
    exact hleft (hstranded.run hlater).routes
  · suffices hreplaceable : s.Replaceable by
      obtain ⟨later, s', hlater, hlogin⟩ := hreplaceable
      exact ⟨later, s', hlater, by rw [hlogin]; nofun⟩
    rcases h with ⟨signIn, hmem, hmounted⟩ | ⟨call, started, hstarted, hremoves, hmounted⟩ |
      ⟨huser, hbuilt | hmenu | hout⟩
    · exact replaceable_of_signIn hinv.follows hroutes hmem hmounted
    · exact replaceable_of_removes hstarted hremoves hmounted (hroutes ▸ List.cons_ne_nil _ _)
    · exact replaceable_of_showsTabs hinv.follows hroutes hpages
        (Bool.and_eq_true_iff.mpr ⟨hbuilt, huser⟩)
    · exact replaceable_of_menu hinv.follows hroutes hpages huser hmenu
    · exact replaceable_of_outstanding hinv.follows hroutes hpages huser hout

end

theorem locked_out_oneDish : ∃ s, (machine ℚ).run
      (runApp { userToken := some ⟨⟨"alice", .google⟩, 0⟩ } none) [.respond oneDish, .mediaQuery] =
        some s ∧ Phone.showsTabs s.memory = true ∧ s.app.routes = [.homePage] := by
  let start : Mocky ℚ := runApp { userToken := some ⟨⟨"alice", .google⟩, 0⟩ } none
  have hrun : (machine ℚ).run start [.respond oneDish, .mediaQuery] =
      some (start.respond oneDish).mediaQuery := rfl
  refine ⟨_, hrun, ?_, (locked_out (by decide) hrun).1⟩
  change Phone.showsTabs (start.respond oneDish).memory = true
  rw [respond_memory, oneDish, HomePageController.fetchAPIDataResume_ok decode_oneDish]
  rfl

/-- After two taps on the Google button the second sign-in is under way when the login page is gone.
When the request fails, it is no way out. -/
def googleTwice : List (Event ℚ) :=
  [.app .googleButtonAction, .app .googleButtonAction, .app (.signedIn ⟨"alice", .google⟩ true),
    .dispose 0, .respond .otherException]

theorem leaves_iff_oneDish :
    (∃ later s', (machine ℚ).run homeOfOneDish later = some s' ∧ s'.app.routes ≠ [.homePage]) ∧
    ∃ s, (machine ℚ).run (runApp {} none) googleTwice = some s ∧ s.app.signIns = [.google] ∧
      ¬∃ later s', (machine ℚ).run s later = some s' ∧ s'.app.routes ≠ [.homePage] := by
  constructor
  · obtain ⟨page, hpages, hiff⟩ := leaves_iff (run_homeOfOneDish []) rfl
    refine hiff.mpr (.inr (.inr ⟨?_, .inr (.inl rfl)⟩))
    obtain rfl := List.singleton_inj.mp hpages
    rfl
  · obtain ⟨s, page, hrun, hroutes, hsignIns, hgone, hcalls, hpage, hbuilt, hmenu, hout⟩ :
        ∃ s page, (machine ℚ).run (runApp {} none) googleTwice = some s ∧
          s.app.routes = [.homePage] ∧ s.app.signIns = [.google] ∧
          (∀ signIn ∈ s.contexts.signIns, s.contexts.mounted signIn.2 = false) ∧
          (∀ call ∈ s.app.calls, call.removes = false) ∧ s.homePages = [page] ∧
          Phone.showsTabs page.built = false ∧ Phone.showsTabs s.memory = false ∧
          s.outstanding = 0 :=
      ⟨_, _, rfl, rfl, rfl, by decide, by decide, rfl, rfl, rfl, rfl⟩
    refine ⟨s, hrun, hsignIns, fun hleaves => ?_⟩
    obtain ⟨page', hpages, hiff⟩ := leaves_iff hrun hroutes
    obtain rfl := List.singleton_inj.mp (hpage.symm.trans hpages)
    rcases hiff.mp hleaves with ⟨signIn, hmem, hmounted⟩ |
      ⟨call, _, ⟨i, hcall, _⟩, hremoves, _⟩ | ⟨_, hshows | hshows | hne⟩
    · exact Bool.false_ne_true ((hgone signIn hmem).symm.trans hmounted)
    · exact Bool.false_ne_true
        ((hcalls call (List.mem_of_getElem? hcall)).symm.trans hremoves)
    · exact Bool.false_ne_true (hbuilt.symm.trans hshows)
    · exact Bool.false_ne_true (hmenu.symm.trans hshows)
    · exact hne hout

end Mocky
end MachineTest
