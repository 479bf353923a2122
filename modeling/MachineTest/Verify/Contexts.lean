import MachineTest.Pages.Contexts

/-! # The pages of an app that runs

The pages of `Contexts` follow the app: there is one for each route, and one waits for each sign-in
and each token call under way. A page that is gone does not come back. -/

namespace MachineTest

/-- What is left at a place of two lists was at one place of both. -/
theorem exists_getElem?_of_eraseIdx {α β : Type} {xs : List α} {ys : List β} {i j : ℕ} {x : α}
    {y : β} (hx : (xs.eraseIdx i)[j]? = some x) (hy : (ys.eraseIdx i)[j]? = some y) :
    ∃ k : ℕ, xs[k]? = some x ∧ ys[k]? = some y := by
  rw [List.getElem?_eraseIdx] at hx hy
  by_cases hlt : j < i
  · rw [if_pos hlt] at hx hy
    exact ⟨j, hx, hy⟩
  · rw [if_neg hlt] at hx hy
    exact ⟨j + 1, hx, hy⟩

namespace Contexts

variable {c c' : Contexts} {app app' : MockAPP} {e : MockAPP.Event}

/-- The order of the sign-ins is all that changes. -/
theorem answersNext_eq_some {i : ℕ} (h : c.answersNext i = some c') :
    ∃ signIns, signIns.Perm c.signIns ∧ c' = { c with signIns } := by
  obtain ⟨signIn, hsignIn, rfl⟩ := Option.map_eq_some_iff.mp h
  obtain ⟨hlt, rfl⟩ := List.getElem?_eq_some_iff.mp hsignIn
  exact ⟨_, List.getElem_cons_eraseIdx_perm hlt, rfl⟩

theorem dispose_eq_some {page : ℕ} (h : c.dispose page = some c') :
    c' = { c with leaving := c.leaving.erase page } := by
  obtain ⟨_, h⟩ := Option.ite_none_right_eq_some.mp h
  exact (Option.some.inj h).symm

/-- A page for each route, each sign-in and each token call. -/
structure Follows (c : Contexts) (app : MockAPP) : Prop where
  pages : c.pages.length = app.routes.length
  signIns : (c.signIns.map Prod.fst).Perm app.signIns
  calls : c.calls.length = app.calls.length

theorem follows_start (hroutes : app.routes.length = 1) (hsignIns : app.signIns = []) :
    (start app).Follows app where
  pages := hroutes.symm
  signIns := hsignIns ▸ List.Perm.refl _
  calls := List.length_map _

namespace Follows

theorem push (h : c.Follows app) (route : Route) : c.push.Follows (app.push route) where
  pages := congrArg (· + 1) h.pages
  signIns := h.signIns
  calls := h.calls

theorem pop (h : c.Follows app) : c.pop.Follows app.pop where
  pages := by
    change c.pages.tail.length = app.routes.tail.length
    rw [List.length_tail, List.length_tail, h.pages]
  signIns := h.signIns
  calls := h.calls

theorem pushReplacement (h : c.Follows app) (route : Route) :
    c.pushReplacement.Follows (app.pushReplacement route) := h.pop.push route

/-- The page on top. -/
theorem exists_page (h : c.Follows app) {top : Route} {rest : List Route}
    (hroutes : app.routes = top :: rest) : ∃ page pages, c.pages = page :: pages := by
  have hlength := h.pages
  rw [hroutes] at hlength
  exact List.exists_cons_of_length_eq_add_one hlength

theorem signIn (h : c.Follows app) {top : Route} {rest : List Route}
    (hroutes : app.routes = top :: rest) (method : LoginMethod) :
    (c.signIn method).Follows { app with signIns := method :: app.signIns } := by
  obtain ⟨page, pages, hpages⟩ := h.exists_page hroutes
  refine ⟨h.pages, ?_, h.calls⟩
  rw [Contexts.signIn, hpages]
  exact h.signIns.cons method

theorem signInEnds (h : c.Follows app) (method : LoginMethod) :
    (c.signInEnds method).Follows { app with signIns := app.signIns.erase method } := by
  refine ⟨h.pages, ?_, h.calls⟩
  have hmap : (c.signInEnds method).signIns.map Prod.fst =
      (c.signIns.map Prod.fst).erase method := by
    rw [List.erase_eq_eraseP', List.eraseP_map]
    rfl
  rw [hmap]
  exact h.signIns.erase method

theorem call (h : c.Follows app) {top : Route} {rest : List Route}
    (hroutes : app.routes = top :: rest) (tokenCall : TokenCall) :
    c.call.Follows { app with calls := tokenCall :: app.calls } := by
  obtain ⟨page, pages, hpages⟩ := h.exists_page hroutes
  refine ⟨h.pages, h.signIns, ?_⟩
  rw [Contexts.call, hpages]
  exact congrArg (· + 1) h.calls

/-- The page that started a token call. -/
theorem exists_caller (h : c.Follows app) {i : ℕ} {tokenCall : TokenCall}
    (hcall : app.calls[i]? = some tokenCall) : ∃ page, c.calls[i]? = some page := by
  have hlt : i < app.calls.length := (List.getElem?_eq_some_iff.mp hcall).1
  exact ⟨_, List.getElem?_eq_getElem (h.calls ▸ hlt)⟩

theorem length_eraseIdx (h : c.Follows app) (i : ℕ) :
    (c.calls.eraseIdx i).length = (app.calls.eraseIdx i).length := by
  rw [List.length_eraseIdx, List.length_eraseIdx, h.calls]

theorem otpButtonPressed (h : c.Follows app) (hstep : app.Step .otpButtonPressed app') :
    (c.after app .otpButtonPressed).Follows app' := by
  cases hstep with
  | registered hroutes hphase hlength =>
    rw [after, hroutes]
    dsimp only
    rw [OtpPage.otpButtonPressed_of_noOtpYet hphase, if_pos hlength]
    have hpages := h.pages
    rw [hroutes] at hpages
    exact ⟨hpages, h.signIns, h.calls⟩
  | refused hroutes hphase hlength =>
    rw [after, hroutes]
    dsimp only
    rw [OtpPage.otpButtonPressed_of_noOtpYet hphase, if_neg hlength]
    have hpages := h.pages
    rw [hroutes] at hpages
    exact ⟨congrArg (· + 1) hpages, h.signIns, h.calls⟩
  | submitted hroutes hphase =>
    have hsignIn := h.signIn hroutes .phone
    have hpages := hsignIn.pages
    rw [hroutes] at hpages
    rw [after, hroutes]
    dsimp only
    rw [OtpPage.otpButtonPressed_of_not_noOtpYet hphase]
    exact ⟨hpages, hsignIn.signIns, hsignIn.calls⟩

theorem step (h : c.Follows app) (hstep : app.Step e app') : (c.after app e).Follows app' := by
  cases hstep with
  | googleButtonAction hroutes =>
    have hsignIn := h.signIn hroutes .google
    exact ⟨hsignIn.pages, hsignIn.signIns, hsignIn.calls⟩
  | phoneButtonAction => exact ⟨congrArg (· + 1) h.pages, h.signIns, h.calls⟩
  | editPhoneNumber hroutes | editOtp hroutes =>
    have hpages := h.pages
    rw [hroutes] at hpages
    exact ⟨hpages, h.signIns, h.calls⟩
  | registered hroutes hphase hlength =>
    exact h.otpButtonPressed (.registered hroutes hphase hlength)
  | refused hroutes hphase hlength => exact h.otpButtonPressed (.refused hroutes hphase hlength)
  | submitted hroutes hphase => exact h.otpButtonPressed (.submitted hroutes hphase)
  | codeSent | verificationFailed => exact ⟨h.pages, h.signIns, h.calls⟩
  | @signedIn user mounted =>
    have hends := h.signInEnds user.method
    cases mounted with
    | true =>
      have hpushed := (hends.pushReplacement .homePage).call rfl
        (HomePageController.storeFirebaseToken user)
      exact ⟨hpushed.pages, hpushed.signIns, hpushed.calls⟩
    | false => exact ⟨hends.pages, hends.signIns, hends.calls⟩
  | @signInFailed method =>
    have hends := h.signInEnds method
    exact ⟨hends.pages, hends.signIns, hends.calls⟩
  | badgeOntap => exact h.push .checkoutPage
  | placeOrder => exact h.push .orderPlaced
  | okInvalidNumber hroutes =>
    rw [after, if_neg (by rw [hroutes]; nofun)]
    exact h.pop
  | okOrderPlaced hroutes =>
    rw [after, if_pos (by rw [hroutes]; rfl)]
    exact h.pop.pop
  | back => exact h.pop
  | logout hroutes =>
    have hcall := h.call hroutes HomePageController.removeFirebaseToken
    exact ⟨hcall.pages, hcall.signIns, hcall.calls⟩
  | @resumed i serial tokenCall hcall hclear =>
    obtain ⟨page, hpage⟩ := h.exists_caller hcall
    have hne : app.calls[i]? ≠ some .clearUserToken := fun h =>
      hclear (Option.some.inj (hcall.symm.trans h))
    rw [after, if_neg hne, hcall, hpage]
    refine ⟨h.pages, h.signIns, ?_⟩
    dsimp only
    rw [Option.bind_some, List.length_append, List.length_append, h.length_eraseIdx]
    cases (tokenCall.resume serial app.store).2 <;> rfl
  | @cleared i serial hcall =>
    have hpushed := h.pushReplacement .loginPage
    rw [after, if_pos hcall, hcall]
    exact ⟨hpushed.pages, hpushed.signIns, h.length_eraseIdx i⟩
  | @threw i => exact ⟨h.pages, h.signIns, h.length_eraseIdx i⟩

theorem answersNext {i : ℕ} (h : c.Follows app) (hnext : c.answersNext i = some c') :
    c'.Follows app := by
  obtain ⟨signIns, hperm, rfl⟩ := answersNext_eq_some hnext
  exact ⟨h.pages, (hperm.map Prod.fst).trans h.signIns, h.calls⟩

theorem dispose {page : ℕ} (h : c.Follows app) (hdispose : c.dispose page = some c') :
    c'.Follows app := by
  obtain rfl := dispose_eq_some hdispose
  exact ⟨h.pages, h.signIns, h.calls⟩

end Follows

/-! ## Pages that are still there -/

/-- The page started the call, which is under way. -/
def Started (c : Contexts) (app : MockAPP) (call : TokenCall) (page : ℕ) : Prop :=
  ∃ i : ℕ, app.calls[i]? = some call ∧ c.calls[i]? = some page

/-- A call that runs up to its next `await` keeps its page, and so do the others. -/
theorem Started.of_resume {i serial : ℕ} {tokenCall call : TokenCall} {page : ℕ}
    (h : (c.after app (.resume i serial)).Started app' call page) (hfollows : c.Follows app)
    (hcall : app.calls[i]? = some tokenCall) (hcalls : app'.calls =
      (tokenCall.resume serial app.store).2.toList ++ app.calls.eraseIdx i) :
    c.Started app call page ∨
      (tokenCall.resume serial app.store).2 = some call ∧ c.Started app tokenCall page := by
  obtain ⟨caller, hcaller⟩ := hfollows.exists_caller hcall
  have hafter : (c.after app (.resume i serial)).calls =
      ((tokenCall.resume serial app.store).2.bind fun _ => some caller).toList ++
        c.calls.eraseIdx i := by
    rw [after, hcall, hcaller]
    dsimp only
    split <;> rfl
  obtain ⟨j, hj, hpage⟩ := h
  rw [hcalls] at hj
  rw [hafter] at hpage
  cases hrest : (tokenCall.resume serial app.store).2 with
  | none =>
    rw [hrest] at hj hpage
    exact .inl (exists_getElem?_of_eraseIdx hj hpage)
  | some rest =>
    rw [hrest] at hj hpage
    cases j with
    | zero =>
      cases hj
      cases hpage
      exact .inr ⟨rfl, i, hcall, hcaller⟩
    | succ j => exact .inl (exists_getElem?_of_eraseIdx hj hpage)

theorem Started.of_throws {i : ℕ} {call : TokenCall} {page : ℕ}
    (h : (c.after app (.throws i)).Started app' call page)
    (hcalls : app'.calls = app.calls.eraseIdx i) : c.Started app call page := by
  obtain ⟨j, hj, hpage⟩ := h
  rw [hcalls] at hj
  exact exists_getElem?_of_eraseIdx hj hpage

/-- A page waits for a sign-in that ends. -/
theorem exists_of_signedIn {user : User} {mounted : Bool}
    (h : c.allows app (.signedIn user mounted) = true) :
    ∃ signIn ∈ c.signIns, c.mounted signIn.2 = mounted := by
  obtain ⟨page, hpage, hmounted⟩ := (Option.any_eq_true ..).mp h
  obtain ⟨signIn, hfind, rfl⟩ := Option.map_eq_some_iff.mp hpage
  exact ⟨signIn, List.mem_of_find?_eq_some hfind, beq_iff_eq.mp hmounted⟩

/-- A logout navigates from a page that is still there. -/
theorem exists_of_cleared {i serial : ℕ} (hcall : app.calls[i]? = some .clearUserToken)
    (h : c.allows app (.resume i serial) = true) :
    ∃ page, c.Started app .clearUserToken page ∧ c.mounted page = true := by
  have hany : (c.calls[i]?).any c.mounted = true := by simpa [allows, hcall] using h
  obtain ⟨page, hpage, hmounted⟩ := (Option.any_eq_true ..).mp hany
  exact ⟨page, ⟨i, hcall, hpage⟩, hmounted⟩

/-- A call that does not navigate leaves the pages and the sign-ins as they are. -/
theorem after_resume_of_ne (c : Contexts) {i : ℕ} (serial : ℕ)
    (hne : app.calls[i]? ≠ some .clearUserToken) :
    (c.after app (.resume i serial)).signIns = c.signIns ∧
      (c.after app (.resume i serial)).mounted = c.mounted := by
  rw [after, if_neg hne]
  exact ⟨rfl, rfl⟩

/-- No page comes back. -/
theorem mounted_erase {page disposed : ℕ} (h : c.mounted page = false) :
    mounted { c with leaving := c.leaving.erase disposed } page = false := by
  have hgone := of_decide_eq_false h
  exact decide_eq_false fun hmem => hgone (hmem.imp_right List.mem_of_mem_erase)

end Contexts
end MachineTest
