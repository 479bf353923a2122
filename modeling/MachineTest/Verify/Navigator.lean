import Mathlib.Data.List.Chain
import MachineTest.Pages.MockAPP

/-! # The navigation stack

What lies under a route, over any interleaving of taps, sign-ins and logouts. A replacement may put
a login page or a home page on any route, but every other route keeps the route that it was pushed
on. So no dialog loses its page and no checkout page its home page, and the two pops of the order
dialog always reach a home page. -/

namespace MachineTest

/-- Ten UTF-16 code units behind the country code. -/
def Verification.WellFormed (request : Verification) : Prop :=
  ∃ number, request.mobile = "+91" ++ number ∧ dartLength number = 10

namespace Route

/-- The route may lie on the route `below`. -/
def LiesOn : Route → Route → Prop
  | .loginPage, _ | .homePage, _ => True
  | .otpPage _ _, below => below = .loginPage
  | .invalidNumber, below => ∃ page, below = .otpPage page none ∧ page.noOtpYet = false
  | .checkoutPage, below => below = .homePage
  | .orderPlaced, below => below = .checkoutPage

/-- A page that made a request has left its first phase. -/
def Requested : Route → Prop
  | .otpPage page request => ∀ r ∈ request, page.noOtpYet = false ∧ r.WellFormed
  | _ => True

/-- An `OtpPage` in its first phase. -/
def isFirstPhase : Route → Bool
  | .otpPage page _ => page.noOtpYet
  | _ => false

end Route

namespace MockAPP

/-- Every route lies where it may, and the first is the login page or the home page. -/
structure WellStacked (routes : List Route) : Prop where
  chain : routes.IsChain Route.LiesOn
  bottom : ∃ route ∈ routes.getLast?, route = .loginPage ∨ route = .homePage
  requested : ∀ route ∈ routes, route.Requested

namespace WellStacked

variable {top below route : Route} {rest routes : List Route}

theorem login : WellStacked [.loginPage] :=
  ⟨.singleton _, ⟨_, rfl, .inl rfl⟩, fun _ h => by cases List.mem_singleton.mp h; trivial⟩

theorem home : WellStacked [.homePage] :=
  ⟨.singleton _, ⟨_, rfl, .inr rfl⟩, fun _ h => by cases List.mem_singleton.mp h; trivial⟩

theorem push (h : WellStacked (top :: rest)) (hon : route.LiesOn top) (hreq : route.Requested) :
    WellStacked (route :: top :: rest) where
  chain := List.isChain_cons_cons.mpr ⟨hon, h.chain⟩
  bottom := h.bottom
  requested := List.forall_mem_cons.mpr ⟨hreq, h.requested⟩

theorem pop (h : WellStacked (top :: below :: rest)) : WellStacked (below :: rest) where
  chain := (List.isChain_cons_cons.mp h.chain).2
  bottom := h.bottom
  requested := (List.forall_mem_cons.mp h.requested).2

theorem liesOn (h : WellStacked (top :: below :: rest)) : top.LiesOn below :=
  (List.isChain_cons_cons.mp h.chain).1

/-- A route that may be the first lies on at least one other if it is none of the two. -/
theorem rest_ne_nil (h : WellStacked (top :: rest)) (hlogin : top ≠ .loginPage)
    (hhome : top ≠ .homePage) : ∃ below rest', rest = below :: rest' := by
  cases rest with
  | nil =>
    obtain ⟨_, hlast, hroute⟩ := h.bottom
    cases hlast
    exact (hroute.elim hlogin hhome).elim
  | cons below rest' => exact ⟨below, rest', rfl⟩

/-- A replacement puts a login page or a home page in the place of the top. -/
theorem replace (h : WellStacked routes) (hroute : route = .loginPage ∨ route = .homePage) :
    WellStacked (route :: routes.tail) := by
  obtain ⟨hbase, hon, hreq⟩ : WellStacked [route] ∧ (∀ below, route.LiesOn below) ∧
      route.Requested := by
    rcases hroute with rfl | rfl
    · exact ⟨login, fun _ => trivial, trivial⟩
    · exact ⟨home, fun _ => trivial, trivial⟩
  cases routes with
  | nil => exact hbase
  | cons top rest =>
    cases rest with
    | nil => exact hbase
    | cons below rest => exact h.pop.push (hon below) hreq

/-- An `OtpPage` on top may change. -/
theorem edit {page page' : OtpPage} {request request' : Option Verification}
    (h : WellStacked (.otpPage page request :: rest))
    (hreq : (Route.otpPage page' request').Requested) :
    WellStacked (.otpPage page' request' :: rest) := by
  obtain ⟨below, rest', rfl⟩ := h.rest_ne_nil (fun h => nomatch h) (fun h => nomatch h)
  have hon : below = .loginPage := h.liesOn
  exact h.pop.push hon hreq

/-- The two pops of the order dialog reach a home page. -/
theorem of_orderPlaced (h : WellStacked (.orderPlaced :: rest)) :
    ∃ rest', rest = .checkoutPage :: .homePage :: rest' := by
  obtain ⟨below, rest', rfl⟩ := h.rest_ne_nil (fun h => nomatch h) fun h => nomatch h
  obtain rfl : below = .checkoutPage := h.liesOn
  obtain ⟨below, rest', rfl⟩ := h.pop.rest_ne_nil (fun h => nomatch h) fun h => nomatch h
  obtain rfl : below = .homePage := h.pop.liesOn
  exact ⟨rest', rfl⟩

theorem step {p p' : MockAPP} {e : Event} (h : WellStacked p.routes) (hstep : p.Step e p') :
    WellStacked p'.routes := by
  cases hstep with
  | googleButtonAction _ | submitted _ _ | codeSent _ | verificationFailed _ | signInFailed _
  | logout _ | resumed _ _ | threw _ => exact h
  | phoneButtonAction hroutes =>
    change WellStacked (_ :: p.routes)
    rw [hroutes] at h ⊢
    exact h.push rfl fun _ hr => nomatch hr
  | editPhoneNumber hroutes | editOtp hroutes =>
    rw [hroutes] at h
    have hreq := h.requested _ List.mem_cons_self
    exact h.edit hreq
  | @registered page _ _ hroutes _ hlength =>
    rw [hroutes] at h
    exact h.edit fun r hr => by cases hr; exact ⟨rfl, page.phoneNumber, rfl, hlength⟩
  | @refused page request rest hroutes hphase _ =>
    rw [hroutes] at h
    have hnone : request = none := Option.eq_none_iff_forall_not_mem.mpr fun r hr => by
      have hlater := (h.requested _ List.mem_cons_self r hr).1
      rw [hphase] at hlater
      cases hlater
    subst hnone
    have hpage : WellStacked (.otpPage { page with noOtpYet := false } none :: rest) :=
      h.edit fun _ hr => nomatch hr
    exact hpage.push ⟨_, rfl, rfl⟩ trivial
  | @signedIn _ mounted _ =>
    cases mounted with
    | true => exact h.replace (.inr rfl)
    | false => exact h
  | badgeOntap hroutes | placeOrder hroutes =>
    change WellStacked (_ :: p.routes)
    rw [hroutes] at h ⊢
    exact h.push rfl trivial
  | okInvalidNumber hroutes =>
    change WellStacked p.routes.tail
    rw [hroutes] at h ⊢
    obtain ⟨below, rest, rfl⟩ := h.rest_ne_nil (fun h => nomatch h) fun h => nomatch h
    exact h.pop
  | okOrderPlaced hroutes =>
    change WellStacked p.routes.tail.tail
    rw [hroutes] at h ⊢
    obtain ⟨_, rfl⟩ := h.of_orderPlaced
    exact h.pop.pop
  | back hroutes =>
    change WellStacked p.routes.tail
    rw [hroutes] at h ⊢
    exact h.pop
  | cleared _ => exact h.replace (.inl rfl)

end WellStacked

theorem wellStacked_runApp (storage : FlutterSecureStorage) (currentUser : Option User) :
    WellStacked (runApp storage currentUser).routes :=
  runApp_cases (P := fun p => WellStacked p.routes) (fun _ => .home) fun _ => .login

theorem wellStacked_run {storage : FlutterSecureStorage} {currentUser : Option User}
    {events : List Event} {p : MockAPP}
    (hrun : machine.run (runApp storage currentUser) events = some p) : WellStacked p.routes :=
  Machine.run_invariant (I := fun p => WellStacked p.routes)
    (fun _ _ _ h hstep => h.step (step_sound hstep)) (wellStacked_runApp storage currentUser) hrun

/-- The `OtpPage` under its dialog is in the second phase, without a request. -/
theorem WellStacked.of_invalidNumber {rest : List Route}
    (h : WellStacked (.invalidNumber :: rest)) :
    ∃ page rest', rest = .otpPage page none :: rest' ∧ page.noOtpYet = false := by
  obtain ⟨below, rest', rfl⟩ := h.rest_ne_nil (fun h => nomatch h) fun h => nomatch h
  obtain ⟨page, rfl, hphase⟩ := h.liesOn
  exact ⟨page, rest', rfl, hphase⟩

/-- **Navigation.** In every state of every run each route lies where it may. The button of the
order dialog always leads to a home page, and that of the other dialog to an `OtpPage` in its second
phase that has made no request. -/
theorem navigation {storage : FlutterSecureStorage} {currentUser : Option User}
    {events : List Event} {p : MockAPP}
    (hrun : machine.run (runApp storage currentUser) events = some p) :
    WellStacked p.routes ∧ ∀ p', machine.step p .ok = some p' →
      (p.routes.head? = some .orderPlaced ∧ p'.routes.head? = some .homePage) ∨
      (p.routes.head? = some .invalidNumber ∧
        ∃ page, p'.routes.head? = some (.otpPage page none) ∧ page.noOtpYet = false) := by
  have hstacked := wellStacked_run hrun
  refine ⟨hstacked, fun p' hok => ?_⟩
  cases step_sound hok with
  | okInvalidNumber hroutes =>
    rw [hroutes] at hstacked
    obtain ⟨page, rest, rfl, hphase⟩ := hstacked.of_invalidNumber
    refine .inr ⟨congrArg List.head? hroutes, page, ?_, hphase⟩
    exact congrArg (List.head? ∘ List.tail) hroutes
  | okOrderPlaced hroutes =>
    rw [hroutes] at hstacked
    obtain ⟨rest, rfl⟩ := hstacked.of_orderPlaced
    refine .inl ⟨congrArg List.head? hroutes, ?_⟩
    exact congrArg (List.head? ∘ List.tail ∘ List.tail) hroutes

/-- A logout that ends over the order dialog puts the login page on the checkout page, and a home
page is created on top of that. -/
theorem navigation_loginPage : ∃ p, machine.run
      (runApp { userToken := some ⟨⟨"alice", .google⟩, 0⟩ } (some ⟨"alice", .google⟩))
      [.logout, .badgeOntap, .placeOrder, .resume 0 0, .resume 0 0, .resume 0 0,
        .googleButtonAction, .signedIn ⟨"bob", .google⟩ true] = some p ∧
    p.routes = [.homePage, .checkoutPage, .homePage] ∧ WellStacked p.routes := by
  obtain ⟨p, hrun, hroutes⟩ : ∃ p, machine.run
      (runApp { userToken := some ⟨⟨"alice", .google⟩, 0⟩ } (some ⟨"alice", .google⟩))
      [.logout, .badgeOntap, .placeOrder, .resume 0 0, .resume 0 0, .resume 0 0,
        .googleButtonAction, .signedIn ⟨"bob", .google⟩ true] = some p ∧
      p.routes = [.homePage, .checkoutPage, .homePage] := ⟨_, rfl, rfl⟩
  exact ⟨p, hrun, hroutes, (navigation hrun).1⟩

/-! ## Requests -/

/-- The requests that the app knows of. -/
structure Requests (p : MockAPP) : Prop where
  pending : ∀ request ∈ p.requests, request.WellFormed
  sent : ∀ request ∈ p.verificationId, request.WellFormed
  submitted : ∀ credential ∈ p.credential, ∀ request ∈ credential.verificationId,
    request.WellFormed

theorem Requests.step {p p' : MockAPP} {e : Event} (h : p.Requests) (hstep : p.Step e p') :
    p'.Requests := by
  cases hstep with
  | @registered page _ _ _ _ hlength =>
    exact ⟨List.forall_mem_cons.mpr ⟨⟨page.phoneNumber, rfl, hlength⟩, h.pending⟩, h.sent,
      h.submitted⟩
  | submitted _ _ => exact ⟨h.pending, h.sent, fun _ hc => by cases hc; exact h.sent⟩
  | codeSent hmem =>
    have hsent := h.pending _ hmem
    exact ⟨fun r hr => h.pending r (List.mem_of_mem_erase hr), fun _ hr => by cases hr; exact hsent,
      h.submitted⟩
  | verificationFailed _ =>
    exact ⟨fun r hr => h.pending r (List.mem_of_mem_erase hr), h.sent, h.submitted⟩
  | @signedIn _ mounted _ => cases mounted <;> exact ⟨h.pending, h.sent, h.submitted⟩
  | _ => exact ⟨h.pending, h.sent, h.submitted⟩

theorem Requests.start {p : MockAPP} (hrequests : p.requests = []) (hsent : p.verificationId = none)
    (hcredential : p.credential = none) : p.Requests where
  pending := by simp [hrequests]
  sent := by simp [hsent]
  submitted := by simp [hcredential]

/-- How many pages are in their first phase. -/
def firstPhases (routes : List Route) : ℕ := routes.countP Route.isFirstPhase

theorem firstPhases_cons (route : Route) (rest : List Route) (h : route.isFirstPhase = true) :
    firstPhases (route :: rest) = firstPhases rest + 1 := List.countP_cons_of_pos h

theorem firstPhases_cons_of_not (route : Route) (rest : List Route)
    (h : route.isFirstPhase = false) : firstPhases (route :: rest) = firstPhases rest :=
  List.countP_cons_of_neg (Bool.eq_false_iff.mp h)

theorem firstPhases_tail_le (routes : List Route) : firstPhases routes.tail ≤ firstPhases routes :=
  (List.tail_sublist routes).countP_le

/-- How many requests were made, and how many pages can still make theirs. -/
def budget (p : MockAPP) : ℕ := p.requested + firstPhases p.routes

theorem budget_step {p p' : MockAPP} {e : Event} (hstep : p.Step e p') :
    p'.budget ≤ p.budget + [e].count .phoneButtonAction := by
  have htail := firstPhases_tail_le p.routes
  cases hstep with
  | phoneButtonAction _ =>
    change p.requested + firstPhases (_ :: p.routes) ≤ _
    rw [firstPhases_cons _ _ rfl]
    exact (Nat.add_assoc _ _ _).ge
  | editPhoneNumber hroutes | editOtp hroutes =>
    rw [budget, budget, hroutes, firstPhases, firstPhases, List.countP_cons, List.countP_cons]
    exact Nat.le_add_right _ _
  | registered hroutes hphase _ =>
    rw [budget, budget, hroutes, firstPhases_cons (.otpPage _ _) _ hphase,
      firstPhases_cons_of_not _ _ rfl]
    dsimp only
    omega
  | refused hroutes hphase _ =>
    rw [budget, budget, hroutes, firstPhases_cons (.otpPage _ _) _ hphase,
      firstPhases_cons_of_not _ _ rfl,
      firstPhases_cons_of_not _ _ rfl]
    dsimp only
    omega
  | @signedIn _ mounted _ =>
    cases mounted with
    | true =>
      change p.requested + firstPhases (_ :: p.routes.tail) ≤ _
      rw [firstPhases_cons_of_not _ _ rfl]
      exact Nat.le_add_right_of_le (Nat.add_le_add_left htail _)
    | false => exact Nat.le_add_right _ _
  | cleared _ =>
    change p.requested + firstPhases (_ :: p.routes.tail) ≤ _
    rw [firstPhases_cons_of_not _ _ rfl]
    exact Nat.le_add_right_of_le (Nat.add_le_add_left htail _)
  | badgeOntap _ | placeOrder _ =>
    change p.requested + firstPhases (_ :: p.routes) ≤ _
    rw [firstPhases_cons_of_not _ _ rfl]
    exact Nat.le_add_right _ _
  | okInvalidNumber _ | back _ => exact Nat.le_add_right_of_le (Nat.add_le_add_left htail _)
  | okOrderPlaced _ =>
    have htail' := (firstPhases_tail_le p.routes.tail).trans htail
    exact Nat.le_add_right_of_le (Nat.add_le_add_left htail' _)
  | _ => exact Nat.le_add_right _ _

theorem budget_run {p p' : MockAPP} {events : List Event} (hrun : machine.run p events = some p') :
    p'.budget ≤ p.budget + events.count .phoneButtonAction := by
  induction events generalizing p with
  | nil =>
    cases hrun
    exact le_rfl
  | cons e events ih =>
    obtain ⟨t, ht, hrun⟩ := Machine.run_cons.mp hrun
    have hfirst := budget_step (step_sound ht)
    have hrest := ih hrun
    change _ ≤ _ + ([e] ++ events).count .phoneButtonAction
    rw [List.count_append]
    omega

/-- **Requests.** An `OtpPage` makes one request at most, so there are no more requests than pages
opened. Every request under way, every id that a code brought and every id that is submitted
belongs to a number of ten code units behind the country code. -/
theorem requested_le {storage : FlutterSecureStorage} {currentUser : Option User}
    {events : List Event} {p : MockAPP}
    (hrun : machine.run (runApp storage currentUser) events = some p) :
    p.requested ≤ events.count .phoneButtonAction ∧ p.Requests := by
  have hstart : (runApp storage currentUser).budget = 0 ∧ (runApp storage currentUser).Requests :=
    runApp_cases (P := fun p => p.budget = 0 ∧ p.Requests)
      (fun _ => ⟨rfl, .start rfl rfl rfl⟩) fun _ => ⟨rfl, .start rfl rfl rfl⟩
  refine ⟨?_, Machine.run_invariant (fun _ _ _ h hstep => h.step (step_sound hstep)) hstart.2 hrun⟩
  have hbudget := budget_run hrun
  rw [hstart.1, Nat.zero_add] at hbudget
  exact (Nat.le_add_right _ _).trans hbudget

/-- Two pages, of which the second makes a request. -/
theorem requested_le_two : ∃ p, machine.run (runApp {} none) [.phoneButtonAction, .otpButtonPressed,
      .ok, .back, .phoneButtonAction, .editPhoneNumber "1234567890", .otpButtonPressed] = some p ∧
    p.requested ≤ 2 := by
  obtain ⟨p, hrun⟩ : ∃ p, machine.run (runApp {} none) [.phoneButtonAction, .otpButtonPressed,
      .ok, .back, .phoneButtonAction, .editPhoneNumber "1234567890", .otpButtonPressed] = some p :=
    ⟨_, rfl⟩
  exact ⟨p, hrun, (requested_le hrun).1⟩

end MockAPP
end MachineTest
