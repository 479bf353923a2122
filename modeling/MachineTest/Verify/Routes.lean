import MachineTest.Pages.MockAPP

/-! # The stack and the session

Who is not logged in moves on top of a login page, and who is logged in moves between the home page,
the checkout page and its dialog. The stack stays like this if and only if every sign-in that
creates a home page, and every logout that ends, finds nothing left beneath the route that it
replaces. The login by phone never does: its page lies on the login page. -/

namespace MachineTest

/-- The routes of a user who is not logged in. -/
def Route.beforeLogin : Route → Bool
  | .loginPage | .otpPage .. | .invalidNumber => true
  | .homePage | .checkoutPage | .orderPlaced => false

namespace MockAPP

/-- The stack agrees with the session. After a logout it holds no page of a user. -/
structure RoutesAgree (routes : List Route) (loggedOut : Bool) : Prop where
  noLoginBelow : routes.Pairwise fun above below =>
    above = .homePage → below ≠ .loginPage ∧ ∀ page request, below ≠ .otpPage page request
  oneHomePage : routes.count .homePage ≤ 1
  afterLogout : loggedOut = true → .homePage ∉ routes ∧ .checkoutPage ∉ routes

/-- A home page is created only in the place of the only route, and a logout ends only without a
home page beneath the route on top. -/
def ReplacesLast (p : MockAPP) : Event → Prop
  | .signedIn _ true => p.routes.tail = []
  | .resume i _ => p.calls[i]? = some .clearUserToken → .homePage ∉ p.routes.tail
  | _ => True

/-! ## The shape of the stack -/

/-- A login page with what it leads to before a login. -/
inductive LoginRoutes : List Route → Prop
  | login : LoginRoutes [.loginPage]
  | push {route : Route} {rest : List Route} : route.beforeLogin = true → LoginRoutes rest →
    LoginRoutes (route :: rest)

/-- The stack, with the flag that a logout was the last to complete. -/
inductive Stack : List Route → Bool → Prop
  | login {routes : List Route} {loggedOut : Bool} : LoginRoutes routes → Stack routes loggedOut
  | home : Stack [.homePage] false
  | checkout : Stack [.checkoutPage, .homePage] false
  | placed : Stack [.orderPlaced, .checkoutPage, .homePage] false

theorem LoginRoutes.beforeLogin {routes : List Route} (h : LoginRoutes routes) {route : Route}
    (hmem : route ∈ routes) : route.beforeLogin = true := by
  induction h with
  | login =>
    cases List.mem_singleton.mp hmem
    rfl
  | push htop _ ih =>
    rcases List.mem_cons.mp hmem with rfl | hmem
    · exact htop
    · exact ih hmem

theorem LoginRoutes.loginPage_mem {routes : List Route} (h : LoginRoutes routes) :
    .loginPage ∈ routes := by
  induction h with
  | login => exact List.mem_singleton_self _
  | push _ _ ih => exact List.mem_cons_of_mem _ ih

theorem LoginRoutes.not_mem {routes : List Route} (h : LoginRoutes routes) {route : Route}
    (hroute : route.beforeLogin = false) : route ∉ routes := by
  intro hmem
  cases hroute.symm.trans (h.beforeLogin hmem)

/-- The top can be replaced by another route from before the login, unless it is the login page. -/
theorem LoginRoutes.replaceTop {top route : Route} {rest : List Route}
    (h : LoginRoutes (top :: rest)) (htop : top ≠ .loginPage) (hroute : route.beforeLogin = true) :
    LoginRoutes (route :: rest) := by
  cases h with
  | login => exact (htop rfl).elim
  | push _ hrest => exact .push hroute hrest

theorem LoginRoutes.replaceLoginPage {routes : List Route} (h : LoginRoutes routes) :
    LoginRoutes (.loginPage :: routes.tail) := by
  cases h with
  | login => exact .login
  | push _ hrest => exact .push rfl hrest

theorem LoginRoutes.pop {top : Route} {rest : List Route} (h : LoginRoutes (top :: rest))
    (htop : top ≠ .loginPage ∨ rest ≠ []) : LoginRoutes rest := by
  cases h with
  | login => exact (htop.elim (· rfl) (· rfl)).elim
  | push _ hrest => exact hrest

namespace Stack

theorem loginRoutes {top : Route} {rest : List Route} {loggedOut : Bool}
    (h : Stack (top :: rest) loggedOut) (htop : top.beforeLogin = true) :
    LoginRoutes (top :: rest) := by
  cases h with
  | login h => exact h
  | home | checkout | placed => cases htop

theorem of_homePage {rest : List Route} {loggedOut : Bool}
    (h : Stack (.homePage :: rest) loggedOut) : rest = [] ∧ loggedOut = false := by
  cases h with
  | login h => cases h.beforeLogin List.mem_cons_self
  | home => exact ⟨rfl, rfl⟩

theorem of_checkoutPage {rest : List Route} {loggedOut : Bool}
    (h : Stack (.checkoutPage :: rest) loggedOut) : rest = [.homePage] ∧ loggedOut = false := by
  cases h with
  | login h => cases h.beforeLogin List.mem_cons_self
  | checkout => exact ⟨rfl, rfl⟩

theorem of_orderPlaced {rest : List Route} {loggedOut : Bool}
    (h : Stack (.orderPlaced :: rest) loggedOut) :
    rest = [.checkoutPage, .homePage] ∧ loggedOut = false := by
  cases h with
  | login h => cases h.beforeLogin List.mem_cons_self
  | placed => exact ⟨rfl, rfl⟩

theorem pop {top below : Route} {rest : List Route} {loggedOut : Bool}
    (h : Stack (top :: below :: rest) loggedOut) : Stack (below :: rest) loggedOut := by
  cases h with
  | login h => exact .login (h.pop (.inr (List.cons_ne_nil _ _)))
  | checkout => exact .home
  | placed => exact .checkout

/-- After a login the flag is cleared. -/
theorem loggedIn {routes : List Route} {loggedOut : Bool} (h : Stack routes loggedOut) :
    Stack routes false := by
  cases h with
  | login h => exact .login h
  | home => exact .home
  | checkout => exact .checkout
  | placed => exact .placed

/-- What a logout leaves, unless there is a home page beneath the top. -/
theorem replaceLoginPage {routes : List Route} {loggedOut : Bool} (h : Stack routes loggedOut)
    (hhome : .homePage ∉ routes.tail) : LoginRoutes (.loginPage :: routes.tail) := by
  cases h with
  | login h => exact h.replaceLoginPage
  | home => exact .login
  | checkout => exact (hhome (by decide)).elim
  | placed => exact (hhome (by decide)).elim

end Stack

theorem LoginRoutes.routesAgree {routes : List Route} (h : LoginRoutes routes) (loggedOut : Bool) :
    RoutesAgree routes loggedOut where
  noLoginBelow := List.pairwise_of_forall_mem_list fun _ habove _ _ heq =>
    (h.not_mem rfl (heq ▸ habove)).elim
  oneHomePage := by
    rw [List.count_eq_zero_of_not_mem (h.not_mem rfl)]
    exact Nat.zero_le 1
  afterLogout _ := ⟨h.not_mem rfl, h.not_mem rfl⟩

theorem Stack.routesAgree {routes : List Route} {loggedOut : Bool} (h : Stack routes loggedOut) :
    RoutesAgree routes loggedOut := by
  cases h with
  | login h => exact h.routesAgree loggedOut
  | home => exact ⟨by simp, by decide, fun h => nomatch h⟩
  | checkout => exact ⟨by simp, by decide, fun h => nomatch h⟩
  | placed => exact ⟨by simp, by decide, fun h => nomatch h⟩

/-! ## What an event does to it -/

theorem Stack.signedIn {p : MockAPP} (h : Stack p.routes p.loggedOut) {user : User}
    {mounted : Bool} (hlast : p.ReplacesLast (.signedIn user mounted)) :
    Stack (p.signedIn user mounted).routes (p.signedIn user mounted).loggedOut := by
  cases mounted with
  | true =>
    have htail : p.routes.tail = [] := hlast
    change Stack (.homePage :: p.routes.tail) false
    rw [htail]
    exact .home
  | false => exact h.loggedIn

theorem Stack.step {p p' : MockAPP} {e : Event} (h : Stack p.routes p.loggedOut)
    (hlast : p.ReplacesLast e) (hstep : p.Step e p') : Stack p'.routes p'.loggedOut := by
  cases hstep with
  | googleButtonAction _ | submitted _ _ | codeSent _ | verificationFailed _ | signInFailed _
  | logout _ | resumed _ _ | threw _ => exact h
  | phoneButtonAction hroutes =>
    have hlogin : LoginRoutes p.routes := hroutes ▸ (hroutes ▸ h).loginRoutes rfl
    exact .login (.push rfl hlogin)
  | editPhoneNumber hroutes | editOtp hroutes | registered hroutes _ _ =>
    rw [hroutes] at h
    exact .login ((h.loginRoutes rfl).replaceTop (fun h => nomatch h) rfl)
  | refused hroutes _ _ =>
    rw [hroutes] at h
    exact .login (.push rfl ((h.loginRoutes rfl).replaceTop (fun h => nomatch h) rfl))
  | signedIn _ => exact h.signedIn hlast
  | badgeOntap hroutes =>
    rw [hroutes] at h
    obtain ⟨rfl, hflag⟩ := h.of_homePage
    change Stack (.checkoutPage :: p.routes) p.loggedOut
    rw [hroutes, hflag]
    exact .checkout
  | placeOrder hroutes =>
    rw [hroutes] at h
    obtain ⟨rfl, hflag⟩ := h.of_checkoutPage
    change Stack (.orderPlaced :: p.routes) p.loggedOut
    rw [hroutes, hflag]
    exact .placed
  | okInvalidNumber hroutes =>
    rw [hroutes] at h
    change Stack p.routes.tail p.loggedOut
    rw [hroutes]
    exact .login ((h.loginRoutes rfl).pop (.inl fun h => nomatch h))
  | okOrderPlaced hroutes =>
    rw [hroutes] at h
    obtain ⟨rfl, hflag⟩ := h.of_orderPlaced
    change Stack p.routes.tail.tail p.loggedOut
    rw [hroutes, hflag]
    exact .home
  | back hroutes =>
    rw [hroutes] at h
    change Stack p.routes.tail p.loggedOut
    rw [hroutes]
    exact h.pop
  | cleared hcall => exact .login (h.replaceLoginPage (hlast hcall))

theorem Stack.tail_eq_nil {routes : List Route} {loggedOut : Bool} (h : Stack routes loggedOut)
    (hagree : RoutesAgree (.homePage :: routes.tail) false) : routes.tail = [] := by
  cases h with
  | login h =>
    cases h with
    | login => rfl
    | push _ hrest =>
      have hbelow := (List.pairwise_cons.mp hagree.noLoginBelow).1 _ hrest.loginPage_mem rfl
      exact (hbelow.1 rfl).elim
  | home => rfl
  | checkout => exact absurd hagree.oneHomePage (by decide)
  | placed => exact absurd hagree.oneHomePage (by decide)

theorem Stack.replacesLast {p p' : MockAPP} {e : Event} (h : Stack p.routes p.loggedOut)
    (hstep : p.Step e p') (hagree : RoutesAgree p'.routes p'.loggedOut) : p.ReplacesLast e := by
  cases hstep with
  | @signedIn user mounted _ =>
    cases mounted with
    | true => exact h.tail_eq_nil hagree
    | false => trivial
  | resumed hcall hclear =>
    intro hcall'
    exact (hclear (Option.some.inj (hcall.symm.trans hcall'))).elim
  | cleared _ =>
    intro _ hmem
    exact (hagree.afterLogout rfl).1 (List.mem_cons_of_mem _ hmem)
  | _ => trivial

theorem stack_runApp (storage : FlutterSecureStorage) (currentUser : Option User) :
    Stack (runApp storage currentUser).routes (runApp storage currentUser).loggedOut :=
  runApp_cases (P := fun p => Stack p.routes p.loggedOut) (fun _ => .home) fun _ => .login .login

/-- **The stack and the session.** From either home route, the stack agrees with the session in
every state of a run, if and only if every home page is created in the place of the only route, and
every logout ends without a home page beneath the route on top. -/
theorem routesAgree_iff (storage : FlutterSecureStorage) (currentUser : Option User)
    (events : List Event) :
    machine.AlongStates (fun p => RoutesAgree p.routes p.loggedOut) (runApp storage currentUser)
        events ↔
      machine.AlongSteps ReplacesLast (runApp storage currentUser) events :=
  Machine.alongStates_iff (I := fun p => Stack p.routes p.loggedOut) (fun _ h => h.routesAgree)
    (fun _ _ _ h hlast hstep => h.step hlast (step_sound hstep))
    (fun _ _ _ h hstep hagree => h.replacesLast (step_sound hstep) hagree)
    (stack_runApp storage currentUser)

/-- A login by phone leaves the login page beneath the home page. A logout that ends while the
checkout page is open leaves the home page beneath the login page. -/
theorem routes_disagree :
    (∃ p, machine.run (runApp {} none) [.phoneButtonAction, .editPhoneNumber "1234567890",
        .otpButtonPressed, .codeSent ⟨"+911234567890", 0⟩, .editOtp "123456", .otpButtonPressed,
        .signedIn ⟨"alice", .phone⟩ true] = some p ∧
      p.routes = [.homePage, .loginPage] ∧ ¬ RoutesAgree p.routes p.loggedOut) ∧
    ∃ p, machine.run
        (runApp { userToken := some ⟨⟨"alice", .google⟩, 0⟩ } (some ⟨"alice", .google⟩))
        [.logout, .badgeOntap, .resume 0 0, .resume 0 0, .resume 0 0] = some p ∧
      p.routes = [.loginPage, .homePage] ∧ p.loggedOut = true ∧
      ¬ RoutesAgree p.routes p.loggedOut := by
  refine ⟨⟨_, rfl, rfl, fun h => ?_⟩, _, rfl, rfl, rfl, fun h => ?_⟩
  · exact ((List.pairwise_cons.mp h.noLoginBelow).1 _ (List.mem_singleton_self _) rfl).1 rfl
  · exact (h.afterLogout rfl).1 (List.mem_cons_of_mem _ (List.mem_singleton_self _))

end MockAPP
end MachineTest
