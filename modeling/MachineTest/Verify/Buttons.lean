import MachineTest.Verify.Bill
import MachineTest.Verify.Stranded

/-! # The buttons on the screen

A page offers the buttons of its last build, and what a button does depends on the memory at the
time of the tap. The only button that can throw is one of a row whose dish has left the cart since,
and for that another home page must have been created. -/

namespace MachineTest

namespace Mocky

section
variable {D : Type} [DartDouble D]

/-- A button that the route on top shows and that is enabled, as it was built last. The cart icon
does nothing at count zero. -/
inductive Offers (s : Mocky D) : Event D → Prop
  | googleButtonAction {rest : List Route} : s.app.routes = .loginPage :: rest →
    Offers s (.app .googleButtonAction)
  | phoneButtonAction {rest : List Route} : s.app.routes = .loginPage :: rest →
    Offers s (.app .phoneButtonAction)
  | otpButtonPressed {page : OtpPage} {request : Option Verification} {rest : List Route} :
    s.app.routes = .otpPage page request :: rest → Offers s (.app .otpButtonPressed)
  | ok {top : Route} {rest : List Route} : s.app.routes = top :: rest →
    top = .invalidNumber ∨ top = .orderPlaced → Offers s (.app .ok)
  | back {top below : Route} {rest : List Route} : s.app.routes = top :: below :: rest →
    Offers s (.app .back)
  | logout {page : BuiltHomePage D} {rest : List Route} : s.app.routes = .homePage :: rest →
    s.homePages.head? = some page → page.showsTabs = true → Offers s (.app .logout)
  | badgeOntap {page : BuiltHomePage D} {rest : List Route} : s.app.routes = .homePage :: rest →
    s.homePages.head? = some page → page.showsTabs = true → s.memory.cartCount ≠ 0 →
    Offers s (.app .badgeOntap)
  | dish {page : BuiltHomePage D} {rest : List Route} {isAdd : Bool} {i j : ℕ} {d : DishRef D} :
    s.app.routes = .homePage :: rest → s.homePages.head? = some page →
    page.showsTabs = true → page.built.dishAt i j = some d → d.built = true →
    (isAdd = false → page.built.dishOrdeCount d ≠ 0) → Offers s (.dish isAdd i j)
  | placeOrder {rest : List Route} : s.app.routes = .checkoutPage :: rest →
    Offers s (.app .placeOrder)
  | row {page : BuiltCheckoutPage D} {rest : List Route} {isAdd : Bool} {key : Option String} :
    s.app.routes = .checkoutPage :: rest → s.checkoutPages.head? = some page →
    key ∈ page.built.cartData.map.keys → Offers s (.row isAdd key)

end

section
variable {D : Type} [DecidableEq D] [DartDouble D] [Zero D] [Add D] [Sub D] [Mul D] [IntCast D]
variable {s : Mocky D} {e : Event D}

theorem step_app_ne_none {e : MockAPP.Event} {app : MockAPP} {t : Mocky D}
    (hallows : s.contexts.allows s.app e = true) (happ : s.app.step e = some app)
    (hreact : s.react e s.app.routes = some t) : (machine D).step s (.app e) ≠ none := by
  rw [step_app hallows happ hreact]
  exact Option.some_ne_none _

/-- "Place Order" on a page that was built. -/
theorem step_placeOrder {page : BuiltCheckoutPage D} {rest : List Route}
    (hroutes : s.app.routes = .checkoutPage :: rest) (hpage : s.checkoutPages.head? = some page)
    (hbuilds : page.builds = true) :
    (machine D).step s (.app .placeOrder) = some
      { s with
        app := s.app.push .orderPlaced
        contexts := s.contexts.after s.app .placeOrder } := by
  refine step_app rfl (MockAPP.step_complete (.placeOrder hroutes)) (t := s) ?_
  rw [react, hpage]
  exact if_pos hbuilds

/-- The button of the order dialog. -/
theorem step_ok {rest : List Route} (hroutes : s.app.routes = .orderPlaced :: rest) :
    (machine D).step s (.app .ok) = some
      { leave { s with memory := CheckoutController.resetCount s.memory } .checkoutPage with
        app := s.app.pop.pop
        contexts := s.contexts.after s.app .ok } := by
  refine step_app rfl (MockAPP.step_complete (.okOrderPlaced hroutes)) ?_
  rw [hroutes]
  rfl

/-- A button of a row throws if and only if the cart has lost the key. -/
theorem step_row_eq_none_iff {page : BuiltCheckoutPage D} {rest : List Route} {isAdd : Bool}
    {key : Option String} (hroutes : s.app.routes = .checkoutPage :: rest)
    (hpage : s.checkoutPages.head? = some page) (hbuilds : page.builds = true)
    (hkey : key ∈ page.built.cartData.map.keys) :
    (machine D).step s (.row isAdd key) = none ↔ key ∉ s.memory.cartData.map.keys := by
  obtain ⟨pages, hpages⟩ := List.head?_eq_some_iff.mp hpage
  have hstep : (machine D).step s (.row isAdd key) =
      ((CheckoutPage.addAndMinus isAdd key s.memory page.model).bind fun r =>
        some (r.1, ({ model := r.2, built := r.1 } : BuiltCheckoutPage D))).map fun r =>
          { s with memory := r.1, checkoutPages := r.2 :: pages } := by
    change s.step (.row isAdd key) = _
    rw [step, hroutes, hpages]
    dsimp only
    rw [if_pos hbuilds, BuiltCheckoutPage.tapRow, if_pos hkey]
    rfl
  have hsome := CheckoutPage.isSome_addAndMinus s.memory page.model isAdd key
  rw [hstep, Option.map_eq_none_iff]
  cases hrow : CheckoutPage.addAndMinus isAdd key s.memory page.model with
  | none =>
    rw [hrow] at hsome
    exact iff_of_true rfl (of_decide_eq_false hsome.symm)
  | some r =>
    rw [hrow] at hsome
    exact iff_of_false (Option.some_ne_none _) (not_not.mpr (of_decide_eq_true hsome.symm))

/-- Every other button works, and so does one of a row that is still in the cart. -/
theorem Offers.step_ne_none (h : s.Offers e) (hinv : s.Inv)
    (hbuilds : ∀ page ∈ s.checkoutPages, page.builds = true)
    (hkept : ∀ isAdd key, e = .row isAdd key → key ∈ s.memory.cartData.map.keys) :
    (machine D).step s e ≠ none := by
  cases h with
  | googleButtonAction hroutes =>
    exact step_app_ne_none rfl (MockAPP.step_complete (.googleButtonAction hroutes)) rfl
  | phoneButtonAction hroutes =>
    exact step_app_ne_none rfl (MockAPP.step_complete (.phoneButtonAction hroutes)) rfl
  | otpButtonPressed hroutes =>
    exact step_app_ne_none rfl (MockAPP.step_complete (MockAPP.otpButtonPressed_sound hroutes)) rfl
  | ok hroutes htop =>
    rcases htop with rfl | rfl
    · refine step_app_ne_none rfl (MockAPP.step_complete (.okInvalidNumber hroutes)) (t := s) ?_
      rw [hroutes]
      rfl
    · rw [step_ok hroutes]
      exact Option.some_ne_none _
  | @back top _ _ hroutes =>
    refine step_app_ne_none rfl (MockAPP.step_complete (.back hroutes)) (t := s.leave top) ?_
    rw [hroutes]
    rfl
  | logout hroutes hpage hshows =>
    refine step_app_ne_none rfl (MockAPP.step_complete (.logout hroutes)) (t := s) ?_
    rw [react, hpage]
    exact if_pos hshows
  | badgeOntap hroutes hpage hshows hcount =>
    have hbadge := HomePage.badgeOntap_eq_some.mpr ⟨hcount, rfl⟩
    refine step_app_ne_none rfl (MockAPP.step_complete (.badgeOntap hroutes))
      (t := s.openCheckoutPage) ?_
    rw [react, hpage, hbadge]
    exact if_pos hshows
  | @dish _ _ isAdd i j _ hroutes hpage hshows hd hbuilt hguard =>
    obtain ⟨pages, hpages⟩ := List.head?_eq_some_iff.mp hpage
    change s.step (.dish isAdd i j) ≠ none
    rw [step, hroutes, hpages]
    dsimp only
    rw [if_pos hshows, BuiltHomePage.tapDish_eq_some.mpr ⟨_, hd, hbuilt, hguard, rfl⟩]
    exact Option.some_ne_none _
  | placeOrder hroutes =>
    have hlength := hinv.aligned.checkoutPages
    rw [hroutes, List.count_cons_self] at hlength
    obtain ⟨page, pages, hpages⟩ := List.exists_cons_of_length_eq_add_one hlength
    rw [step_placeOrder hroutes (congrArg List.head? hpages)
      (hbuilds page (hpages ▸ List.mem_cons_self))]
    exact Option.some_ne_none _
  | row hroutes hpage hkey =>
    have hmem := List.mem_of_mem_head? hpage
    rw [Ne, step_row_eq_none_iff hroutes hpage (hbuilds _ hmem) hkey, not_not]
    exact hkept _ _ rfl

/-- **The buttons.** In every state of every run, a button on the screen throws if and only if it is
one of a row whose key has left the cart, and none throws if the top home page is the last one
created. -/
theorem buttons {storage : FlutterSecureStorage} {currentUser : Option User}
    {events : List (Event D)}
    (hrun : (machine D).run (runApp storage currentUser) events = some s) (hoffers : s.Offers e) :
    ((machine D).step s e = none ↔
        ∃ isAdd key, e = .row isAdd key ∧ key ∉ s.memory.cartData.map.keys) ∧
      ∀ page, s.homePages.head? = some page → page.serial + 1 = s.created →
        (machine D).step s e ≠ none := by
  obtain ⟨hinv, hcurrent⟩ := upToDate_run hrun
  have hbuilds : ∀ page ∈ s.checkoutPages, page.builds = true := fun page hmem =>
    ((rows_sourced hrun).2 page hmem).1
  refine ⟨⟨fun hnone => ?_, ?_⟩, fun page hpage hlast => ?_⟩
  · by_contra hkept
    refine hoffers.step_ne_none hinv hbuilds (fun isAdd key he => ?_) hnone
    exact not_not.mp fun hgone => hkept ⟨isAdd, key, he, hgone⟩
  · rintro ⟨isAdd, key, rfl, hgone⟩
    cases hoffers with
    | row hroutes hpage hkey =>
      exact (step_row_eq_none_iff hroutes hpage
        (hbuilds _ (List.mem_of_mem_head? hpage)) hkey).mpr hgone
  · refine hoffers.step_ne_none hinv hbuilds fun isAdd key he => ?_
    subst he
    cases hoffers with
    | row hroutes hcheckout hkey =>
      have hrows := hcurrent.checkout (topPage_of_head? rfl (by rw [hroutes]; rfl)) page hpage hlast
        _ hcheckout
      exact hrows.cartData ▸ hkey

end

theorem run_respond_oneDish {s : Mocky ℚ} (h : s.outstanding ≠ 0) (events : List (Event ℚ)) :
    (machine ℚ).run s (.respond oneDish :: events) = (machine ℚ).run (callSetState { s with
      memory := { s.memory.install [menuOf [dishOf (some "1") 10]] with isLoading := false }
      outstanding := s.outstanding - 1 }) events := by
  have hstep : (machine ℚ).step s (.respond oneDish) = some (s.respond oneDish) := if_neg h
  rw [Machine.run, hstep, oneDish, respond_ok decode_oneDish]
  rfl

/-- Alice places an order after her logout, whose login page lands on the checkout page. Bob logs in
on top of it. -/
def aliceOrdersLate : List (Event ℚ) :=
  [.dish true 0 0, .app .logout, .app .badgeOntap, .app .placeOrder, .app (.resume 0 0),
    .app (.resume 0 0), .app (.resume 0 0), .app .googleButtonAction,
    .app (.signedIn ⟨"bob", .google⟩ true)]

/-- Bob orders, and goes back to her page, whose row is no longer in the cart. -/
theorem buttons_aliceOrdersLate : ∃ s, (machine ℚ).run
      (runApp { userToken := some ⟨⟨"alice", .google⟩, 0⟩ } (some ⟨"alice", .google⟩))
      (.respond oneDish :: (aliceOrdersLate ++ .respond oneDish ::
        [.dish true 0 0, .app .badgeOntap, .app .placeOrder, .app .ok, .app .back])) = some s ∧
    s.Offers (.row true (some "1")) ∧ (machine ℚ).step s (.row true (some "1")) = none := by
  obtain ⟨s, page, rest, hrun, hroutes, hpage, hkey, hgone⟩ : ∃ s page rest, (machine ℚ).run
      homeOfOneDish (aliceOrdersLate ++ .respond oneDish ::
        [.dish true 0 0, .app .badgeOntap, .app .placeOrder, .app .ok, .app .back]) = some s ∧
      s.app.routes = .checkoutPage :: rest ∧ s.checkoutPages.head? = some page ∧
      some "1" ∈ page.built.cartData.map.keys ∧ some "1" ∉ s.memory.cartData.map.keys := by
    refine ⟨_, _, _, Machine.run_append.mpr ⟨_, rfl, (run_respond_oneDish ?_ _).trans rfl⟩, rfl,
      rfl, ?_, ?_⟩
    · exact Nat.succ_ne_zero _
    · exact List.mem_cons_self
    · exact List.not_mem_nil
  rw [← run_homeOfOneDish] at hrun
  have hoffers : s.Offers (.row true (some "1")) := .row hroutes hpage hkey
  exact ⟨s, hrun, hoffers, (buttons hrun hoffers).1.mpr ⟨true, some "1", rfl, hgone⟩⟩

end Mocky
end MachineTest
