import MachineTest.Verify.Total

/-! # What is tapped is charged

A session may place several orders. In exact arithmetic the totals of the orders that it placed and
the total of the cart at its end make up the price of what was tapped: nothing is charged twice,
forgotten or charged at another price than that of its card. -/

namespace MachineTest

section
variable {R : Type} [DartDouble R]

/-- The total that the checkout page shows when the order is placed. -/
def App.charged [Zero R] (app : App R) (tap : Tap) : R :=
  match app.page, tap with
  | .checkout model, .ok => model.totalPrice
  | _, _ => 0

/-- The number of items that the checkout page shows when the order is placed. -/
def App.placed (app : App R) (tap : Tap) : ℤ :=
  match app.page, tap with
  | .checkout _, .ok => (CheckoutPage.topHeading app.memory).2
  | _, _ => 0

end

section
variable {R : Type} [CommRing R] [DecidableEq R] [DartDouble R]

omit [CommRing R] [DecidableEq R] in
theorem Singleton.change_dish {s : Singleton R} {d : DishRef R} {isAdd : Bool} {i j : ℕ}
    (hd : s.dishAt i j = some d) : s.change (.dish isAdd i j) = .add d (sign isAdd) := by
  rw [Singleton.change, hd]
  rfl

omit [CommRing R] [DecidableEq R] in
theorem Memory.CartInv.change_row {s : Memory R} {d : DishRef R} {isAdd : Bool} (h : s.CartInv)
    (hids : s.DistinctIds) (hd : d ∈ s.cartData.dishes) :
    s.change (.row isAdd d.dishId) = .add d (sign isAdd) := by
  rw [Singleton.change, h.find_dish hids hd]
  rfl

/-- Some pieces more or less of a dish on display. -/
theorem Memory.Adds.conserves {s s' : Memory R} {d : DishRef R} {n : ℤ} (h : s.Adds d n s')
    (hcart : s.CartInv) (hcart' : s'.CartInv) (hd : d ∈ s.dishes) :
    0 + CheckoutController.calculateTotalAmount s' =
        CheckoutController.calculateTotalAmount s +
          (Order.Change.add d n).worth DishRef.dishPrice ∧
      0 + s'.cartCount = s.cartCount + (Order.Change.add d n).pieces := by
  refine ⟨(zero_add _).trans ?_, (zero_add _).trans h.cartCount⟩
  rw [hcart.total_eq, hcart'.total_eq, h.dishes, h.dishOrdeCount]
  exact Order.bill_add DishRef.dishPrice hcart.nodup hd n

/-- What is charged, and what is left in the cart, was there or is tapped. -/
theorem App.Step.conserves {app app' : App R} {tap : Tap} (hstep : app.Step tap app')
    (hcart : app.memory.CartInv) (hcart' : app'.memory.CartInv) (hids : app.memory.DistinctIds)
    (htotal : app.TotalInv) :
    app.charged tap + CheckoutController.calculateTotalAmount app'.memory =
        CheckoutController.calculateTotalAmount app.memory +
          (app.memory.change tap).worth DishRef.dishPrice ∧
      app.placed tap + app'.memory.cartCount =
        app.memory.cartCount + (app.memory.change tap).pieces := by
  cases hstep with
  | dish hd _ _ =>
    rw [Singleton.change_dish hd]
    exact (Memory.adds_tapped ..).conserves hcart hcart' (Singleton.mem_dishes_iff.mpr ⟨_, _, hd⟩)
  | row hd =>
    rw [hcart.change_row hids hd]
    exact (Memory.adds_rowTapped hd _).conserves hcart hcart' (hcart.displayed _ hd)
  | refused | back =>
    exact ⟨(zero_add _).trans (add_zero _).symm, (zero_add _).trans (add_zero _).symm⟩
  | @opened s _ =>
    refine ⟨?_, ?_⟩
    · rw [Memory.calculateTotalAmount_cleaned]
      exact (zero_add _).trans (add_zero _).symm
    · exact (zero_add _).trans (add_zero _).symm
  | @ok s model =>
    have hpage : model.totalPrice = CheckoutController.calculateTotalAmount s := htotal model rfl
    refine ⟨?_, rfl⟩
    rw [← hpage]
    rfl

/-- **The ledger.** In a session that starts with a fresh menu of distinct ids, the totals of the
orders it placed and the total of the cart at its end add up to the price of all that was tapped,
and so do the numbers of items. -/
theorem App.ledger {s : Memory R} (hs : s.Fresh) (hids : s.DistinctIds) {taps : List Tap}
    {app : App R} (hrun : (App.machine R).run ⟨s, .home⟩ taps = some app) :
    (App.machine R).total App.charged ⟨s, .home⟩ taps +
        CheckoutController.calculateTotalAmount app.memory =
          (taps.map fun tap => (s.change tap).worth DishRef.dishPrice).sum ∧
      (App.machine R).total App.placed ⟨s, .home⟩ taps + app.memory.cartCount =
        (taps.map fun tap => (s.change tap).pieces).sum := by
  have hkeep (app : App R) (tap : Tap) (app' : App R) (h : app.Inv s.menuModel ∧ app.TotalInv)
      (_ : True) (hstep : (App.machine R).step app tap = some app') :
      app'.Inv s.menuModel ∧ app'.TotalInv :=
    ⟨h.1.step hstep, h.2.step (App.step_sound hstep)⟩
  have hconserves (app : App R) (tap : Tap) (app' : App R)
      (h : app.Inv s.menuModel ∧ app.TotalInv)
      (hstep : (App.machine R).step app tap = some app') :
      app.charged tap + CheckoutController.calculateTotalAmount app'.memory =
          CheckoutController.calculateTotalAmount app.memory +
            (s.change tap).worth DishRef.dishPrice ∧
        app.placed tap + app'.memory.cartCount = app.memory.cartCount + (s.change tap).pieces := by
    rw [← Singleton.change_congr h.1.menuModel]
    exact (App.step_sound hstep).conserves h.1.cartInv (h.1.step hstep).cartInv h.1.distinctIds h.2
  have hstart : (⟨s, .home⟩ : App R).Inv s.menuModel ∧ (⟨s, .home⟩ : App R).TotalInv :=
    ⟨hs.appInv hids .home, App.totalInv_home s⟩
  have hall : (App.machine R).AlongSteps (fun _ _ => True) ⟨s, .home⟩ taps :=
    .of_forall fun _ _ _ => trivial
  constructor
  · have hzero : CheckoutController.calculateTotalAmount s = 0 := by
      rw [calculateTotalAmount_eq, hs.cartData]
      rfl
    have hsum := Machine.run_conserved hkeep
      (fun app tap app' h _ hstep => (hconserves app tap app' h hstep).1) hstart hall hrun
    rwa [hzero, zero_add, Machine.total_eq_sum hrun] at hsum
  · have hsum := Machine.run_conserved hkeep
      (fun app tap app' h _ hstep => (hconserves app tap app' h hstep).2) hstart hall hrun
    rwa [hs.cartCount, zero_add, Machine.total_eq_sum hrun] at hsum

end

/-- Two orders, of 23 and of 3, and 10 left in the cart. -/
theorem App.ledger_menuOfTwo : ∃ app, (App.machine ℚ).run ⟨menuOfTwo, .home⟩
      [.dish true 0 0, .dish true 0 1, .cartIcon, .row true (some "1"), .ok,
        .dish true 0 1, .cartIcon, .ok, .dish true 0 0] = some app ∧
    (App.machine ℚ).total App.charged ⟨menuOfTwo, .home⟩
        [.dish true 0 0, .dish true 0 1, .cartIcon, .row true (some "1"), .ok,
          .dish true 0 1, .cartIcon, .ok, .dish true 0 0] +
      CheckoutController.calculateTotalAmount app.memory = 36 := by
  obtain ⟨app, hrun⟩ : ∃ app, (App.machine ℚ).run ⟨menuOfTwo, .home⟩
      [.dish true 0 0, .dish true 0 1, .cartIcon, .row true (some "1"), .ok,
        .dish true 0 1, .cartIcon, .ok, .dish true 0 0] = some app := ⟨_, rfl⟩
  refine ⟨app, hrun, (App.ledger menuOfTwo_fresh menuOfTwo_distinctIds hrun).1.trans ?_⟩
  decide +kernel

end MachineTest
