import MachineTest.Verify.Cart
import MachineTest.Verify.MenuRoundTrip

/-! # The total of the checkout page

The page computes its total when it opens and then moves it by one price for each tap. `TotalInv`
says that it is nevertheless the total of the cart. The second half is about signs: which runs keep
the counts, the cart count and the total from falling below zero. -/

namespace MachineTest

/-! ## The running total -/

section
variable {R : Type} [CommRing R] [DecidableEq R]

/-- An open checkout page shows the amount due for the cart. -/
def App.TotalInv (app : App R) : Prop := ∀ model, app.page = .checkout model →
  model.totalPrice = CheckoutController.calculateTotalAmount app.memory

omit [DecidableEq R] in
theorem App.totalInv_home (s : Memory R) : (⟨s, .home⟩ : App R).TotalInv := fun _ h => by cases h

omit [DecidableEq R] in
theorem App.totalInv_opened (s : Memory R) :
    (⟨s, .checkout (CheckoutPage.initState s)⟩ : App R).TotalInv := fun _ h => by cases h; rfl

/-- One tap on a row moves the total of the cart by one price. -/
theorem Memory.calculateTotalAmount_rowTapped {s : Memory R} {d : DishRef R}
    (hd : d ∈ s.cartData.dishes) (isAdd : Bool) :
    CheckoutController.calculateTotalAmount (s.rowTapped d isAdd) =
      if isAdd then CheckoutController.calculateTotalAmount s + d.dishPrice
      else CheckoutController.calculateTotalAmount s - d.dishPrice := by
  have hadd := Order.bill_add (o := s.dishOrdeCount) DishRef.dishPrice s.cartData.dishes_nodup hd
    (sign isAdd)
  rw [calculateTotalAmount_eq, calculateTotalAmount_eq]
  refine hadd.trans ?_
  cases isAdd with
  | true => simp [sign]
  | false => simp [sign, sub_eq_add_neg]

/-- The cleaning pass of `badgeOntap` leaves the total as it is. -/
theorem Memory.calculateTotalAmount_cleaned (s : Memory R) :
    CheckoutController.calculateTotalAmount s.cleaned =
      CheckoutController.calculateTotalAmount s := by
  rw [calculateTotalAmount_eq, calculateTotalAmount_eq, Memory.cleaned, CartData.dishes_filter]
  refine Order.bill_of_subset _ (s.cartData.dishes_nodup.filter _) s.cartData.dishes_nodup
    (fun d hd => List.mem_of_mem_filter hd) fun d hd hne => ?_
  exact List.mem_filter.mpr ⟨hd, decide_eq_true hne⟩

variable [DartDouble R]

theorem App.TotalInv.step {app app' : App R} {tap : Tap} (h : app.TotalInv)
    (hstep : app.Step tap app') : app'.TotalInv := by
  intro model' hpage
  cases hstep with
  | dish | refused | back | ok => cases hpage
  | opened => cases hpage; rfl
  | row hd =>
    cases hpage
    rw [Memory.calculateTotalAmount_rowTapped hd, CheckoutModel.tapped, h _ rfl]

theorem App.TotalInv.run {app app' : App R} {taps : List Tap} (h : app.TotalInv)
    (hrun : (App.machine R).run app taps = some app') : app'.TotalInv :=
  Machine.run_invariant (I := App.TotalInv)
    (fun _ _ _ hI hstep => hI.step (App.step_sound hstep)) h hrun

/-- A run that goes back and reopens the cart cleans it. -/
theorem App.reopen {s s' : Memory R} {model model' : CheckoutModel R}
    (h : (App.machine R).run ⟨s, .checkout model⟩ [.back, .cartIcon] =
      some ⟨s', .checkout model'⟩) :
    s' = s.cleaned ∧ model' = CheckoutPage.initState s.cleaned := by
  obtain ⟨t, hback, hrun⟩ := Machine.run_cons.mp h
  obtain ⟨u, hicon, hend⟩ := Machine.run_cons.mp hrun
  obtain rfl : ⟨s, .home⟩ = t := Option.some.inj hback
  obtain rfl : u = ⟨s', .checkout model'⟩ := Option.some.inj hend
  have hopen : App.Step ⟨s, .home⟩ .cartIcon ⟨s', .checkout model'⟩ := App.step_sound hicon
  cases hopen with
  | opened => exact ⟨rfl, rfl⟩

end

theorem CheckoutPage.sum_lineTotal (s : Memory ℚ) :
    ((CheckoutPage.menuList s).map Row.lineTotal).sum =
      CheckoutController.calculateTotalAmount s := by
  rw [menuList_eq, calculateTotalAmount_eq, List.map_map]
  rfl

/-- On a page opened over any cart, the total after any taps on its rows is the recomputed total
and the sum of the line totals, and closing and reopening the page shows it again. -/
theorem CheckoutPage.totalPrice_eq {s s' : Memory ℚ} {taps : List Tap} {model : CheckoutModel ℚ}
    (hrun : (App.machine ℚ).run ⟨s, .checkout (CheckoutPage.initState s)⟩ taps =
      some ⟨s', .checkout model⟩) :
    model.totalPrice = CheckoutController.calculateTotalAmount s' ∧
      model.totalPrice = ((CheckoutPage.menuList s').map Row.lineTotal).sum ∧
      ∀ s'' model', (App.machine ℚ).run ⟨s', .checkout model⟩ [.back, .cartIcon] =
        some ⟨s'', .checkout model'⟩ → model'.totalPrice = model.totalPrice ∧
          s''.cartData.dishes = s'.cartData.dishes.filter fun d => s'.dishOrdeCount d ≠ 0 := by
  have htotal : model.totalPrice = CheckoutController.calculateTotalAmount s' :=
    (App.totalInv_opened s).run hrun model rfl
  refine ⟨htotal, htotal.trans (CheckoutPage.sum_lineTotal s').symm, fun s'' model' hreopen => ?_⟩
  obtain ⟨rfl, rfl⟩ := App.reopen hreopen
  refine ⟨?_, CartData.dishes_filter _ _⟩
  rw [htotal]
  exact Memory.calculateTotalAmount_cleaned s'

/-- The store after a fetch of two dishes. -/
def menuOfTwo : Memory ℚ :=
  ({} : Memory ℚ).install [menuOf [dishOf (some "1") 10, dishOf (some "2") 3]]

/-- Two pieces of the first dish and one of the second, tapped on the home page. -/
def orderOfTwo : Memory ℚ :=
  ((App.machine ℚ).run ⟨menuOfTwo, .home⟩
    [.dish true 0 0, .dish true 0 1, .dish true 0 0]).elim menuOfTwo App.memory

/-- The row of the second dish goes to 0, and the page that opens again is without it. -/
theorem CheckoutPage.totalPrice_eq_orderOfTwo : ∃ s' model s'' model',
    (App.machine ℚ).run ⟨orderOfTwo, .checkout (CheckoutPage.initState orderOfTwo)⟩
      [.row false (some "2"), .row true (some "1")] = some ⟨s', .checkout model⟩ ∧
    model.totalPrice = CheckoutController.calculateTotalAmount s' ∧
    (App.machine ℚ).run ⟨s', .checkout model⟩ [.back, .cartIcon] =
      some ⟨s'', .checkout model'⟩ ∧
    model'.totalPrice = model.totalPrice ∧ s'.cartData.dishes.length = 2 ∧
    s''.cartData.dishes = s'.cartData.dishes.filter fun d => s'.dishOrdeCount d ≠ 0 := by
  obtain ⟨s', model, s'', model', hrun, hreopen, hlength⟩ : ∃ s' model s'' model',
      (App.machine ℚ).run ⟨orderOfTwo, .checkout (CheckoutPage.initState orderOfTwo)⟩
        [.row false (some "2"), .row true (some "1")] = some ⟨s', .checkout model⟩ ∧
      (App.machine ℚ).run ⟨s', .checkout model⟩ [.back, .cartIcon] =
        some ⟨s'', .checkout model'⟩ ∧ s'.cartData.dishes.length = 2 := ⟨_, _, _, _, rfl, rfl, rfl⟩
  obtain ⟨htotal, _, hagain⟩ := CheckoutPage.totalPrice_eq hrun
  obtain ⟨hsame, hdishes⟩ := hagain s'' model' hreopen
  exact ⟨s', model, s'', model', hrun, htotal, hreopen, hsame, hlength, hdishes⟩

/-! ## Signs -/

/-- Nothing on either page is negative, and an empty `cartCount` means that nothing is ordered. -/
structure App.NonNegative (app : App ℚ) : Prop where
  counts : ∀ d ∈ app.memory.dishes, 0 ≤ app.memory.dishOrdeCount d
  cartCount : 0 ≤ app.memory.cartCount
  totalPrice : ∀ model, app.page = .checkout model → 0 ≤ model.totalPrice
  guard : app.memory.cartCount = 0 → ∀ d ∈ app.memory.dishes, app.memory.dishOrdeCount d = 0

/-- The tap is not a minus on a row whose count is 0. The home page disables such a minus. -/
def App.MinusOrdered {D : Type} (app : App D) (tap : Tap) : Prop :=
  ∀ d ∈ app.memory.cartData.dishes, tap = .row false d.dishId → app.memory.dishOrdeCount d ≠ 0

/-- What the runs without such a minus keep. -/
structure App.SignInv (menuModel : Option (List (MenuModel (DishRef ℚ)))) (app : App ℚ) :
    Prop where
  inv : app.Inv menuModel
  total : app.TotalInv
  prices : ∀ d ∈ app.memory.dishes, 0 ≤ d.dishPrice
  counts : ∀ d ∈ app.memory.dishes, 0 ≤ app.memory.dishOrdeCount d

namespace App.SignInv

variable {menuModel : Option (List (MenuModel (DishRef ℚ)))} {app app' : App ℚ} {tap : Tap}

theorem nonNegative (h : app.SignInv menuModel) : app.NonNegative where
  counts := h.counts
  cartCount := by
    rw [h.inv.cartInv.cartCount]
    exact Order.items_nonneg h.counts
  totalPrice model hpage := by
    rw [h.total model hpage, h.inv.cartInv.total_eq]
    exact Order.bill_nonneg h.prices h.counts
  guard hzero := by
    rw [h.inv.cartInv.cartCount] at hzero
    exact Order.eq_zero_of_items_eq_zero h.counts hzero

/-- Adding one piece, or taking one away where there is one, leaves no count negative. -/
theorem counts_adds {d : DishRef ℚ} {isAdd : Bool} {s s' : Memory ℚ}
    (h : ∀ e ∈ s.dishes, 0 ≤ s.dishOrdeCount e) (hd : d ∈ s.dishes)
    (hminus : isAdd = false → s.dishOrdeCount d ≠ 0) (hadds : s.Adds d (sign isAdd) s') :
    ∀ e ∈ s'.dishes, 0 ≤ s'.dishOrdeCount e := by
  intro e he
  rw [hadds.dishes] at he
  rw [hadds.dishOrdeCount]
  rcases eq_or_ne e d with rfl | hne
  · rw [Order.apply_add_self]
    have hcount := h e he
    cases isAdd with
    | true => simp only [sign, if_true]; omega
    | false =>
      have hpos := hminus rfl
      simp only [sign, Bool.false_eq_true, if_false]
      omega
  · rw [Order.apply_add_of_ne _ hne]
    exact h e he

theorem step (h : app.SignInv menuModel) (htap : app.MinusOrdered tap)
    (hstep : app.step tap = some app') : app'.SignInv menuModel := by
  have hs := App.step_sound hstep
  refine ⟨h.inv.step hstep, h.total.step hs, hs.dishes ▸ h.prices, ?_⟩
  cases hs with
  | dish hd _ hguard =>
    exact counts_adds h.counts (Singleton.mem_dishes_iff.mpr ⟨_, _, hd⟩) hguard
      (Memory.adds_tapped ..)
  | row hd =>
    refine counts_adds h.counts (h.inv.cartInv.displayed _ hd) (fun hminus => ?_)
      (Memory.adds_rowTapped hd _)
    exact htap _ hd (by rw [hminus])
  | refused | opened | back => exact h.counts
  | ok => exact fun d hd => (h.inv.cartInv.resetCount_eq_zero hd).ge

/-- A minus on a row at 0 makes a count negative. -/
theorem minusOrdered (h : app.SignInv menuModel) (hstep : app.step tap = some app')
    (hcounts : ∀ d ∈ app'.memory.dishes, 0 ≤ app'.memory.dishOrdeCount d) :
    app.MinusOrdered tap := by
  intro d hd htap hzero
  cases App.step_sound hstep with
  | dish | refused | opened | back | ok => cases htap
  | @row s e isAdd model he =>
    injection htap with hminus hid
    obtain rfl : e = d := CartData.eq_of_dishId_eq he hd hid
    have hadds := Memory.adds_rowTapped he isAdd
    have hnonneg : 0 ≤ (s.rowTapped e isAdd).dishOrdeCount e :=
      hcounts e (hadds.dishes ▸ h.inv.cartInv.displayed e he)
    have hcount : s.dishOrdeCount e = 0 := hzero
    rw [hadds.dishOrdeCount, Order.apply_add_self, hcount, hminus] at hnonneg
    exact absurd hnonneg (by decide)

end App.SignInv

/-- No count, cart count or total of a run is negative if and only if no minus is tapped on a
checkout row at 0. -/
theorem App.nonNegative_iff {s : Memory ℚ} (hs : s.Fresh) (hids : s.DistinctIds)
    (hprices : ∀ d ∈ s.dishes, 0 ≤ d.dishPrice) (taps : List Tap) :
    (App.machine ℚ).AlongStates App.NonNegative ⟨s, .home⟩ taps ↔
      (App.machine ℚ).AlongSteps App.MinusOrdered ⟨s, .home⟩ taps := by
  have hstart : App.SignInv s.menuModel ⟨s, .home⟩ :=
    ⟨hs.appInv hids .home, App.totalInv_home s, hprices, fun d hd => (hs.counts d hd).ge⟩
  exact Machine.alongStates_iff (fun _ h => h.nonNegative)
    (fun _ _ _ h htap hstep => h.step htap hstep)
    (fun _ _ _ h hstep hnonneg => h.minusOrdered hstep hnonneg.counts) hstart

theorem menuOfTwo_fresh : menuOfTwo.Fresh := Memory.install_fresh rfl rfl

theorem menuOfTwo_distinctIds : menuOfTwo.DistinctIds :=
  Singleton.distinctIds_of_nodup (by decide)

theorem menuOfTwo_prices : ∀ d ∈ menuOfTwo.dishes, 0 ≤ d.dishPrice := by decide

/-- One minus on the row of one piece, and a second. -/
theorem App.nonNegative_iff_menuOfTwo :
    (App.machine ℚ).AlongStates App.NonNegative ⟨menuOfTwo, .home⟩
      [.dish true 0 0, .cartIcon, .row false (some "1")] ∧
    ¬(App.machine ℚ).AlongStates App.NonNegative ⟨menuOfTwo, .home⟩
      [.dish true 0 0, .cartIcon, .row false (some "1"), .row false (some "1")] := by
  constructor
  · refine (App.nonNegative_iff menuOfTwo_fresh menuOfTwo_distinctIds menuOfTwo_prices _).mpr ?_
    refine .cons rfl (fun _ _ h => by cases h) (.cons rfl (fun _ _ h => by cases h) ?_)
    refine .cons rfl (fun d hd _ => ?_) trivial
    revert d
    decide
  · intro hnonneg
    have hminus := (App.nonNegative_iff menuOfTwo_fresh menuOfTwo_distinctIds menuOfTwo_prices
      _).mp hnonneg
    obtain ⟨_, hminus⟩ := hminus _ rfl
    obtain ⟨_, hminus⟩ := hminus _ rfl
    obtain ⟨_, hminus⟩ := hminus _ rfl
    exact (hminus _ rfl).1 _ List.mem_cons_self rfl rfl

/-- Two pieces of the first dish are ordered, and the row of the second goes from 1 to -2: the cart
counts nothing and does not open. -/
theorem App.row_below_zero : ¬ ∀ (s : Memory ℚ), s.Fresh → s.DistinctIds →
    (∀ d ∈ s.dishes, 0 ≤ d.dishPrice) → ∀ taps app,
      (App.machine ℚ).run ⟨s, .home⟩ taps = some app → app.NonNegative := by
  intro h
  have hnonneg := h menuOfTwo menuOfTwo_fresh menuOfTwo_distinctIds menuOfTwo_prices
    [.dish true 0 0, .dish true 0 0, .dish true 0 1, .cartIcon, .row false (some "2"),
      .row false (some "2"), .row false (some "2"), .back] _ rfl
  have hguard := hnonneg.guard rfl
  exact absurd hguard (by decide)

end MachineTest
