import MachineTest.Pages.App
import MachineTest.Pages.HomePageController

/-!
# The cart of a session is an order

A session keeps what is ordered in three places: the counts of the dish objects, the cart map and
`cartCount`. `Memory.CartInv` says how they hang together when the dishes on display have distinct
ids. Every step keeps it (`CartInv.step`), and under it a step is a change of the order that the
displayed counts make up (`App.Step.refines`), so that a run of the pages is a run of
`Order.machine` (`App.run_refines`).
-/

namespace MachineTest

variable {D : Type}

section
variable [DartDouble D]

/-- No two dishes on display that can be tapped have one id. -/
def Singleton.DistinctIds (s : Singleton D) : Prop :=
  ((s.dishes.filter DishRef.built).map DishRef.dishId).Nodup

instance (s : Singleton D) : Decidable s.DistinctIds := inferInstanceAs (Decidable (List.Nodup _))

theorem Singleton.distinctIds_of_nodup {s : Singleton D}
    (h : (s.dishes.map DishRef.dishId).Nodup) : s.DistinctIds :=
  (List.filter_sublist.map DishRef.dishId).nodup h

theorem Singleton.DistinctIds.eq {s : Singleton D} (h : s.DistinctIds) {d e : DishRef D}
    (hd : d ∈ s.dishes) (he : e ∈ s.dishes) (hbuilt : d.built = true) (hbuilt' : e.built = true)
    (hid : d.dishId = e.dishId) : d = e :=
  List.inj_on_of_nodup_map h (List.mem_filter.mpr ⟨hd, hbuilt⟩) (List.mem_filter.mpr ⟨he, hbuilt'⟩)
    hid

end

/-- The state after the first successful fetch: nothing is ordered, and the places of the menu
hold different dish objects. -/
structure Memory.Fresh (s : Memory D) : Prop where
  cartData : s.cartData = ∅
  cartCount : s.cartCount = 0
  counts : ∀ d ∈ s.dishes, s.dishOrdeCount d = 0
  nodup : s.dishes.Nodup

/-- The cart holds dishes on display, each that is ordered, and `cartCount` counts them all. -/
structure Memory.CartInv [DartDouble D] (s : Memory D) : Prop where
  nodup : s.dishes.Nodup
  displayed : ∀ d ∈ s.cartData.dishes, d ∈ s.dishes
  built : ∀ d ∈ s.cartData.dishes, d.built = true
  held : ∀ d ∈ s.dishes, s.dishOrdeCount d ≠ 0 → d ∈ s.cartData.dishes
  cartCount : s.cartCount = Order.items s.dishes s.dishOrdeCount

/-- What the counts on display make up. -/
def Memory.order [DecidableEq D] (s : Memory D) : Order (DishRef D) := fun d =>
  if d ∈ s.dishes then s.dishOrdeCount d else 0

theorem Memory.order_of_mem [DecidableEq D] {s : Memory D} {d : DishRef D} (hd : d ∈ s.dishes) :
    s.order d = s.dishOrdeCount d := if_pos hd

theorem Singleton.dishes_congr {s s' : Singleton D} (h : s'.menuModel = s.menuModel) :
    s'.dishes = s.dishes := by
  unfold Singleton.dishes Singleton.categories
  rw [h]

/-- The store after a fetch that found the cart empty is fresh. -/
theorem Memory.install_fresh [Zero D] {menus : List (MenuModel (CategoryDish D))} {s : Memory D}
    (hcart : s.cartData = ∅) (hcount : s.cartCount = 0) : (s.install menus).Fresh where
  cartData := hcart
  cartCount := hcount
  counts _ hd := Memory.install_count_eq_zero hd
  nodup := Memory.nodup_dishes_install menus s

theorem Memory.Fresh.cartInv [DartDouble D] {s : Memory D} (h : s.Fresh) : s.CartInv where
  nodup := h.nodup
  displayed := by simp [h.cartData]
  built := by simp [h.cartData]
  held d hd hne := (hne (h.counts d hd)).elim
  cartCount := by
    rw [h.cartCount, Order.items, List.map_congr_left h.counts]
    simp

section
variable [DartDouble D]

theorem Memory.CartInv.cleaned {s : Memory D} (h : s.CartInv) : s.cleaned.CartInv where
  nodup := h.nodup
  displayed d hd := by
    rw [Memory.cleaned, CartData.dishes_filter] at hd
    exact h.displayed d (List.mem_of_mem_filter hd)
  built d hd := by
    rw [Memory.cleaned, CartData.dishes_filter] at hd
    exact h.built d (List.mem_of_mem_filter hd)
  held d hd hne := by
    rw [Memory.cleaned, CartData.dishes_filter]
    exact List.mem_filter.mpr ⟨h.held d hd hne, decide_eq_true hne⟩
  cartCount := h.cartCount

theorem Memory.CartInv.mem_cleaned {s : Memory D} (h : s.CartInv) {d : DishRef D} :
    d ∈ s.cleaned.cartData.dishes ↔ d ∈ s.dishes ∧ s.dishOrdeCount d ≠ 0 := by
  rw [Memory.cleaned, CartData.dishes_filter, List.mem_filter, decide_eq_true_iff]
  constructor
  · intro hcart
    exact ⟨h.displayed d hcart.1, hcart.2⟩
  · intro hmenu
    exact ⟨h.held d hmenu.1 hmenu.2, hmenu.2⟩

/-- The states of a session whose menu is `menuModel`. -/
structure App.Inv (menuModel : Option (List (MenuModel (DishRef D)))) (app : App D) : Prop where
  menuModel : app.memory.menuModel = menuModel
  distinctIds : app.memory.DistinctIds
  cartInv : app.memory.CartInv

theorem Memory.Fresh.appInv {s : Memory D} (h : s.Fresh) (hids : s.DistinctIds) (page : Page D) :
    (⟨s, page⟩ : App D).Inv s.menuModel := ⟨rfl, hids, h.cartInv⟩

end

section
variable [DecidableEq D]

theorem Memory.Adds.dishes {d : DishRef D} {n : ℤ} {s s' : Memory D} (h : s.Adds d n s') :
    s'.dishes = s.dishes := Singleton.dishes_congr h.menuModel

theorem Memory.Adds.order {d : DishRef D} {n : ℤ} {s s' : Memory D} (h : s.Adds d n s')
    (hd : d ∈ s.dishes) : s'.order = s.order.apply (.add d n) := by
  funext e
  rw [Memory.order, h.dishes, h.dishOrdeCount]
  by_cases hed : e = d
  · subst hed
    simp [hd, Memory.order]
  · simp [Order.apply_add_of_ne _ hed, Memory.order]

/-! ## Steps keep the invariant -/

variable [DartDouble D]

namespace Memory

theorem CartInv.adds {d : DishRef D} {n : ℤ} {s s' : Memory D} (h : s.CartInv)
    (hids : s.DistinctIds) (hd : d ∈ s.dishes) (hbuilt : d.built = true)
    (hadds : s.Adds d n s') : s'.CartInv where
  nodup := hadds.dishes ▸ h.nodup
  displayed e he := by
    rw [hadds.dishes]
    rcases eq_or_ne e.dishId d.dishId with hid | hid
    · exact hadds.own e he hid ▸ hd
    · exact h.displayed e ((hadds.others e hid).mp he)
  built e he := by
    rcases eq_or_ne e.dishId d.dishId with hid | hid
    · exact hadds.own e he hid ▸ hbuilt
    · exact h.built e ((hadds.others e hid).mp he)
  held e he hne := by
    rw [hadds.dishes] at he
    rcases eq_or_ne e d with rfl | hed
    · exact hadds.held hne
    · rw [hadds.dishOrdeCount, Order.apply_add_of_ne _ hed] at hne
      have hheld := h.held e he hne
      have hid : e.dishId ≠ d.dishId := fun hid =>
        hed (hids.eq he hd (h.built e hheld) hbuilt hid)
      exact (hadds.others e hid).mpr hheld
  cartCount := by
    rw [hadds.cartCount, hadds.dishes, hadds.dishOrdeCount, Order.items_add h.nodup hd,
      h.cartCount]

/-- After `resetCount` every dish on display has count 0: the others had it before. -/
theorem CartInv.resetCount_eq_zero {s : Memory D} (h : s.CartInv) {d : DishRef D}
    (hd : d ∈ s.dishes) : (CheckoutController.resetCount s).dishOrdeCount d = 0 := by
  rw [resetCount_dishOrdeCount]
  split
  · rfl
  · rename_i hnot
    exact not_not.mp fun hne => hnot (h.held d hd hne)

theorem CartInv.resetCount {s : Memory D} (h : s.CartInv) :
    (CheckoutController.resetCount s).CartInv where
  nodup := h.nodup
  displayed := by simp
  built := by simp
  held d hd hne := (hne (h.resetCount_eq_zero hd)).elim
  cartCount := by
    have hzero : ∀ d ∈ s.dishes, (CheckoutController.resetCount s).dishOrdeCount d = 0 :=
      fun d hd => h.resetCount_eq_zero hd
    have hdishes : (CheckoutController.resetCount s).dishes = s.dishes :=
      Singleton.dishes_congr rfl
    rw [resetCount_cartCount, Order.items, hdishes, List.map_congr_left hzero]
    simp

/-- `cartCount` is also the sum over the dishes held in the cart. -/
theorem CartInv.cartCount_eq_held {s : Memory D} (h : s.CartInv) :
    s.cartCount = Order.items s.cartData.dishes s.dishOrdeCount := by
  rw [Order.items_of_subset s.cartData.dishes_nodup h.nodup h.displayed h.held]
  exact h.cartCount

/-- In exact arithmetic the amount due for the cart is the amount due for the menu. -/
theorem CartInv.total_eq {R : Type} [CommRing R] [DecidableEq R] [DartDouble R] {s : Memory R}
    (h : s.CartInv) : CheckoutController.calculateTotalAmount s =
      Order.bill s.dishes DishRef.dishPrice s.dishOrdeCount := by
  rw [calculateTotalAmount_eq]
  exact Order.bill_of_subset _ s.cartData.dishes_nodup h.nodup h.displayed h.held

end Memory

variable [Zero D] [Add D] [Sub D] [Mul D] [IntCast D]

/-- No tap changes the menu. -/
theorem App.Step.menuModel {app app' : App D} {tap : Tap} (h : app.Step tap app') :
    app'.memory.menuModel = app.memory.menuModel := by
  cases h <;> rfl

theorem App.Step.dishes {app app' : App D} {tap : Tap} (h : app.Step tap app') :
    app'.memory.dishes = app.memory.dishes := Singleton.dishes_congr h.menuModel

theorem Memory.CartInv.step {app app' : App D} {tap : Tap} (h : app.memory.CartInv)
    (hids : app.memory.DistinctIds) (hstep : app.Step tap app') : app'.memory.CartInv := by
  cases hstep with
  | dish hd hbuilt _ =>
    exact h.adds hids (Singleton.mem_dishes_iff.mpr ⟨_, _, hd⟩) hbuilt (Memory.adds_tapped ..)
  | refused => exact h
  | opened => exact h.cleaned
  | row hd => exact h.adds hids (h.displayed _ hd) (h.built _ hd) (Memory.adds_rowTapped hd _)
  | back => exact h
  | ok => exact h.resetCount

theorem App.Inv.step {menuModel : Option (List (MenuModel (DishRef D)))} {app app' : App D}
    {tap : Tap} (h : app.Inv menuModel) (hstep : app.step tap = some app') :
    app'.Inv menuModel where
  menuModel := (App.step_sound hstep).menuModel.trans h.menuModel
  distinctIds := by
    rw [Singleton.DistinctIds, (App.step_sound hstep).dishes]
    exact h.distinctIds
  cartInv := h.cartInv.step h.distinctIds (App.step_sound hstep)

theorem App.Inv.run {menuModel : Option (List (MenuModel (DishRef D)))} {app app' : App D}
    {taps : List Tap} (h : app.Inv menuModel) (hrun : (App.machine D).run app taps = some app') :
    app'.Inv menuModel :=
  Machine.run_invariant (I := App.Inv menuModel) (fun _ _ _ hI hstep => hI.step hstep) h hrun

end

/-! ## Refinement -/

section
variable [DartDouble D]

/-- The change of the order that a tap means, read off the menu on display. -/
def Singleton.change (s : Singleton D) : Tap → Order.Change (DishRef D)
  | .dish isAdd i j => (s.dishAt i j).elim .look fun d => .add d (sign isAdd)
  | .row isAdd key =>
    (s.dishes.find? fun d => d.built && d.dishId = key).elim .look fun d => .add d (sign isAdd)
  | .cartIcon => .look
  | .back => .look
  | .ok => .place

theorem Singleton.change_congr {s s' : Singleton D} (h : s'.menuModel = s.menuModel) :
    s'.change = s.change := by
  funext tap
  have hcategories : s'.categories = s.categories := by rw [categories, categories, h]
  cases tap <;> simp [change, dishAt, hcategories, Singleton.dishes_congr h]

theorem Singleton.change_ne_place {s : Singleton D} {tap : Tap} (h : tap ≠ .ok) :
    s.change tap ≠ .place := by
  cases tap with
  | dish isAdd i j => cases hd : s.dishAt i j <;> simp [change, hd]
  | row isAdd key =>
    cases hd : s.dishes.find? fun d => d.built && d.dishId = key <;> simp [change, hd]
  | cartIcon | back => simp [change]
  | ok => exact (h rfl).elim

/-- A row stands for the dish on display that can be tapped and has its id. -/
theorem Memory.CartInv.find_dish {s : Memory D} (h : s.CartInv) (hids : s.DistinctIds)
    {d : DishRef D} (hd : d ∈ s.cartData.dishes) :
    (s.dishes.find? fun e => e.built && e.dishId = d.dishId) = some d := by
  have hmem := h.displayed d hd
  have hbuilt := h.built d hd
  cases hfind : s.dishes.find? fun e => e.built && e.dishId = d.dishId with
  | none => simpa [hbuilt] using List.find?_eq_none.mp hfind d hmem
  | some e =>
    obtain ⟨hbuilt', hid⟩ : e.built = true ∧ e.dishId = d.dishId := by
      simpa using List.find?_some hfind
    rw [hids.eq (List.mem_of_find?_eq_some hfind) hmem hbuilt' hbuilt hid]

end

section
variable [DecidableEq D] [DartDouble D] [Zero D] [Add D] [Sub D] [Mul D] [IntCast D]

/-- **Refinement.** Under the invariant a step of the pages is a change of the order. -/
theorem App.Step.refines {app app' : App D} {tap : Tap} (hstep : app.Step tap app')
    (h : app.memory.CartInv) (hids : app.memory.DistinctIds) :
    app'.memory.order = app.memory.order.apply (app.memory.change tap) := by
  cases hstep with
  | dish hd _ _ =>
    rw [Singleton.change, hd]
    exact (Memory.adds_tapped ..).order (Singleton.mem_dishes_iff.mpr ⟨_, _, hd⟩)
  | row hd =>
    rw [Singleton.change, h.find_dish hids hd]
    exact (Memory.adds_rowTapped hd _).order (h.displayed _ hd)
  | refused | opened | back => rfl
  | ok =>
    funext d
    change (if d ∈ _ then _ else _) = (0 : ℤ)
    split
    · rename_i hd
      exact h.resetCount_eq_zero hd
    · rfl

theorem App.run_refines {taps : List Tap} {app app' : App D}
    {menuModel : Option (List (MenuModel (DishRef D)))} (h : app.Inv menuModel)
    (hrun : (App.machine D).run app taps = some app') :
    (Order.machine (DishRef D)).run app.memory.order (taps.map app.memory.change) =
      some app'.memory.order := by
  induction taps generalizing app with
  | nil => cases hrun; rfl
  | cons tap taps ih =>
    obtain ⟨t, ht, hrun⟩ := Machine.run_cons.mp hrun
    have hstep := App.step_sound ht
    have horder := hstep.refines h.cartInv h.distinctIds
    have hrest := ih (h.step ht) hrun
    rw [Singleton.change_congr hstep.menuModel, horder] at hrest
    exact Machine.run_cons.mpr ⟨_, rfl, hrest⟩

end
end MachineTest
