import MachineTest.Pages.CheckoutPage

/-! # One session on the home and checkout pages

What a user can do between the end of a fetch and the next logout: tap plus or minus of a dish, tap
the cart icon, tap plus or minus of a row of the open checkout page, go back from it, and place the
order (`ok`, the button of the dialog that "Place Order" opens; it resets the counts and pops the
dialog and the page). -/

namespace MachineTest

/-- The page on top of the navigation stack. -/
inductive Page (D : Type) where
  | home
  | checkout (model : CheckoutModel D)
deriving DecidableEq

structure App (D : Type) where
  memory : Memory D
  page : Page D

inductive Tap where
  | dish (isAdd : Bool) (mainIndex index : ℕ)
  | cartIcon
  | row (isAdd : Bool) (key : Option String)
  | back
  | ok
deriving DecidableEq

namespace App

variable {D : Type} [DecidableEq D] [DartDouble D] [Zero D] [Add D] [Sub D] [Mul D] [IntCast D]

/-- One tap. The cart icon leaves the home page in place when `badgeOntap` refuses. -/
def step : App D → Tap → Option (App D)
  | ⟨s, .home⟩, .dish isAdd mainIndex index =>
    (HomePage.tapDish isAdd mainIndex index s).map fun s' => ⟨s', .home⟩
  | ⟨s, .home⟩, .cartIcon =>
    match HomePage.badgeOntap s with
    | some s' => some ⟨s', .checkout (CheckoutPage.initState s')⟩
    | none => some ⟨s, .home⟩
  | ⟨s, .checkout model⟩, .row isAdd key =>
    (CheckoutPage.addAndMinus isAdd key s model).map fun r => ⟨r.1, .checkout r.2⟩
  | ⟨s, .checkout _⟩, .back => some ⟨s, .home⟩
  | ⟨s, .checkout _⟩, .ok => some ⟨CheckoutController.resetCount s, .home⟩
  | _, _ => none

def machine (D : Type) [DecidableEq D] [DartDouble D] [Zero D] [Add D] [Sub D] [Mul D]
    [IntCast D] : Machine (App D) Tap where
  step := step

end App

/-! ## What a tap does -/

section
variable {D : Type} [DecidableEq D]

/-- `s'` is `s` after `n` pieces of the dish object `d` were added. Under the id of `d` the cart
holds `d` or nothing, and it holds `d` unless none is ordered. -/
structure Memory.Adds (d : DishRef D) (n : ℤ) (s s' : Memory D) : Prop where
  dishOrdeCount : s'.dishOrdeCount = s.dishOrdeCount.apply (.add d n)
  cartCount : s'.cartCount = s.cartCount + n
  menuModel : s'.menuModel = s.menuModel
  fetches : s'.fetches = s.fetches
  others : ∀ e, e.dishId ≠ d.dishId → (e ∈ s'.cartData.dishes ↔ e ∈ s.cartData.dishes)
  own : ∀ e ∈ s'.cartData.dishes, e.dishId = d.dishId → e = d
  held : s'.dishOrdeCount d ≠ 0 → d ∈ s'.cartData.dishes

/-- The dish at a place of the displayed menu. -/
def Singleton.dishAt (s : Singleton D) (mainIndex index : ℕ) : Option (DishRef D) := do
  let tempMenutype ← s.categories[mainIndex]?
  tempMenutype.categoryDishes[index]?

omit [DecidableEq D] in
theorem Singleton.mem_dishes_iff {s : Singleton D} {d : DishRef D} :
    d ∈ s.dishes ↔ ∃ i j, s.dishAt i j = some d := by
  rw [Singleton.dishes, List.mem_flatMap]
  constructor
  · rintro ⟨category, hcategory, hd⟩
    obtain ⟨i, hi⟩ := List.mem_iff_getElem?.mp hcategory
    obtain ⟨j, hj⟩ := List.mem_iff_getElem?.mp hd
    exact ⟨i, j, by simp [Singleton.dishAt, hi, hj]⟩
  · rintro ⟨i, j, h⟩
    obtain ⟨category, hi, hj⟩ := Option.bind_eq_some_iff.mp h
    exact ⟨category, List.mem_of_getElem? hi, List.mem_of_getElem? hj⟩

/-- The memory after an enabled tap on the card of `d`. -/
def Memory.tapped (s : Memory D) (d : DishRef D) (isAdd : Bool) : Memory D :=
  { s.count d (sign isAdd) with
    cartCount := s.cartCount + sign isAdd
    cartData := if isAdd = false ∧ s.dishOrdeCount d + sign isAdd = 0 then
        s.cartData.remove d.dishId
      else s.cartData.insert d }

/-- A tap on the home page is enabled on a card that is built, but not minus at count 0. -/
theorem HomePage.tapDish_eq_some [DartDouble D] {isAdd : Bool} {i j : ℕ} {s s' : Memory D} :
    HomePage.tapDish isAdd i j s = some s' ↔ ∃ d, s.dishAt i j = some d ∧ d.built = true ∧
      (isAdd = false → s.dishOrdeCount d ≠ 0) ∧ s' = s.tapped d isAdd := by
  cases hi : s.categories[i]? with
  | none => simp [HomePage.tapDish, Singleton.dishAt, hi]
  | some category =>
    cases hj : category.categoryDishes[j]? with
    | none => simp [HomePage.tapDish, Singleton.dishAt, hi, hj]
    | some d =>
      have hat : s.dishAt i j = some d := by simp [Singleton.dishAt, hi, hj]
      cases hcard : HomePage.viewCardType s d with
      | none =>
        have hbuilt : d.built = false := by rw [← HomePage.isSome_viewCardType s, hcard]; rfl
        simp [HomePage.tapDish, hi, hj, hcard, hat, hbuilt]
      | some card =>
        have hbuilt : d.built = true := by rw [← HomePage.isSome_viewCardType s, hcard]; rfl
        simp only [HomePage.tapDish, hi, hj, hcard, hat, hbuilt, HomePage.addAndMinus,
          Option.bind_eq_bind, Option.bind_some, Option.some.injEq, true_and, exists_eq_left']
        have hcount : (s.count d (sign isAdd)).dishOrdeCount d = s.dishOrdeCount d + sign isAdd :=
          Order.apply_add_self _ _ _
        by_cases hguard : s.dishOrdeCount d = 0 ∧ isAdd = false
        · simp [hguard.1, hguard.2]
        · have hguard' : isAdd = false → s.dishOrdeCount d ≠ 0 := fun hminus hzero =>
            hguard ⟨hzero, hminus⟩
          rw [if_neg hguard, hcount, and_iff_right hguard', Memory.tapped]
          cases isAdd with
          | true => exact Option.some_inj.trans eq_comm
          | false =>
            rw [if_neg Bool.false_ne_true]
            by_cases hzero : s.dishOrdeCount d + sign false = 0
            · rw [if_pos hzero, if_pos ⟨rfl, hzero⟩]
              exact Option.some_inj.trans eq_comm
            · rw [if_neg hzero, if_neg fun h => hzero h.2]
              exact Option.some_inj.trans eq_comm

theorem HomePage.isSome_tapDish [DartDouble D] (s : Memory D) (isAdd : Bool) (i j : ℕ) :
    (HomePage.tapDish isAdd i j s).isSome = (s.dishAt i j).any fun d =>
      d.built && decide (isAdd = false → s.dishOrdeCount d ≠ 0) := by
  rw [Bool.eq_iff_iff, Option.isSome_iff_exists, Option.any_eq_true]
  constructor
  · rintro ⟨s', hs'⟩
    obtain ⟨d, hd, hbuilt, hguard, _⟩ := HomePage.tapDish_eq_some.mp hs'
    exact ⟨d, hd, by rw [hbuilt, decide_eq_true hguard]; rfl⟩
  · rintro ⟨d, hd, h⟩
    obtain ⟨hbuilt, hguard⟩ := Bool.and_eq_true_iff.mp h
    exact ⟨_, HomePage.tapDish_eq_some.mpr ⟨d, hd, hbuilt, of_decide_eq_true hguard, rfl⟩⟩

theorem Memory.adds_tapped (s : Memory D) (d : DishRef D) (isAdd : Bool) :
    s.Adds d (sign isAdd) (s.tapped d isAdd) where
  dishOrdeCount := rfl
  cartCount := rfl
  menuModel := rfl
  fetches := rfl
  others e hne := by
    rw [Memory.tapped]
    dsimp only
    split
    · rw [CartData.mem_dishes_remove]
      exact ⟨And.left, fun h => ⟨h, hne⟩⟩
    · rw [CartData.mem_dishes_insert]
      exact ⟨fun h => h.elim (fun he => (hne (he ▸ rfl)).elim) And.left, fun h => .inr ⟨h, hne⟩⟩
  own e he hid := by
    rw [Memory.tapped] at he
    dsimp only at he
    split at he
    · exact ((CartData.mem_dishes_remove.mp he).2 hid).elim
    · exact (CartData.mem_dishes_insert.mp he).elim id fun h => (h.2 hid).elim
  held hne := by
    rw [Memory.tapped] at hne ⊢
    dsimp only at hne ⊢
    split
    · rename_i hzero
      exact (hne ((Order.apply_add_self _ d _).trans hzero.2)).elim
    · exact CartData.mem_dishes_insert.mpr (.inl rfl)

/-- A tap on the card of `d` moves a dish of the cart only if it is `d`. -/
theorem Memory.tapped_cases {s : Memory D} {d e : DishRef D} {isAdd : Bool}
    (he : e ∈ (s.tapped d isAdd).cartData.dishes) :
    (e.dishId = d.dishId ∧ e = d) ∨ (e.dishId ≠ d.dishId ∧ e ∈ s.cartData.dishes ∧
      (s.tapped d isAdd).dishOrdeCount e = s.dishOrdeCount e) := by
  have hadds := s.adds_tapped d isAdd
  rcases eq_or_ne e.dishId d.dishId with hid | hid
  · exact .inl ⟨hid, hadds.own e he hid⟩
  · have hne : e ≠ d := fun hed => hid (congrArg DishRef.dishId hed)
    exact .inr ⟨hid, (hadds.others e hid).mp he, Order.apply_add_of_ne _ hne _⟩

/-- The memory after a tap on the row of `d`. -/
def Memory.rowTapped (s : Memory D) (d : DishRef D) (isAdd : Bool) : Memory D :=
  { s.count d (sign isAdd) with cartCount := s.cartCount + sign isAdd }

/-- The model of the checkout page after a tap on the row of `d`. -/
def CheckoutModel.tapped [Add D] [Sub D] (model : CheckoutModel D) (d : DishRef D) (isAdd : Bool) :
    CheckoutModel D where
  totalPrice := if isAdd then model.totalPrice + d.dishPrice else model.totalPrice - d.dishPrice

theorem CheckoutPage.addAndMinus_eq_some [Add D] [Sub D] {isAdd : Bool} {key : Option String}
    {s s' : Memory D} {model model' : CheckoutModel D} :
    CheckoutPage.addAndMinus isAdd key s model = some (s', model') ↔
      ∃ d ∈ s.cartData.dishes, d.dishId = key ∧ s' = s.rowTapped d isAdd ∧
        model' = model.tapped d isAdd := by
  rw [CheckoutPage.addAndMinus, Option.bind_eq_bind, Option.bind_eq_some_iff]
  refine exists_congr fun d => ?_
  rw [CartData.get?_eq_some_iff, and_assoc]
  refine and_congr_right fun _ => and_congr_right fun _ => ?_
  simp only [Option.some.injEq, Prod.mk.injEq]
  exact and_congr eq_comm eq_comm

theorem CheckoutPage.isSome_addAndMinus [Add D] [Sub D] (s : Memory D) (model : CheckoutModel D)
    (isAdd : Bool) (key : Option String) : (CheckoutPage.addAndMinus isAdd key s model).isSome =
      decide (key ∈ s.cartData.map.keys) := by
  rw [Bool.eq_iff_iff, Option.isSome_iff_exists, decide_eq_true_iff]
  constructor
  · rintro ⟨⟨s', model'⟩, hs'⟩
    obtain ⟨d, hd, rfl, _⟩ := CheckoutPage.addAndMinus_eq_some.mp hs'
    exact LinkedMap.mem_keys_of_mem (CartData.mem_dishes_iff.mp hd)
  · intro hkey
    obtain ⟨⟨_, d⟩, hd, rfl⟩ := List.mem_map.mp hkey
    obtain ⟨hmem, hid⟩ := CartData.get?_eq_some_iff.mp (LinkedMap.get?_eq_some_iff.mpr hd)
    exact ⟨_, CheckoutPage.addAndMinus_eq_some.mpr ⟨d, hmem, hid, rfl, rfl⟩⟩

/-- A tap on a row moves the count at any value of it, and keeps the entries of the cart. -/
theorem Memory.adds_rowTapped {s : Memory D} {d : DishRef D} (hd : d ∈ s.cartData.dishes)
    (isAdd : Bool) : s.Adds d (sign isAdd) (s.rowTapped d isAdd) where
  dishOrdeCount := rfl
  cartCount := rfl
  menuModel := rfl
  fetches := rfl
  others _ _ := Iff.rfl
  own _ he hid := CartData.eq_of_dishId_eq he hd hid
  held _ := hd

/-- The cart after the cleaning pass of `badgeOntap`. -/
def Memory.cleaned (s : Memory D) : Memory D :=
  { s with cartData := s.cartData.filter fun dish => s.dishOrdeCount dish ≠ 0 }

variable [DartDouble D] [Zero D] [Add D] [Sub D] [Mul D] [IntCast D]

/-- The steps of a session, by what they do. -/
inductive App.Step : App D → Tap → App D → Prop
  | dish {s : Memory D} {d : DishRef D} {isAdd : Bool} {i j : ℕ} : s.dishAt i j = some d →
    d.built = true → (isAdd = false → s.dishOrdeCount d ≠ 0) →
    App.Step ⟨s, .home⟩ (.dish isAdd i j) ⟨s.tapped d isAdd, .home⟩
  | refused {s : Memory D} : s.cartCount = 0 → App.Step ⟨s, .home⟩ .cartIcon ⟨s, .home⟩
  | opened {s : Memory D} : s.cartCount ≠ 0 →
    App.Step ⟨s, .home⟩ .cartIcon ⟨s.cleaned, .checkout (CheckoutPage.initState s.cleaned)⟩
  | row {s : Memory D} {d : DishRef D} {isAdd : Bool} {model : CheckoutModel D} :
    d ∈ s.cartData.dishes → App.Step ⟨s, .checkout model⟩ (.row isAdd d.dishId)
      ⟨s.rowTapped d isAdd, .checkout (model.tapped d isAdd)⟩
  | back {s : Memory D} {model : CheckoutModel D} : App.Step ⟨s, .checkout model⟩ .back ⟨s, .home⟩
  | ok {s : Memory D} {model : CheckoutModel D} :
    App.Step ⟨s, .checkout model⟩ .ok ⟨CheckoutController.resetCount s, .home⟩

theorem App.step_sound {app app' : App D} {tap : Tap} (h : app.step tap = some app') :
    app.Step tap app' := by
  obtain ⟨s, page⟩ := app
  cases page with
  | home =>
    cases tap with
    | dish isAdd i j =>
      obtain ⟨s', hs', rfl⟩ := Option.map_eq_some_iff.mp h
      obtain ⟨d, hd, hbuilt, hguard, rfl⟩ := HomePage.tapDish_eq_some.mp hs'
      exact .dish hd hbuilt hguard
    | cartIcon =>
      rw [App.step] at h
      cases hb : HomePage.badgeOntap s with
      | some s' =>
        obtain ⟨hne, rfl⟩ := HomePage.badgeOntap_eq_some.mp hb
        rw [hb] at h
        cases h
        exact .opened hne
      | none =>
        rw [hb] at h
        cases h
        refine .refused (not_not.mp fun hne => ?_)
        rw [HomePage.badgeOntap_eq_some.mpr ⟨hne, rfl⟩] at hb
        cases hb
    | row isAdd key => cases h
    | back => cases h
    | ok => cases h
  | checkout model =>
    cases tap with
    | dish isAdd i j => cases h
    | cartIcon => cases h
    | row isAdd key =>
      obtain ⟨⟨s', model'⟩, hs', rfl⟩ := Option.map_eq_some_iff.mp h
      obtain ⟨d, hd, rfl, rfl, rfl⟩ := CheckoutPage.addAndMinus_eq_some.mp hs'
      exact .row hd
    | back => cases h; exact .back
    | ok => cases h; exact .ok

theorem App.step_complete {app app' : App D} {tap : Tap} (h : app.Step tap app') :
    app.step tap = some app' := by
  cases h with
  | dish hd hbuilt hguard =>
    rw [App.step, HomePage.tapDish_eq_some.mpr ⟨_, hd, hbuilt, hguard, rfl⟩]
    rfl
  | @refused s hzero =>
    cases hb : HomePage.badgeOntap s with
    | none => rw [App.step, hb]
    | some s' => exact ((HomePage.badgeOntap_eq_some.mp hb).1 hzero).elim
  | @opened s hne =>
    have hbadge : HomePage.badgeOntap s = some s.cleaned :=
      HomePage.badgeOntap_eq_some.mpr ⟨hne, rfl⟩
    rw [App.step, hbadge]
  | row hd =>
    rw [App.step, CheckoutPage.addAndMinus_eq_some.mpr ⟨_, hd, rfl, rfl, rfl⟩]
    rfl
  | back => rfl
  | ok => rfl

/-- Plus is always enabled. -/
theorem App.run_plus {s : Memory D} {d : DishRef D} {i j : ℕ} (hd : s.dishAt i j = some d)
    (hbuilt : d.built = true) {taps : List Tap} :
    (App.machine D).run ⟨s, .home⟩ (.dish true i j :: taps) =
      (App.machine D).run ⟨s.tapped d true, .home⟩ taps := by
  have htap : HomePage.tapDish true i j s = some (s.tapped d true) :=
    HomePage.tapDish_eq_some.mpr ⟨d, hd, hbuilt, fun h => (nomatch h), rfl⟩
  have hstep : App.step (⟨s, .home⟩ : App D) (.dish true i j) =
      some ⟨s.tapped d true, .home⟩ := by
    rw [App.step, htap]
    rfl
  exact congrArg (Option.bind · ((App.machine D).run · taps)) hstep

theorem App.run_cartIcon {s : Memory D} (h : s.cartCount ≠ 0) :
    (App.machine D).run ⟨s, .home⟩ [.cartIcon] =
      some ⟨s.cleaned, .checkout (CheckoutPage.initState s.cleaned)⟩ := by
  have hstep : App.step ⟨s, .home⟩ .cartIcon =
      some ⟨s.cleaned, .checkout (CheckoutPage.initState s.cleaned)⟩ :=
    App.step_complete (.opened h)
  exact Machine.run_cons.mpr ⟨_, hstep, rfl⟩

end
end MachineTest
