import MachineTest.Verify.Cart
import MachineTest.Verify.MenuRoundTrip

/-! # Two sessions in one process

After a logout and a login a new home page fetches the menu, with a new `cartCount` but with the
cart map as the last session left it. What is left is its `residue`: the keys and, where the count
is not 0, the row. Two sessions that start from the same residue show the same
(`App.Twin`, kept in lock step); two that do not can be told apart by ordering dishes with the ids
of the residue. -/

namespace MachineTest

section
variable {D : Type} [DartDouble D]

/-- What is on the screen: the cards of the home page and the badge, and the rows, the heading and
the total of the checkout page if it is open. -/
structure Screen (D : Type) where
  cards : List (List (Option (Card D)))
  cartCount : ℤ
  checkout : Option (List (Row D) × (ℕ × ℤ) × D)

def App.screen [Mul D] [IntCast D] (app : App D) : Screen D where
  cards := HomePage.tabbarView app.memory
  cartCount := app.memory.cartCount
  checkout := match app.page with
    | .home => none
    | .checkout model => some (CheckoutPage.menuList app.memory,
        CheckoutPage.topHeading app.memory, model.totalPrice)

/-- The next user's home page at the end of its fetch. The token calls of the logout and of the
login leave `session`, and touch nothing else. -/
def App.nextSession [Zero D] [IntCast D] (session : Session) (response : Response D)
    (s : Memory D) : App D :=
  ⟨HomePageController.fetchAPIDataResume response
    (HomePageController.fetchAPIData { s with toSession := session }), .home⟩

/-- What a session leaves in the cart. A dish of count 0 leaves its key: it has no row, but a dish
written under the key takes its place. -/
def Memory.residue [Mul D] [IntCast D] (s : Memory D) :
    LinkedMap (Option String) (Option (Row D)) :=
  s.cartData.map.mapValues fun d =>
    if s.dishOrdeCount d = 0 then none else some (CheckoutPage.cardContent s d)

end

/-! ## Twins -/

section
variable {D : Type}

/-- Two stores with one menu, whose carts have the same keys. Under a key both hold the same dish on
display, or each a dish that is not on display, with the same count. -/
structure Memory.Twin (s t : Memory D) : Prop where
  menuModel : s.menuModel = t.menuModel
  cartCount : s.cartCount = t.cartCount
  keys : s.cartData.map.keys = t.cartData.map.keys
  counts : ∀ d ∈ s.dishes, s.dishOrdeCount d = t.dishOrdeCount d
  held : ∀ d ∈ s.cartData.dishes, ∀ e ∈ t.cartData.dishes, d.dishId = e.dishId →
    s.dishOrdeCount d = t.dishOrdeCount e ∧ (d = e ∨ (d ∉ s.dishes ∧ e ∉ s.dishes))

namespace Memory.Twin

variable {s t : Memory D}

theorem dishAt (h : s.Twin t) (i j : ℕ) : t.dishAt i j = s.dishAt i j := by
  rw [Singleton.dishAt, Singleton.dishAt, Singleton.categories, Singleton.categories, h.menuModel]

/-- Both carts answer for a key of theirs. -/
theorem get? (h : s.Twin t) {key : Option String} (hkey : key ∈ s.cartData.map.keys) :
    ∃ d ∈ s.cartData.dishes, ∃ e ∈ t.cartData.dishes, d.dishId = e.dishId ∧
      s.cartData.map.get? key = some d ∧ t.cartData.map.get? key = some e := by
  have hkey' : key ∈ t.cartData.map.keys := h.keys ▸ hkey
  obtain ⟨⟨_, d⟩, hd, rfl⟩ := List.mem_map.mp hkey
  obtain ⟨⟨_, e⟩, he, heq⟩ := List.mem_map.mp hkey'
  obtain ⟨hdmem, hdkey⟩ := CartData.get?_eq_some_iff.mp (LinkedMap.get?_eq_some_iff.mpr hd)
  obtain ⟨hemem, hekey⟩ := CartData.get?_eq_some_iff.mp (LinkedMap.get?_eq_some_iff.mpr he)
  refine ⟨d, hdmem, e, hemem, ?_, LinkedMap.get?_eq_some_iff.mpr hd, ?_⟩
  · exact hdkey.trans (heq.symm.trans hekey.symm)
  · exact LinkedMap.get?_eq_some_iff.mpr (heq ▸ he)

/-- The cleaning passes remove the same keys. -/
theorem cleaned (h : s.Twin t) : s.cleaned.Twin t.cleaned where
  menuModel := h.menuModel
  cartCount := h.cartCount
  keys := by
    have hclean : ∀ u : Memory D, u.cleaned.cartData.map.keys = u.cartData.map.keys.filter
        fun key => (u.cartData.map.get? key).any fun d => u.dishOrdeCount d ≠ 0 :=
      fun u => LinkedMap.keys_filter u.cartData.map fun d => u.dishOrdeCount d ≠ 0
    rw [hclean, hclean, ← h.keys]
    refine List.filter_congr fun key hkey => ?_
    obtain ⟨d, hd, e, he, hid, hs, ht⟩ := h.get? hkey
    rw [hs, ht, Option.any_some, Option.any_some, (h.held d hd e he hid).1]
  counts := h.counts
  held d hd e he hid := by
    rw [Memory.cleaned, CartData.dishes_filter] at hd he
    exact h.held d (List.mem_of_mem_filter hd) e (List.mem_of_mem_filter he) hid

theorem calculateTotalAmount [Zero D] [Add D] [Mul D] [IntCast D] (h : s.Twin t)
    (halike : ∀ d ∈ s.cartData.dishes, ∀ e ∈ t.cartData.dishes, d.dishId = e.dishId →
      d.dishPrice = e.dishPrice) :
    CheckoutController.calculateTotalAmount s = CheckoutController.calculateTotalAmount t := by
  rw [CheckoutController.calculateTotalAmount, CheckoutController.calculateTotalAmount, ← h.keys]
  refine List.foldl_ext _ _ _ fun totalPrice key hkey => ?_
  obtain ⟨d, hd, e, he, hid, hs, ht⟩ := h.get? hkey
  rw [hs, ht]
  dsimp only
  rw [halike d hd e he hid, (h.held d hd e he hid).1]

variable [DecidableEq D]

theorem tapped (h : s.Twin t) {d : DishRef D} (hd : d ∈ s.dishes) (isAdd : Bool) :
    (s.tapped d isAdd).Twin (t.tapped d isAdd) where
  menuModel := h.menuModel
  cartCount := congrArg (· + sign isAdd) h.cartCount
  keys := by
    rw [Memory.tapped, Memory.tapped, h.counts d hd]
    dsimp only
    split
    · change (s.cartData.map.erase d.dishId).keys = (t.cartData.map.erase d.dishId).keys
      rw [LinkedMap.keys_erase, LinkedMap.keys_erase, h.keys]
    · refine (LinkedMap.keys_insertEntry ..).trans (.trans ?_ (LinkedMap.keys_insertEntry ..).symm)
      have hkeys : s.cartData.map.entries.map Prod.fst = t.cartData.map.entries.map Prod.fst :=
        h.keys
      rw [hkeys]
  counts e he := by
    rcases eq_or_ne e d with rfl | hne
    · exact Order.apply_add_self_congr (h.counts e he) _
    · exact Order.apply_add_congr_of_ne hne hne (h.counts e he) _
  held x hx y hy hid := by
    rcases Memory.tapped_cases hx with ⟨hxd, rfl⟩ | ⟨hxd, hx, hcx⟩
    · rcases Memory.tapped_cases hy with ⟨_, rfl⟩ | ⟨hyd, _, _⟩
      · exact ⟨Order.apply_add_self_congr (h.counts y hd) _, .inl rfl⟩
      · exact (hyd hid.symm).elim
    · rcases Memory.tapped_cases hy with ⟨hyd, _⟩ | ⟨_, hy, hcy⟩
      · exact (hxd (hid.trans hyd)).elim
      · rw [hcx, hcy]
        exact h.held x hx y hy hid

theorem rowTapped (h : s.Twin t) {d e : DishRef D} (hd : d ∈ s.cartData.dishes)
    (he : e ∈ t.cartData.dishes) (hid : d.dishId = e.dishId) (isAdd : Bool) :
    (s.rowTapped d isAdd).Twin (t.rowTapped e isAdd) where
  menuModel := h.menuModel
  cartCount := congrArg (· + sign isAdd) h.cartCount
  keys := h.keys
  counts x hx := by
    -- either both taps move the count of the one dish on display, or neither moves a count there
    rcases (h.held d hd e he hid).2 with rfl | ⟨hd', he'⟩
    · rcases eq_or_ne x d with rfl | hne
      · exact Order.apply_add_self_congr (h.counts x hx) _
      · exact Order.apply_add_congr_of_ne hne hne (h.counts x hx) _
    · have hxd : x ≠ d := fun hxd => hd' (hxd ▸ hx)
      have hxe : x ≠ e := fun hxe => he' (hxe ▸ hx)
      exact Order.apply_add_congr_of_ne hxd hxe (h.counts x hx) _
  held x hx y hy hxy := by
    have hboth := h.held x hx y hy hxy
    refine ⟨?_, hboth.2⟩
    rcases eq_or_ne x d with rfl | hne
    · obtain rfl : y = e := CartData.eq_of_dishId_eq hy he (hxy.symm.trans hid)
      exact Order.apply_add_self_congr hboth.1 _
    · have hye : y ≠ e := fun hye => hne (CartData.eq_of_dishId_eq hx hd
        (hxy.trans ((congrArg DishRef.dishId hye).trans hid.symm)))
      exact Order.apply_add_congr_of_ne hne hye hboth.1 _

theorem resetCount (h : s.Twin t) :
    (CheckoutController.resetCount s).Twin (CheckoutController.resetCount t) where
  menuModel := h.menuModel
  cartCount := rfl
  keys := rfl
  counts d hd := by
    have hheld : d ∈ s.cartData.dishes ↔ d ∈ t.cartData.dishes := by
      have hkey : ∀ c : CartData D, d ∈ c.dishes → d.dishId ∈ c.map.keys := fun c hc =>
        LinkedMap.mem_keys_of_mem (CartData.mem_dishes_iff.mp hc)
      refine ⟨fun hs => ?_, fun ht => ?_⟩
      · obtain ⟨x, hx, y, hy, hxy, hsx, hty⟩ := h.get? (hkey _ hs)
        obtain rfl : x = d := CartData.eq_of_dishId_eq hx hs (CartData.get?_eq_some_iff.mp hsx).2
        exact (h.held x hx y hy hxy).2.elim (fun hxy => hxy ▸ hy) fun hnot => (hnot.1 hd).elim
      · obtain ⟨x, hx, y, hy, hxy, hsx, hty⟩ := h.get? (h.keys ▸ hkey _ ht)
        obtain rfl : y = d := CartData.eq_of_dishId_eq hy ht (CartData.get?_eq_some_iff.mp hty).2
        exact (h.held x hx y hy hxy).2.elim (fun hxy => hxy ▸ hx) fun hnot => (hnot.2 hd).elim
    rw [resetCount_dishOrdeCount, resetCount_dishOrdeCount]
    split
    · rename_i hs
      rw [if_pos (hheld.mp hs)]
    · rename_i hs
      rw [if_neg fun ht => hs (hheld.mpr ht)]
      exact h.counts d hd
  held d hd := by cases hd

end Memory.Twin
end

section
variable {D : Type} [DartDouble D]

/-- Two dishes whose rows show the same beside the count. -/
structure DishRef.Alike (d e : DishRef D) : Prop where
  dishName : d.dishName = e.dishName
  dishPrice : d.dishPrice = e.dishPrice
  dishCalories : d.dishCalories.bind DartDouble.toInt = e.dishCalories.bind DartDouble.toInt

/-- Under the keys whose count is not 0 the two carts hold dishes that look alike. -/
def Memory.LookAlike (s t : Memory D) : Prop :=
  ∀ d ∈ s.cartData.dishes, ∀ e ∈ t.cartData.dishes, d.dishId = e.dishId →
    s.dishOrdeCount d ≠ 0 → d.Alike e

inductive App.Twin : App D → App D → Prop
  | home {s t : Memory D} : s.Twin t → s.LookAlike t → App.Twin ⟨s, .home⟩ ⟨t, .home⟩
  | checkout {s t : Memory D} {model : CheckoutModel D} : s.Twin t →
    (∀ d ∈ s.cartData.dishes, ∀ e ∈ t.cartData.dishes, d.dishId = e.dishId → d.Alike e) →
    App.Twin ⟨s, .checkout model⟩ ⟨t, .checkout model⟩

section
variable {s t : Memory D}

/-! ## What twins show -/

theorem Memory.Twin.tabbarView (h : s.Twin t) :
    HomePage.tabbarView s = HomePage.tabbarView t := by
  have hcategories : t.categories = s.categories := by
    rw [Singleton.categories, Singleton.categories, h.menuModel]
  rw [HomePage.tabbarView, HomePage.tabbarView, hcategories]
  refine List.map_congr_left fun category hcategory => List.map_congr_left fun d hd => ?_
  have hmem : d ∈ s.dishes := List.mem_flatMap.mpr ⟨category, hcategory, hd⟩
  rw [HomePage.viewCardType, HomePage.viewCardType, h.counts d hmem]

variable [Mul D] [IntCast D]

theorem Memory.Twin.menuList (h : s.Twin t)
    (halike : ∀ d ∈ s.cartData.dishes, ∀ e ∈ t.cartData.dishes, d.dishId = e.dishId → d.Alike e) :
    CheckoutPage.menuList s = CheckoutPage.menuList t := by
  rw [CheckoutPage.menuList, CheckoutPage.menuList, ← h.keys]
  refine List.filterMap_congr fun key hkey => ?_
  obtain ⟨d, hd, e, he, hid, hs, ht⟩ := h.get? hkey
  obtain ⟨hname, hprice, hcalories⟩ := halike d hd e he hid
  rw [hs, ht, Option.map_some, Option.map_some, CheckoutPage.cardContent,
    CheckoutPage.cardContent, hname, hprice, hcalories, (h.held d hd e he hid).1]

theorem App.Twin.screen {a b : App D} (h : a.Twin b) : a.screen = b.screen := by
  cases h with
  | home h _ => rw [App.screen, App.screen, h.tabbarView, h.cartCount]
  | checkout h halike =>
    have hlength := congrArg List.length h.keys
    rw [LinkedMap.keys, LinkedMap.keys, List.length_map, List.length_map] at hlength
    rw [App.screen, App.screen, h.tabbarView, h.cartCount]
    dsimp only
    rw [h.menuList halike, CheckoutPage.topHeading, CheckoutPage.topHeading, hlength, h.cartCount]

end

/-! ## Taps on twins -/

/-- The checkout page opens on dishes of nonzero count, which look alike. -/
theorem App.Twin.opened [Zero D] [Add D] [Mul D] [IntCast D] {s t : Memory D} (h : s.Twin t)
    (hlook : s.LookAlike t) :
    App.Twin ⟨s.cleaned, .checkout (CheckoutPage.initState s.cleaned)⟩
      ⟨t.cleaned, .checkout (CheckoutPage.initState t.cleaned)⟩ := by
  have halike : ∀ d ∈ s.cleaned.cartData.dishes, ∀ e ∈ t.cleaned.cartData.dishes,
      d.dishId = e.dishId → d.Alike e := fun d hd e he hid => by
    rw [Memory.cleaned, CartData.dishes_filter] at hd he
    obtain ⟨hd, hcount⟩ := List.mem_filter.mp hd
    exact hlook d hd e (List.mem_of_mem_filter he) hid (of_decide_eq_true hcount)
  have htotal := h.cleaned.calculateTotalAmount
    fun d hd e he hid => (halike d hd e he hid).dishPrice
  rw [CheckoutPage.initState, CheckoutPage.initState, htotal]
  exact .checkout h.cleaned halike

section
variable [DecidableEq D] {s t : Memory D}

theorem Memory.LookAlike.tapped (h : s.LookAlike t) (d : DishRef D) (isAdd : Bool) :
    (s.tapped d isAdd).LookAlike (t.tapped d isAdd) := by
  intro x hx y hy hid hne
  rcases Memory.tapped_cases hx with ⟨hxd, rfl⟩ | ⟨hxd, hx, hcx⟩
  · rcases Memory.tapped_cases hy with ⟨_, rfl⟩ | ⟨hyd, _, _⟩
    · exact ⟨rfl, rfl, rfl⟩
    · exact (hyd hid.symm).elim
  · rcases Memory.tapped_cases hy with ⟨hyd, _⟩ | ⟨_, hy, _⟩
    · exact (hxd (hid.trans hyd)).elim
    · exact h x hx y hy hid (hcx ▸ hne)

/-- A tap on the same row moves both totals by the same price. -/
theorem App.Twin.row [Add D] [Sub D] {d e : DishRef D} {model : CheckoutModel D} (h : s.Twin t)
    (halike : ∀ d ∈ s.cartData.dishes, ∀ e ∈ t.cartData.dishes, d.dishId = e.dishId → d.Alike e)
    (hd : d ∈ s.cartData.dishes) (he : e ∈ t.cartData.dishes) (hid : d.dishId = e.dishId)
    (isAdd : Bool) :
    App.Twin ⟨s.rowTapped d isAdd, .checkout (model.tapped d isAdd)⟩
      ⟨t.rowTapped e isAdd, .checkout (model.tapped e isAdd)⟩ := by
  have hmodel : model.tapped d isAdd = model.tapped e isAdd := by
    rw [CheckoutModel.tapped, CheckoutModel.tapped, (halike d hd e he hid).dishPrice]
  rw [hmodel]
  exact .checkout (h.rowTapped hd he hid isAdd) halike

variable [Zero D] [Add D] [Sub D] [Mul D] [IntCast D]

/-- Twins that take the same tap stay twins. -/
theorem App.Twin.step {a b a' b' : App D} {tap tap' : Tap} (h : a.Twin b) (ha : a.Step tap a')
    (hb : b.Step tap' b') (htap : tap = tap') : a'.Twin b' := by
  cases h with
  | home h hlook =>
    cases ha with
    | dish hd _ _ =>
      cases hb with
      | dish hd' _ _ =>
        cases htap
        rw [h.dishAt] at hd'
        cases hd.symm.trans hd'
        have hmem := Singleton.mem_dishes_iff.mpr ⟨_, _, hd⟩
        exact .home (h.tapped hmem _) (hlook.tapped _ _)
      | refused | opened => cases htap
    | refused hzero =>
      cases hb with
      | dish => cases htap
      | refused => exact .home h hlook
      | opened hne => exact (hne (h.cartCount ▸ hzero)).elim
    | opened hne =>
      cases hb with
      | dish => cases htap
      | refused hzero => exact (hne (h.cartCount.trans hzero)).elim
      | opened => exact .opened h hlook
  | checkout h halike =>
    cases ha with
    | row hd =>
      cases hb with
      | row he =>
        obtain ⟨rfl, hid⟩ := Tap.row.inj htap
        exact .row h halike hd he hid _
      | back | ok => cases htap
    | back =>
      cases hb with
      | row | ok => cases htap
      | back => exact .home h fun d hd e he hid _ => halike d hd e he hid
    | ok =>
      cases hb with
      | row | back => cases htap
      | ok => exact .home h.resetCount fun d hd => by cases hd

/-- The same taps are possible on twins. -/
theorem App.Twin.isSome_step {a b : App D} (h : a.Twin b) (tap : Tap) :
    (a.step tap).isSome = (b.step tap).isSome := by
  cases h with
  | @home s t h hlook =>
    cases tap with
    | dish isAdd i j =>
      rw [App.step, App.step, Option.isSome_map, Option.isSome_map, HomePage.isSome_tapDish,
        HomePage.isSome_tapDish, h.dishAt]
      cases hd : s.dishAt i j with
      | none => rfl
      | some d =>
        have hmem : d ∈ s.dishes := Singleton.mem_dishes_iff.mpr ⟨i, j, hd⟩
        rw [Option.any_some, Option.any_some, h.counts d hmem]
    | cartIcon =>
      rw [App.step, App.step]
      cases HomePage.badgeOntap s <;> cases HomePage.badgeOntap t <;> rfl
    | row | back | ok => rfl
  | checkout h halike =>
    cases tap with
    | dish | cartIcon => rfl
    | row isAdd key =>
      rw [App.step, App.step, Option.isSome_map, Option.isSome_map,
        CheckoutPage.isSome_addAndMinus, CheckoutPage.isSome_addAndMinus, h.keys]
    | back | ok => rfl

/-- Twins show the same after the same taps. -/
theorem App.Twin.map_screen_run {a b : App D} (h : a.Twin b) (taps : List Tap) :
    ((App.machine D).run a taps).map App.screen = ((App.machine D).run b taps).map App.screen :=
  Machine.map_run_eq (fun _ _ h => h.screen) (fun _ _ tap h => h.isSome_step tap)
    (fun _ _ _ _ _ h ha hb => h.step (App.step_sound ha) (App.step_sound hb) rfl) h

end

end
end MachineTest
