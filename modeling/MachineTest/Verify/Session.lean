import MachineTest.Verify.Total

/-! # What a session shows

The representation invariant after every run, the bill of a menu whose dishes may share an id, and
the independence of the cart from the order of the taps. -/

namespace MachineTest

section
variable {D : Type} [DecidableEq D] [DartDouble D] [Zero D] [Add D] [Sub D] [Mul D] [IntCast D]

/-! ## The representation -/

/-- Only dishes on display are counted. -/
theorem App.Step.dishOrdeCount_of_not_mem {app app' : App D} {tap : Tap} (hstep : app.Step tap app')
    (h : app.memory.CartInv) {d : DishRef D} (hd : d ∉ app.memory.dishes) :
    app'.memory.dishOrdeCount d = app.memory.dishOrdeCount d := by
  cases hstep with
  | @dish s e isAdd i j he _ _ =>
    have hne : d ≠ e := fun heq => hd (heq ▸ Singleton.mem_dishes_iff.mpr ⟨i, j, he⟩)
    exact Order.apply_add_of_ne _ hne _
  | @row s e isAdd model he =>
    have hne : d ≠ e := fun heq => hd (heq ▸ h.displayed e he)
    exact Order.apply_add_of_ne _ hne _
  | refused | opened | back => rfl
  | ok =>
    rw [resetCount_dishOrdeCount, if_neg fun hheld => hd (h.displayed d hheld)]

theorem App.run_dishOrdeCount_of_not_mem {app app' : App D} {taps : List Tap}
    {menuModel : Option (List (MenuModel (DishRef D)))} (h : app.Inv menuModel)
    (hrun : (App.machine D).run app taps = some app') {d : DishRef D}
    (hd : d ∉ app.memory.dishes) : app'.memory.dishOrdeCount d = app.memory.dishOrdeCount d := by
  induction taps generalizing app with
  | nil => cases hrun; rfl
  | cons tap taps ih =>
    obtain ⟨t, ht, hrun⟩ := Machine.run_cons.mp hrun
    have hstep := App.step_sound ht
    rw [ih (h.step ht) hrun (hstep.dishes ▸ hd), hstep.dishOrdeCount_of_not_mem h.cartInv hd]

/-- **The cart of a session.** After any taps, every entry of the cart holds the dish object on
display with the id of its key, every ordered dish is held, and `cartCount` is the sum of the counts
over the menu and over the cart; no other dish object was counted. Placing the order then leaves
every count at 0. -/
theorem App.run_cart {s : Memory D} (hs : s.Fresh) (hids : s.DistinctIds) {taps : List Tap}
    {app : App D} (hrun : (App.machine D).run ⟨s, .home⟩ taps = some app) :
    app.memory.menuModel = s.menuModel ∧
    (∀ key d, app.memory.cartData.map.get? key = some d → d ∈ app.memory.dishes ∧ d.dishId = key) ∧
    (∀ d ∈ app.memory.dishes, app.memory.dishOrdeCount d ≠ 0 →
      app.memory.cartData.map.get? d.dishId = some d) ∧
    app.memory.cartCount = (app.memory.dishes.map app.memory.dishOrdeCount).sum ∧
    app.memory.cartCount = (app.memory.cartData.map.values.map app.memory.dishOrdeCount).sum ∧
    (∀ d, d ∉ s.dishes → app.memory.dishOrdeCount d = s.dishOrdeCount d) ∧
    ∀ app', app.step .ok = some app' → ∀ d ∈ app'.memory.dishes,
      app'.memory.dishOrdeCount d = 0 := by
  have hstart : App.Inv s.menuModel ⟨s, .home⟩ := hs.appInv hids .home
  have hinv := hstart.run hrun
  have hcart := hinv.cartInv
  refine ⟨hinv.menuModel, fun key d hd => ?_, fun d hd hne => ?_, hcart.cartCount,
    hcart.cartCount_eq_held, fun d hd => ?_, fun app' hok d hd => ?_⟩
  · obtain ⟨hheld, hkey⟩ := CartData.get?_eq_some_iff.mp hd
    exact ⟨hcart.displayed d hheld, hkey⟩
  · exact CartData.get?_eq_some_iff.mpr ⟨hcart.held d hd hne, rfl⟩
  · exact App.run_dishOrdeCount_of_not_mem hstart hrun hd
  · have hstep := App.step_sound hok
    rw [hstep.dishes] at hd
    cases hstep with
    | ok => exact hcart.resetCount_eq_zero hd

end

theorem App.run_cart_menuOfTwo : ∃ app, (App.machine ℚ).run ⟨menuOfTwo, .home⟩
      [.dish true 0 0, .dish true 0 1, .cartIcon, .row false (some "2"), .row false (some "2")] =
        some app ∧
    app.memory.cartCount = (app.memory.dishes.map app.memory.dishOrdeCount).sum := by
  obtain ⟨app, hrun⟩ : ∃ app, (App.machine ℚ).run ⟨menuOfTwo, .home⟩
      [.dish true 0 0, .dish true 0 1, .cartIcon, .row false (some "2"), .row false (some "2")] =
        some app := ⟨_, rfl⟩
  exact ⟨app, hrun, (App.run_cart menuOfTwo_fresh menuOfTwo_distinctIds hrun).2.2.2.1⟩

/-! ## Dishes that share an id -/

section
variable {D : Type} [DecidableEq D] [DartDouble D] [Zero D] [Add D] [Sub D] [Mul D] [IntCast D]

/-- Of two dishes with one id, the first is missing from the cart after both were added. -/
theorem App.exists_missing {s : Memory D} (hs : s.Fresh) {d e : DishRef D} (hd : d ∈ s.dishes)
    (he : e ∈ s.dishes) (hbuilt : d.built = true) (hbuilt' : e.built = true) (hne : d ≠ e)
    (hid : d.dishId = e.dishId) :
    ∃ taps s' model, Tap.ok ∉ taps ∧
      (App.machine D).run ⟨s, .home⟩ (taps ++ [.cartIcon]) = some ⟨s', .checkout model⟩ ∧
      d ∈ s'.dishes ∧ s'.dishOrdeCount d ≠ 0 ∧ d ∉ s'.cartData.dishes := by
  obtain ⟨i, j, hij⟩ := Singleton.mem_dishes_iff.mp hd
  obtain ⟨k, l, hkl⟩ := Singleton.mem_dishes_iff.mp he
  let u := s.tapped d true
  let v := u.tapped e true
  have hadds : s.Adds d 1 u := Memory.adds_tapped s d true
  have hadds' : u.Adds e 1 v := Memory.adds_tapped u e true
  have hcount : v.cartCount ≠ 0 := by
    rw [hadds'.cartCount, hadds.cartCount, hs.cartCount]
    decide
  refine ⟨[.dish true i j, .dish true k l], v.cleaned, CheckoutPage.initState v.cleaned,
    by simp, ?_, ?_, ?_, fun hmem => ?_⟩
  · rw [List.cons_append, App.run_plus hij hbuilt, List.cons_append,
      App.run_plus (s := u) hkl hbuilt', List.nil_append, App.run_cartIcon hcount]
  · change d ∈ v.dishes
    rw [hadds'.dishes, hadds.dishes]
    exact hd
  · change v.dishOrdeCount d ≠ 0
    rw [hadds'.dishOrdeCount, Order.apply_add_of_ne _ hne, hadds.dishOrdeCount,
      Order.apply_add_self, hs.counts d hd]
    decide
  · rw [Memory.cleaned, CartData.dishes_filter] at hmem
    exact hne (hadds'.own d (List.mem_of_mem_filter hmem) hid)

end

/-- The page has one row for each of the `dishes`, in their order, and no other. -/
structure Memory.RowsOf (s : Memory ℚ) (dishes : List (DishRef ℚ)) : Prop where
  nodup : dishes.Nodup
  menuList : CheckoutPage.menuList s = dishes.map (CheckoutPage.cardContent s)

theorem Memory.rowsOf_cartData (s : Memory ℚ) : s.RowsOf s.cartData.dishes :=
  ⟨s.cartData.dishes_nodup, menuList_eq⟩

/-- Every ordered dish of the menu is the dish of exactly one key of the cart and of one row, and
the total is the amount due for the menu. -/
structure Memory.Billed (s : Memory ℚ) (model : CheckoutModel ℚ) : Prop where
  rows : ∀ d ∈ s.dishes, s.dishOrdeCount d ≠ 0 → ∃! key, s.cartData.map.get? key = some d
  rowsOf : ∃ dishes, s.RowsOf dishes ∧ ∀ d ∈ s.dishes, s.dishOrdeCount d ≠ 0 → d ∈ dishes
  total : model.totalPrice = (s.dishes.map fun d => d.dishPrice * (s.dishOrdeCount d : ℚ)).sum

/-- **The bill.** Whenever the checkout page opens it bills everything that is ordered, if and only
if no two dishes that can be tapped share an id. -/
theorem App.billed_iff {s : Memory ℚ} (hs : s.Fresh) :
    (∀ taps, Tap.ok ∉ taps → ∀ s' model,
      (App.machine ℚ).run ⟨s, .home⟩ (taps ++ [.cartIcon]) = some ⟨s', .checkout model⟩ →
        s'.Billed model) ↔ s.DistinctIds := by
  refine ⟨fun h => ?_, fun hids taps _ s' model hrun => ?_⟩
  · refine (List.nodup_map_iff_inj_on (hs.nodup.filter _)).mpr fun d hd e he hid => ?_
    obtain ⟨hd, hbuilt⟩ := List.mem_filter.mp hd
    obtain ⟨he, hbuilt'⟩ := List.mem_filter.mp he
    by_contra hne
    obtain ⟨taps, s', model, hok, hrun, hmem, hcount, hmissing⟩ :=
      App.exists_missing hs hd he hbuilt hbuilt' hne hid
    obtain ⟨key, hkey, _⟩ := (h taps hok s' model hrun).rows d hmem hcount
    exact hmissing (CartData.get?_eq_some_iff.mp hkey).1
  · have hinv := (hs.appInv hids .home).run hrun
    have htotal := (App.totalInv_home s).run hrun model rfl
    refine ⟨fun d hd hne => ⟨d.dishId, ?_, fun key hkey => ?_⟩, ?_, ?_⟩
    · exact CartData.get?_eq_some_iff.mpr ⟨hinv.cartInv.held d hd hne, rfl⟩
    · exact (CartData.get?_eq_some_iff.mp hkey).2.symm
    · exact ⟨_, s'.rowsOf_cartData, hinv.cartInv.held⟩
    · rw [htotal]
      exact hinv.cartInv.total_eq

theorem App.billed_iff_menuOfTwo :
    (∀ taps, Tap.ok ∉ taps → ∀ s' model,
      (App.machine ℚ).run ⟨menuOfTwo, .home⟩ (taps ++ [.cartIcon]) =
        some ⟨s', .checkout model⟩ → s'.Billed model) ↔ menuOfTwo.DistinctIds :=
  App.billed_iff menuOfTwo_fresh

/-- A menu that lists two dishes under one id. -/
def menuOfTwins : Memory ℚ :=
  ({} : Memory ℚ).install [menuOf [dishOf (some "1") 10, dishOf (some "1") 3]]

/-- One piece of each twin is ordered: the page bills the second alone. -/
theorem App.twin_not_billed : menuOfTwins.Fresh ∧ ∃ s' model,
    (App.machine ℚ).run ⟨menuOfTwins, .home⟩ [.dish true 0 0, .dish true 0 1, .cartIcon] =
      some ⟨s', .checkout model⟩ ∧
    CheckoutPage.topHeading s' = (1, 2) ∧ model.totalPrice = 3 ∧ ¬ s'.Billed model := by
  refine ⟨Memory.install_fresh rfl rfl, _, _, rfl, rfl, by decide +kernel, fun h => ?_⟩
  exact absurd h.total (by decide +kernel)

/-! ## Path independence -/

/-- The number of plus taps on a dish less the number of minus taps on it, over both pages. -/
def Singleton.net {D : Type} [DecidableEq D] [DartDouble D] (s : Singleton D) (taps : List Tap)
    (d : DishRef D) : ℤ := (taps.map fun tap => (s.change tap).net d).sum

section
variable {R : Type} [CommRing R] [DecidableEq R] [DartDouble R]

/-- A session that places no order ends with the net effect of its taps. -/
theorem App.run_net {s : Memory R} (hs : s.Fresh) (hids : s.DistinctIds) {taps : List Tap}
    {app : App R} (hok : Tap.ok ∉ taps) (hrun : (App.machine R).run ⟨s, .home⟩ taps = some app)
    {d : DishRef R} (hd : d ∈ s.dishes) : app.memory.dishOrdeCount d = s.net taps d := by
  have hstart : App.Inv s.menuModel ⟨s, .home⟩ := hs.appInv hids .home
  have hplace : ∀ c ∈ taps.map s.change, c ≠ .place := fun c hc => by
    obtain ⟨tap, htap, rfl⟩ := List.mem_map.mp hc
    exact Singleton.change_ne_place fun h => hok (h ▸ htap)
  have hnet := Order.machine_run_net hplace (App.run_refines hstart hrun) d
  have hdishes : app.memory.dishes = s.dishes :=
    Singleton.dishes_congr (hstart.run hrun).menuModel
  rw [Memory.order_of_mem (hdishes ▸ hd)] at hnet
  rw [hnet, Memory.order_of_mem hd, hs.counts d hd, zero_add, List.map_map]
  rfl

end

/-- Two stores of one session with the same counts clean their carts to the same rows. -/
theorem Memory.CartInv.menuList_perm {s s' : Memory ℚ} (h : s.CartInv) (h' : s'.CartInv)
    (hdishes : s'.dishes = s.dishes)
    (hcounts : ∀ d ∈ s.dishes, s'.dishOrdeCount d = s.dishOrdeCount d) :
    (CheckoutPage.menuList s.cleaned).Perm (CheckoutPage.menuList s'.cleaned) := by
  have hmem : ∀ d, d ∈ s.cleaned.cartData.dishes ↔ d ∈ s'.cleaned.cartData.dishes := fun d => by
    rw [h.mem_cleaned, h'.mem_cleaned, hdishes]
    exact and_congr_right fun hd => by rw [hcounts d hd]
  have hperm : s.cleaned.cartData.dishes.Perm s'.cleaned.cartData.dishes :=
    (List.perm_ext_iff_of_nodup s.cleaned.cartData.dishes_nodup
      s'.cleaned.cartData.dishes_nodup).mpr hmem
  have hrows : s'.cleaned.cartData.dishes.map (CheckoutPage.cardContent s.cleaned) =
      s'.cleaned.cartData.dishes.map (CheckoutPage.cardContent s'.cleaned) := by
    refine List.map_congr_left fun d hd => ?_
    have hcount := hcounts d (h.mem_cleaned.mp ((hmem d).mpr hd)).1
    change s'.cleaned.dishOrdeCount d = s.cleaned.dishOrdeCount d at hcount
    rw [CheckoutPage.cardContent, CheckoutPage.cardContent, hcount]
  rw [menuList_eq, menuList_eq, ← hrows]
  exact hperm.map _

/-- The cart icon does the same in both: it refuses to open the cart, or it opens it with the same
rows, one for each of the dishes in `ordered`, and the same total. -/
inductive App.SameCart (ordered : DishRef ℚ → Prop) : App ℚ → App ℚ → Prop
  | refused {s s' : Memory ℚ} : App.SameCart ordered ⟨s, .home⟩ ⟨s', .home⟩
  | opened {s s' : Memory ℚ} {model model' : CheckoutModel ℚ} :
    (∀ d, d ∈ s.cartData.dishes ↔ ordered d) → (∀ d, d ∈ s'.cartData.dishes ↔ ordered d) →
    s.RowsOf s.cartData.dishes → s'.RowsOf s'.cartData.dishes →
    (CheckoutPage.menuList s).Perm (CheckoutPage.menuList s') →
    model.totalPrice = model'.totalPrice →
    App.SameCart ordered ⟨s, .checkout model⟩ ⟨s', .checkout model'⟩

/-- **Path independence.** Two sessions that tap every dish the same net number of times end with
these numbers as the counts, the same `cartCount` and the same cart, up to the order of its rows. -/
theorem App.path_independent {s : Memory ℚ} (hs : s.Fresh) (hids : s.DistinctIds)
    {taps taps' : List Tap} {app app' : App ℚ} (hok : Tap.ok ∉ taps) (hok' : Tap.ok ∉ taps')
    (hrun : (App.machine ℚ).run ⟨s, .home⟩ taps = some app)
    (hrun' : (App.machine ℚ).run ⟨s, .home⟩ taps' = some app')
    (hnet : ∀ d ∈ s.dishes, s.net taps d = s.net taps' d) :
    (∀ d ∈ s.dishes, app.memory.dishOrdeCount d = s.net taps d ∧
      app'.memory.dishOrdeCount d = s.net taps d) ∧
    app.memory.cartCount = app'.memory.cartCount ∧
    ∀ t t', app.step .cartIcon = some t → app'.step .cartIcon = some t' →
      App.SameCart (fun d => d ∈ s.dishes ∧ s.net taps d ≠ 0) t t' := by
  have hinv := (hs.appInv hids .home).run hrun
  have hinv' := (hs.appInv hids .home).run hrun'
  have hcount : ∀ d ∈ s.dishes, app.memory.dishOrdeCount d = s.net taps d :=
    fun d hd => App.run_net hs hids hok hrun hd
  have hcount' : ∀ d ∈ s.dishes, app'.memory.dishOrdeCount d = s.net taps d :=
    fun d hd => (App.run_net hs hids hok' hrun' hd).trans (hnet d hd).symm
  have hdishes : app.memory.dishes = s.dishes := Singleton.dishes_congr hinv.menuModel
  have hdishes' : app'.memory.dishes = s.dishes := Singleton.dishes_congr hinv'.menuModel
  have hcartCount : app.memory.cartCount = app'.memory.cartCount := by
    rw [hinv.cartInv.cartCount, hinv'.cartInv.cartCount, hdishes, hdishes', Order.items,
      Order.items, List.map_congr_left hcount, List.map_congr_left hcount']
  refine ⟨fun d hd => ⟨hcount d hd, hcount' d hd⟩, hcartCount, fun t t' ht ht' => ?_⟩
  cases App.step_sound ht with
  | @refused u hzero =>
    cases App.step_sound ht' with
    | refused => exact .refused
    | opened hne => exact (hne (hcartCount ▸ hzero)).elim
  | @opened u hne =>
    cases App.step_sound ht' with
    | refused hzero => exact (hne (hcartCount.trans hzero)).elim
    | @opened u' hne' =>
      have hrows : (CheckoutPage.menuList u.cleaned).Perm (CheckoutPage.menuList u'.cleaned) :=
        hinv.cartInv.menuList_perm hinv'.cartInv (hdishes'.trans hdishes.symm)
          fun d hd => (hcount' d (hdishes ▸ hd)).trans (hcount d (hdishes ▸ hd)).symm
      refine .opened (fun d => ?_) (fun d => ?_) (Memory.rowsOf_cartData _)
        (Memory.rowsOf_cartData _) hrows ?_
      · rw [hinv.cartInv.mem_cleaned, hdishes]
        exact and_congr_right fun hd => by rw [hcount d hd]
      · rw [hinv'.cartInv.mem_cleaned, hdishes']
        exact and_congr_right fun hd => by rw [hcount' d hd]
      · have hsum := (hrows.map Row.lineTotal).sum_eq
        rw [CheckoutPage.sum_lineTotal, CheckoutPage.sum_lineTotal] at hsum
        exact hsum

/-- One dish twice and the other once, with and without a detour over the checkout page. The cart
opens after both. -/
theorem App.path_independent_menuOfTwo : ∃ app app' s s' model model',
    (App.machine ℚ).run ⟨menuOfTwo, .home⟩ [.dish true 0 0, .dish true 0 0, .dish true 0 1] =
      some app ∧
    (App.machine ℚ).run ⟨menuOfTwo, .home⟩ [.dish true 0 1, .dish true 0 1, .dish true 0 0,
      .cartIcon, .row false (some "2"), .row true (some "1"), .back] = some app' ∧
    app.memory.cartCount = app'.memory.cartCount ∧
    app.step .cartIcon = some ⟨s, .checkout model⟩ ∧
    app'.step .cartIcon = some ⟨s', .checkout model'⟩ ∧
    App.SameCart (fun d => d ∈ menuOfTwo.dishes ∧
        menuOfTwo.net [.dish true 0 0, .dish true 0 0, .dish true 0 1] d ≠ 0)
      ⟨s, .checkout model⟩ ⟨s', .checkout model'⟩ := by
  obtain ⟨app, hrun⟩ : ∃ app, (App.machine ℚ).run ⟨menuOfTwo, .home⟩
      [.dish true 0 0, .dish true 0 0, .dish true 0 1] = some app := ⟨_, rfl⟩
  obtain ⟨app', hrun'⟩ : ∃ app', (App.machine ℚ).run ⟨menuOfTwo, .home⟩
      [.dish true 0 1, .dish true 0 1, .dish true 0 0, .cartIcon, .row false (some "2"),
        .row true (some "1"), .back] = some app' := ⟨_, rfl⟩
  have h := App.path_independent menuOfTwo_fresh menuOfTwo_distinctIds (by decide) (by decide)
    hrun hrun' (by decide)
  cases hrun
  cases hrun'
  exact ⟨_, _, _, _, _, _, rfl, rfl, h.2.1, rfl, rfl, h.2.2 _ _ rfl rfl⟩

end MachineTest
