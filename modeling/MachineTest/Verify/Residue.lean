import MachineTest.Pages.Fetching
import MachineTest.Theory.Overwriting
import MachineTest.Verify.Isolation
import MachineTest.Verify.Total

/-! # What a session leaves to the next

The next session shows the same after two histories if and only if they leave the same residue. -/

namespace MachineTest

section
variable {D : Type}

/-! ## The same residue -/

/-- The dish objects on display and in the cart come from the fetches so far. -/
structure Memory.Allocated (s : Memory D) : Prop where
  displayed : ∀ d ∈ s.dishes, d.fetch < s.fetches
  held : ∀ d ∈ s.cartData.dishes, d.fetch < s.fetches

variable [DartDouble D] [Mul D] [IntCast D] {s t : Memory D}

theorem Memory.keys_of_residue (h : s.residue = t.residue) :
    s.cartData.map.keys = t.cartData.map.keys := by
  have hkeys := congrArg LinkedMap.keys h
  rw [Memory.residue, Memory.residue, LinkedMap.keys_mapValues, LinkedMap.keys_mapValues] at hkeys
  exact hkeys

/-- With one residue, the dishes under a key have the same count and, unless it is 0, look alike. -/
theorem Memory.held_of_residue (h : s.residue = t.residue) {d e : DishRef D}
    (hd : d ∈ s.cartData.dishes) (he : e ∈ t.cartData.dishes) (hid : d.dishId = e.dishId) :
    s.dishOrdeCount d = t.dishOrdeCount e ∧ (s.dishOrdeCount d ≠ 0 → d.Alike e) := by
  have hrow := congrArg (LinkedMap.get? · d.dishId) h
  rw [Memory.residue, Memory.residue, LinkedMap.get?_mapValues, LinkedMap.get?_mapValues,
    CartData.get?_eq_some_iff.mpr ⟨hd, rfl⟩, CartData.get?_eq_some_iff.mpr ⟨he, hid.symm⟩] at hrow
  replace hrow := Option.some.inj hrow
  dsimp only at hrow
  split at hrow
  · rename_i hs
    split at hrow
    · rename_i ht
      exact ⟨hs.trans ht.symm, fun hne => (hne hs).elim⟩
    · cases hrow
  · split at hrow
    · cases hrow
    · obtain ⟨hname, hcount, _, hprice, hcalories⟩ := Row.mk.inj (Option.some.inj hrow)
      exact ⟨hcount, fun _ => ⟨hname, hprice, hcalories⟩⟩

/-- Two stores that took over the carts of `s` and `t` and show one menu of new dishes are twins. -/
theorem App.twin_of_residue {s' t' : Memory D} (h : s.residue = t.residue)
    (hcart : s'.cartData = s.cartData) (hcart' : t'.cartData = t.cartData)
    (hmenu : s'.menuModel = t'.menuModel) (hcartCount : s'.cartCount = t'.cartCount)
    (hcounts : ∀ d ∈ s'.dishes, s'.dishOrdeCount d = t'.dishOrdeCount d)
    (hold : ∀ d ∈ s.cartData.dishes, d ∉ s'.dishes ∧ s'.dishOrdeCount d = s.dishOrdeCount d)
    (hold' : ∀ d ∈ t.cartData.dishes, d ∉ s'.dishes ∧ t'.dishOrdeCount d = t.dishOrdeCount d) :
    App.Twin ⟨s', .home⟩ ⟨t', .home⟩ := by
  refine .home ⟨hmenu, hcartCount, ?_, hcounts, fun d hd e he hid => ?_⟩ fun d hd e he hid hne => ?_
  · rw [hcart, hcart']
    exact Memory.keys_of_residue h
  · rw [hcart] at hd
    rw [hcart'] at he
    obtain ⟨hnew, hcount⟩ := hold d hd
    obtain ⟨hnew', hcount'⟩ := hold' e he
    rw [hcount, hcount']
    exact ⟨(Memory.held_of_residue h hd he hid).1, .inr ⟨hnew, hnew'⟩⟩
  · rw [hcart] at hd
    rw [hcart'] at he
    rw [(hold d hd).2] at hne
    exact (Memory.held_of_residue h hd he hid).2 hne

theorem App.twin_nextSession [Zero D] (h : s.residue = t.residue) (hs : s.Allocated)
    (ht : t.Allocated) (hfetches : s.fetches = t.fetches) (session session' : Session)
    (response : Response D) :
    (App.nextSession session response s).Twin (App.nextSession session' response t) := by
  rw [App.nextSession, App.nextSession]
  cases response with
  | socketException | otherException =>
    refine App.twin_of_residue h rfl rfl rfl rfl (fun d hd => by cases hd) ?_ ?_
    · exact fun d _ => ⟨fun hd => (by cases hd), rfl⟩
    · exact fun d _ => ⟨fun hd => (by cases hd), rfl⟩
  | body tree =>
    cases hmenus : tree.bind menuModelOfTree with
    | error e =>
      rw [HomePageController.fetchAPIDataResume, HomePageController.fetchAPIDataResume, hmenus]
      refine App.twin_of_residue h rfl rfl rfl rfl (fun d hd => by cases hd) ?_ ?_
      · exact fun d _ => ⟨fun hd => (by cases hd), rfl⟩
      · exact fun d _ => ⟨fun hd => (by cases hd), rfl⟩
    | ok menus =>
      rw [HomePageController.fetchAPIDataResume_ok hmenus,
        HomePageController.fetchAPIDataResume_ok hmenus]
      have hnew : ∀ u : Memory D, ∀ d ∈ (u.install menus).dishes, d.fetch = u.fetches :=
        fun u d hd => Memory.fetch_of_mem_install hd
      refine App.twin_of_residue h rfl rfl ?_ rfl (fun d hd => ?_) (fun d hd => ?_) fun d hd => ?_
      · exact congrArg (fun n => some (menus.mapIdx fun i menu => menu.objects n i)) hfetches
      · have hfetch := hnew _ d hd
        exact (if_pos hfetch).trans (if_pos (hfetch.trans hfetches)).symm
      · have hlt := hs.held d hd
        exact ⟨fun hmem => hlt.ne (hnew _ d hmem), if_neg hlt.ne⟩
      · have hlt := ht.held d hd
        exact ⟨fun hmem => hlt.ne ((hnew _ d hmem).trans hfetches), if_neg hlt.ne⟩

end

/-! ## Telling residues apart -/

section
variable {D : Type} [DecidableEq D]

/-- A first piece of each dish of a list. -/
def Memory.orderAll (s : Memory D) (ds : List (DishRef D)) : Memory D :=
  ds.foldl (fun s d => s.tapped d true) s

theorem Memory.cartCount_orderAll (ds : List (DishRef D)) (s : Memory D) :
    (s.orderAll ds).cartCount = s.cartCount + ds.length := by
  induction ds generalizing s with
  | nil => simp [Memory.orderAll]
  | cons d ds ih =>
    have hone : (s.tapped d true).cartCount = s.cartCount + 1 := rfl
    have htail := ih (s.tapped d true)
    rw [hone, add_assoc] at htail
    rw [List.length_cons, Nat.cast_add, Nat.cast_one, add_comm (ds.length : ℤ)]
    exact htail

end

section
variable {D : Type} [Zero D]

/-- The objects of a menu of dishes with given ids and without a price. -/
def labelDishes (fetch : ℕ) (ids : List (Option String)) : List (DishRef D) :=
  (ids.map fun dishId => dishOf dishId (0 : D)).mapIdx fun k dish => dish.object fetch 0 0 k

theorem mem_labelDishes {fetch : ℕ} {ids : List (Option String)} {d : DishRef D}
    (hd : d ∈ labelDishes fetch ids) : d.fetch = fetch ∧ d.dishName = d.dishId ∧ d.dishPrice = 0 ∧
      d.dishCalories = some 0 ∧ d.customizations = some false := by
  obtain ⟨k, hk, rfl⟩ := List.mem_mapIdx.mp hd
  rw [List.getElem_map]
  exact ⟨rfl, rfl, rfl, rfl, rfl⟩

theorem map_dishId_labelDishes (fetch : ℕ) (ids : List (Option String)) :
    (labelDishes (D := D) fetch ids).map DishRef.dishId = ids := by
  refine List.ext_getElem (by simp [labelDishes]) fun k hk hk' => ?_
  simp [labelDishes, CategoryDish.object, dishOf]

def labelMenu (ids : List (Option String)) : MenuModel (CategoryDish D) :=
  menuOf (ids.map fun dishId => dishOf dishId (0 : D))

def labelBody (ids : List (Option String)) : Response D :=
  .body (.ok (menuModelTree [labelMenu ids]))

/-- The next session's memory at the end of the fetch of such a menu. -/
def Memory.labelled (session : Session) (ids : List (Option String)) (s : Memory D) : Memory D :=
  { (HomePageController.fetchAPIData { s with toSession := session }).install [labelMenu ids] with
    isLoading := false }

theorem App.nextSession_labelBody [IntCast D] (session : Session) (ids : List (Option String))
    (s : Memory D) :
    App.nextSession session (labelBody ids) s = ⟨s.labelled session ids, .home⟩ := by
  have hdecode : (Except.ok (menuModelTree [labelMenu (D := D) ids])).bind menuModelOfTree =
      .ok [labelMenu ids] :=
    menuModelOfTree_menuOf fun dish hdish => by
      obtain ⟨dishId, _, rfl⟩ := List.mem_map.mp hdish
      exact ⟨dishId, 0, rfl⟩
  exact congrArg (fun memory => (⟨memory, .home⟩ : App D))
    (HomePageController.fetchAPIDataResume_ok hdecode _)

theorem Memory.dishes_labelled (session : Session) (ids : List (Option String)) (s : Memory D) :
    (s.labelled session ids).dishes = labelDishes s.fetches ids :=
  (Memory.dishes_install (labelMenu ids) [] _).trans (List.append_nil (labelDishes s.fetches ids))

end

section
variable {D : Type} [DartDouble D] [Mul D] [IntCast D]

/-- After the cleaning pass the page shows the rows of the residue. -/
theorem Memory.menuList_cleaned (s : Memory D) :
    CheckoutPage.menuList s.cleaned = s.residue.values.reduceOption := by
  rw [menuList_eq, Memory.cleaned, CartData.dishes_filter, Memory.residue,
    LinkedMap.values_mapValues, List.reduceOption, List.filterMap_map, ← List.filterMap_eq_map,
    List.filterMap_filter]
  refine List.filterMap_congr fun d _ => ?_
  rcases eq_or_ne (s.dishOrdeCount d) 0 with hzero | hne
  · simp [hzero]
  · simp [hne, CheckoutPage.cardContent]

/-- The row of one piece of a dish that is named as its id and costs nothing. -/
def labelRow [Zero D] (dishId : Option String) : Row D where
  dishName := dishId
  dishOrdeCount := 1
  lineTotal := 0 * ((1 : ℤ) : D)
  dishPrice := 0
  dishCalories := DartDouble.toInt (0 : D)

theorem labelRow_injective [Zero D] : Function.Injective (labelRow (D := D)) :=
  fun _ _ h => congrArg Row.dishName h

/-- A new menu of dishes from a new fetch leaves the residue as it is. -/
theorem Memory.residue_install [Zero D] {s : Memory D}
    (hs : ∀ d ∈ s.cartData.dishes, d.fetch < s.fetches)
    (menus : List (MenuModel (CategoryDish D))) : (s.install menus).residue = s.residue := by
  refine LinkedMap.ext_get? ?_ fun key _ => ?_
  · rw [Memory.residue, Memory.residue, LinkedMap.keys_mapValues, LinkedMap.keys_mapValues]
    rfl
  · rw [Memory.residue, Memory.residue, LinkedMap.get?_mapValues, LinkedMap.get?_mapValues]
    change (s.cartData.map.get? key).map _ = _
    cases hget : s.cartData.map.get? key with
    | none => rfl
    | some d =>
      have hne : d.fetch ≠ s.fetches := (hs d (CartData.get?_eq_some_iff.mp hget).1).ne
      have hcount : (s.install menus).dishOrdeCount d = s.dishOrdeCount d := if_neg hne
      simp only [Option.map_some, CheckoutPage.cardContent, hcount]

variable [DecidableEq D]

/-- A first piece of a dish writes its row under its id. -/
theorem Memory.residue_tapped {s : Memory D} {d : DishRef D} (hzero : s.dishOrdeCount d = 0) :
    (s.tapped d true).residue =
      s.residue.insert d.dishId (some (CheckoutPage.cardContent (s.tapped d true) d)) := by
  have hcount : (s.tapped d true).dishOrdeCount d = 1 :=
    (Order.apply_add_self _ d _).trans (by rw [hzero]; rfl)
  have hmap : (s.tapped d true).cartData.map = s.cartData.map.insert d.dishId d := by
    rw [Memory.tapped]
    exact congrArg CartData.map (if_neg fun h => Bool.noConfusion h.1)
  rw [Memory.residue, hmap]
  refine LinkedMap.ext_get? ?_ fun key _ => ?_
  · rw [LinkedMap.keys_mapValues, LinkedMap.keys_insert, LinkedMap.keys_insert, Memory.residue,
      LinkedMap.keys_mapValues]
  · rw [LinkedMap.get?_mapValues, LinkedMap.get?_insert, LinkedMap.get?_insert, Memory.residue,
      LinkedMap.get?_mapValues]
    split
    · simp [hcount]
    · rename_i hkey
      cases hget : s.cartData.map.get? key with
      | none => rfl
      | some e =>
        have hid : e.dishId = key := (CartData.get?_eq_some_iff.mp hget).2
        have hne : e ≠ d := fun hed => hkey (hid ▸ congrArg DishRef.dishId hed)
        have hsame : (s.tapped d true).dishOrdeCount e = s.dishOrdeCount e :=
          Order.apply_add_of_ne _ hne _
        simp only [Option.map_some, CheckoutPage.cardContent, hsame]

variable [Zero D]

theorem Memory.residue_orderAll {ds : List (DishRef D)} {s : Memory D} (hn : ds.Nodup)
    (hzero : ∀ d ∈ ds, s.dishOrdeCount d = 0)
    (hlabel : ∀ d ∈ ds, d.dishName = d.dishId ∧ d.dishPrice = 0 ∧ d.dishCalories = some 0) :
    (s.orderAll ds).residue =
      s.residue.overwrite (some ∘ labelRow) (ds.map DishRef.dishId) := by
  induction ds generalizing s with
  | nil => rfl
  | cons d ds ih =>
    obtain ⟨hd, hn⟩ := List.nodup_cons.mp hn
    obtain ⟨hname, hprice, hcalories⟩ := hlabel d List.mem_cons_self
    have hcount : (s.tapped d true).dishOrdeCount d = 1 :=
      (Order.apply_add_self _ d _).trans (by rw [hzero d List.mem_cons_self]; rfl)
    have hrow : CheckoutPage.cardContent (s.tapped d true) d = labelRow d.dishId := by
      rw [CheckoutPage.cardContent, hcount, hname, hprice, hcalories]
      rfl
    have hrest : ∀ e ∈ ds, (s.tapped d true).dishOrdeCount e = 0 := fun e he => by
      have hne : e ≠ d := fun hed => hd (hed ▸ he)
      exact (Order.apply_add_of_ne _ hne _).trans (hzero e (List.mem_cons_of_mem _ he))
    have htail := ih hn hrest fun e he => hlabel e (List.mem_cons_of_mem _ he)
    rw [Memory.residue_tapped (hzero d List.mem_cons_self), hrow] at htail
    exact htail

theorem Memory.residue_orderAll_labelled {s : Memory D} (hs : s.Allocated) (session : Session)
    (ids : List (Option String)) :
    ((s.labelled session ids).orderAll (labelDishes s.fetches ids)).residue =
      s.residue.overwrite (some ∘ labelRow) ids := by
  have hnodup : (labelDishes (D := D) s.fetches ids).Nodup := by
    rw [← Memory.dishes_labelled session ids s]
    exact Memory.nodup_dishes_install [labelMenu ids]
      (HomePageController.fetchAPIData { s with toSession := session })
  have hcount : ∀ d ∈ labelDishes s.fetches ids, (s.labelled session ids).dishOrdeCount d = 0 :=
    fun d hd => if_pos (mem_labelDishes hd).1
  have hlabel : ∀ d ∈ labelDishes (D := D) s.fetches ids,
      d.dishName = d.dishId ∧ d.dishPrice = 0 ∧ d.dishCalories = some 0 := fun d hd => by
    obtain ⟨_, hname, hprice, hcalories, _⟩ := mem_labelDishes hd
    exact ⟨hname, hprice, hcalories⟩
  have hsame : (s.labelled session ids).residue = s.residue :=
    Memory.residue_install (s := HomePageController.fetchAPIData { s with toSession := session })
      hs.held [labelMenu ids]
  rw [Memory.residue_orderAll hnodup hcount hlabel, map_dishId_labelDishes, hsame]

variable [Add D] [Sub D]

/-- Plus on the cards of a category from the `n`-th on. -/
theorem App.run_orderAll {ds : List (DishRef D)} {s : Memory D} {n : ℕ}
    (hat : ∀ k d, ds[k]? = some d → s.dishAt 0 (n + k) = some d)
    (hbuilt : ∀ d ∈ ds, d.built = true) (taps : List Tap) :
    (App.machine D).run ⟨s, .home⟩
        ((List.range' n ds.length).map (fun k => .dish true 0 k) ++ taps) =
      (App.machine D).run ⟨s.orderAll ds, .home⟩ taps := by
  induction ds generalizing s n with
  | nil => rfl
  | cons d ds ih =>
    have hrest : ∀ k e, ds[k]? = some e → (s.tapped d true).dishAt 0 (n + 1 + k) = some e :=
      fun k e he => by
        have hnext := hat (k + 1) e he
        rw [← add_assoc, add_right_comm] at hnext
        exact hnext
    have hd : s.dishAt 0 n = some d := hat 0 d rfl
    rw [List.length_cons, List.range'_succ, List.map_cons, List.cons_append,
      App.run_plus hd (hbuilt d List.mem_cons_self)]
    exact ih hrest fun e he => hbuilt e (List.mem_cons_of_mem _ he)

/-- Plus once on every card, then the cart icon. -/
def labelTaps (ids : List (Option String)) : List Tap :=
  (List.range' 0 ids.length).map (fun k => .dish true 0 k) ++ [.cartIcon]

/-- Ordering one piece of each dish of such a menu shows the overwritten residue. -/
theorem App.run_labels (hzero : (DartDouble.toInt (0 : D)).isSome = true) {s : Memory D}
    (hs : s.Allocated) (session : Session) {ids : List (Option String)} (hids : ids ≠ []) :
    ∃ app, (App.machine D).run (App.nextSession session (labelBody ids) s) (labelTaps ids) =
        some app ∧ ∃ heading total, app.screen.checkout = some
          ((s.residue.overwrite (some ∘ labelRow) ids).values.reduceOption, heading, total) := by
  let ds : List (DishRef D) := labelDishes s.fetches ids
  let m : Memory D := s.labelled session ids
  have hlength : ds.length = ids.length := by simp [ds, labelDishes]
  have hbuilt : ∀ d ∈ ds, d.built = true := fun d hd => by
    obtain ⟨_, _, _, hcalories, hcustom⟩ := mem_labelDishes hd
    rw [DishRef.built, hcalories, hcustom, Option.bind_some, hzero]
    rfl
  have hat : ∀ k d, ds[k]? = some d → m.dishAt 0 (0 + k) = some d := fun k d hd => by
    rw [Nat.zero_add]
    exact hd
  have hrun := App.run_orderAll hat hbuilt [.cartIcon]
  rw [hlength] at hrun
  have hcartCount : (m.orderAll ds).cartCount ≠ 0 := by
    have hpos : 0 < ids.length := List.length_pos_of_ne_nil hids
    rw [Memory.cartCount_orderAll, hlength]
    change (0 : ℤ) + ids.length ≠ 0
    omega
  rw [App.nextSession_labelBody]
  refine ⟨_, hrun.trans (App.run_cartIcon hcartCount),
    CheckoutPage.topHeading (m.orderAll ds).cleaned,
    (CheckoutPage.initState (m.orderAll ds).cleaned).totalPrice, ?_⟩
  rw [← Memory.residue_orderAll_labelled hs session, ← Memory.menuList_cleaned]
  rfl

/-! ## Isolation -/

/-- A tap puts no dish into the cart that is not on display. -/
theorem App.Step.allocated {app app' : App D} {tap : Tap} (hstep : app.Step tap app')
    (h : app.memory.Allocated) :
    app'.memory.Allocated ∧ app'.memory.fetches = app.memory.fetches := by
  cases hstep with
  | dish hd =>
    refine ⟨⟨h.displayed, fun e he => ?_⟩, rfl⟩
    rcases Memory.tapped_cases he with ⟨_, rfl⟩ | ⟨_, he, _⟩
    · exact h.displayed e (Singleton.mem_dishes_iff.mpr ⟨_, _, hd⟩)
    · exact h.held e he
  | refused | back => exact ⟨h, rfl⟩
  | opened =>
    refine ⟨⟨h.displayed, fun d hd => ?_⟩, rfl⟩
    rw [Memory.cleaned, CartData.dishes_filter] at hd
    exact h.held d (List.mem_of_mem_filter hd)
  | row => exact ⟨⟨h.displayed, h.held⟩, rfl⟩
  | ok => exact ⟨⟨h.displayed, fun d hd => by cases hd⟩, rfl⟩

theorem App.run_allocated {app app' : App D} {taps : List Tap} (h : app.memory.Allocated)
    (hrun : (App.machine D).run app taps = some app') :
    app'.memory.Allocated ∧ app'.memory.fetches = app.memory.fetches :=
  Machine.run_invariant
    (I := fun a => a.memory.Allocated ∧ a.memory.fetches = app.memory.fetches)
    (fun _ _ _ hI hstep =>
      have hnext := (App.step_sound hstep).allocated hI.1
      ⟨hnext.1, hnext.2.trans hI.2⟩) ⟨h, rfl⟩ hrun

/-- Every memory that the app reaches is allocated. -/
theorem Phone.run_allocated {events : List (Phone.Event D)} {p : Phone D}
    (hrun : (Phone.machine D).run {} events = some p) : p.memory.Allocated := by
  have hstart : ({} : Memory D).Allocated := ⟨fun d hd => (by cases hd), fun d hd => (by cases hd)⟩
  refine Machine.run_invariant (I := fun p => p.memory.Allocated) ?_ hstart hrun
  intro p e p' h hstep
  cases Phone.step_sound hstep with
  | created => exact ⟨fun d hd => (by cases hd), h.held⟩
  | installed hmenus =>
    refine ⟨fun d hd => ?_, fun d hd => (h.held d hd).trans (Nat.lt_succ_self _)⟩
    have hfetch : d.fetch = p.memory.fetches := Memory.fetch_of_mem_install hd
    exact hfetch ▸ Nat.lt_succ_self _
  | rejected | left => exact ⟨h.displayed, h.held⟩
  | tap _ happ => exact (happ.allocated h).1

/-- **Isolation of sessions.** After two histories of one session, the next session shows the same
at the end of its fetch and after any taps, whatever it fetches, if and only if the histories leave
the same residue. -/
theorem App.isolated_iff (hzero : (DartDouble.toInt (0 : D)).isSome = true) {s₀ s t : Memory D}
    (hs₀ : s₀.Allocated) {taps taps' : List Tap}
    (hs : (App.machine D).run ⟨s₀, .home⟩ taps = some ⟨s, .home⟩)
    (ht : (App.machine D).run ⟨s₀, .home⟩ taps' = some ⟨t, .home⟩) :
    (∀ (session session' : Session) (response : Response D) (next : List Tap),
      ((App.machine D).run (App.nextSession session response s) next).map App.screen =
        ((App.machine D).run (App.nextSession session' response t) next).map App.screen) ↔
      s.residue = t.residue := by
  obtain ⟨hallocs, hfetchs⟩ := App.run_allocated hs₀ hs
  obtain ⟨halloct, hfetcht⟩ := App.run_allocated hs₀ ht
  constructor
  · intro h
    refine LinkedMap.eq_of_overwrite labelRow_injective fun id ids => ?_
    obtain ⟨a, ha, heading, total, hshown⟩ :=
      App.run_labels hzero hallocs {} (List.cons_ne_nil id ids)
    obtain ⟨b, hb, heading', total', hshown'⟩ :=
      App.run_labels hzero halloct {} (List.cons_ne_nil id ids)
    have hsame := h {} {} (labelBody (id :: ids)) (labelTaps (id :: ids))
    rw [ha, hb] at hsame
    have hcheckout := congrArg Screen.checkout (Option.some.inj hsame)
    rw [hshown, hshown'] at hcheckout
    exact (Prod.mk.inj (Option.some.inj hcheckout)).1
  · intro h session session' response next
    have htwin := App.twin_nextSession h hallocs halloct (hfetchs.trans hfetcht.symm) session
      session' response
    exact htwin.map_screen_run next

end

/-- A body of two dishes. -/
def bodyOfTwo : Response ℚ :=
  .body (.ok (menuModelTree [menuOf [dishOf (some "1") 10, dishOf (some "2") 3]]))

theorem menuOfTwo_allocated : menuOfTwo.Allocated where
  displayed := by decide
  held d hd := by cases hd

/-- A look at the checkout page leaves nothing. -/
theorem App.isolated_iff_menuOfTwo : ∃ s t,
    (App.machine ℚ).run ⟨menuOfTwo, .home⟩ [.dish true 0 0, .dish true 0 1, .cartIcon, .back] =
      some ⟨s, .home⟩ ∧
    (App.machine ℚ).run ⟨menuOfTwo, .home⟩ [.dish true 0 0, .dish true 0 1] = some ⟨t, .home⟩ ∧
    ∀ next, ((App.machine ℚ).run (App.nextSession {} bodyOfTwo s) next).map App.screen =
      ((App.machine ℚ).run (App.nextSession {} bodyOfTwo t) next).map App.screen := by
  obtain ⟨s, hs⟩ : ∃ s, (App.machine ℚ).run ⟨menuOfTwo, .home⟩
    [.dish true 0 0, .dish true 0 1, .cartIcon, .back] = some ⟨s, .home⟩ := ⟨_, rfl⟩
  obtain ⟨t, ht⟩ : ∃ t, (App.machine ℚ).run ⟨menuOfTwo, .home⟩
    [.dish true 0 0, .dish true 0 1] = some ⟨t, .home⟩ := ⟨_, rfl⟩
  have hresidue : s.residue = t.residue := by
    cases hs
    cases ht
    exact LinkedMap.ext (by decide +kernel)
  have hiff := App.isolated_iff rfl menuOfTwo_allocated hs ht
  exact ⟨s, t, hs, ht, fun next => hiff.mpr hresidue {} {} bodyOfTwo next⟩

/-- After a session that ordered dish "1" the next user, who orders only dish "2", pays for both. -/
theorem App.leftover_billed : ∃ s,
    (App.machine ℚ).run ⟨menuOfTwo, .home⟩ [.dish true 0 0] = some ⟨s, .home⟩ ∧
    ((App.machine ℚ).run (App.nextSession {} bodyOfTwo s) [.dish true 0 1, .cartIcon]).map
      (fun app => app.screen.checkout.map Prod.snd) = some (some ((2, 1), 13)) ∧
    ((App.machine ℚ).run (App.nextSession {} bodyOfTwo menuOfTwo) [.dish true 0 1, .cartIcon]).map
      (fun app => app.screen.checkout.map Prod.snd) = some (some ((1, 1), 3)) := by
  refine ⟨_, rfl, ?_, ?_⟩
  · decide +kernel
  · decide +kernel

end MachineTest
