import MachineTest.Verify.MenuRoundTrip
import MachineTest.Verify.MenuSchema

/-! # What the decoder keeps of a document

The decoder reads the declared fields of a document and nothing else, so a server may add fields, at
any depth, and write them in any order. What it keeps is what the encoder writes: decoding the tree
of decoded menus gives the same menus. -/

namespace MachineTest

variable {D : Type} [IntCast D]

/-! ## Undeclared fields -/

namespace Json

variable {β : Type}

/-- The readers of a kind of the menu schema do not tell the trees apart. -/
def ReadAlike : Kind MenuClass → Json D → Json D → Prop
  | .record .menuModel, x, y => MenuModel.fromJson x = MenuModel.fromJson y
  | .record .tableMenuList, x, y => TableMenuList.fromJson x = TableMenuList.fromJson y
  | .record .categoryDish, x, y => CategoryDish.fromJson x = CategoryDish.fromJson y
  | .record .addonCat, x, y => AddonCat.fromJson x = AddonCat.fromJson y
  | .array kind, x, y => x = y ∨
      ∃ elems elems', x = .array elems ∧ y = .array elems' ∧
        List.Forall₂ (ReadAlike kind) elems elems'
  | .optional kind, x, y => ReadAlike kind x y
  | _, x, y => x = y

theorem ReadAlike.refl (kind : Kind MenuClass) (j : Json D) : ReadAlike kind j j := by
  induction kind with
  | record c => cases c <;> exact rfl
  | array => exact .inl rfl
  | optional _ ih => exact ih
  | _ => exact rfl

omit [IntCast D] in
/-- Lists whose elements are decoded alike. -/
theorem mapList_congr {f : Json D → Except DartError β} {R : Json D → Json D → Prop}
    (hR : ∀ x y, R x y → f x = f y) {x y : Json D} (h : x = y ∨ ∃ elems elems',
      x = .array elems ∧ y = .array elems' ∧ List.Forall₂ R elems elems') :
    x.mapList (fun x _ => f x) = y.mapList (fun x _ => f x) := by
  rcases h with rfl | ⟨elems, elems', rfl, rfl, hall⟩
  · rfl
  · rw [mapList_array, mapList_array]
    induction hall with
    | nil => rfl
    | cons hxy _ ih => rw [List.mapM_cons, List.mapM_cons, hR _ _ hxy, ih]

omit [IntCast D] in
theorem isNull_congr {R : Json D → Json D → Prop} {x y : Json D} (h : x = y ∨
    ∃ elems elems', x = .array elems ∧ y = .array elems' ∧ List.Forall₂ R elems elems') :
    x.isNull = y.isNull := by
  rcases h with rfl | ⟨elems, elems', rfl, rfl, _⟩ <;> rfl

end Json

section
variable {fields fields' : List (String × Json D)}

/-- The fields that a class declares are read alike. -/
abbrev FieldsAlike (c : MenuClass) (fields fields' : List (String × Json D)) : Prop :=
  (menuSchema c).Forall fun f =>
    Json.ReadAlike f.2 (Json.get fields f.1) (Json.get fields' f.1)

theorem CategoryDish.fromJson_congr (h : FieldsAlike .categoryDish fields fields') :
    CategoryDish.fromJson (.object fields) = CategoryDish.fromJson (.object fields') := by
  simp only [FieldsAlike, menuSchema, List.Forall, Json.ReadAlike] at h
  obtain ⟨hdishId, hdishName, hdishPrice, hdishImage, hdishCurrency, hdishCalories,
    hdishDescription, hdishAvailability, hdishType, hnexturl, haddonCat⟩ := h
  have hlist := Json.mapList_congr (f := AddonCat.fromJson) (fun _ _ h => h) haddonCat
  have hnull := Json.isNull_congr haddonCat
  rw [CategoryDish.fromJson, CategoryDish.fromJson, hdishId, hdishName, hdishPrice, hdishImage,
    hdishCurrency, hdishCalories, hdishDescription, hdishAvailability, hdishType, hnexturl, hlist,
    hnull]

theorem AddonCat.fromJson_congr (h : FieldsAlike .addonCat fields fields') :
    AddonCat.fromJson (.object fields) = AddonCat.fromJson (.object fields') := by
  simp only [FieldsAlike, menuSchema, List.Forall, Json.ReadAlike] at h
  obtain ⟨haddonCategory, haddonCategoryId, haddonSelection, hnexturl, haddons⟩ := h
  have hlist := Json.mapList_congr (f := CategoryDish.fromJson) (fun _ _ h => h) haddons
  rw [AddonCat.fromJson, AddonCat.fromJson, haddonCategory, haddonCategoryId, haddonSelection,
    hnexturl, hlist]

theorem TableMenuList.fromJson_congr (h : FieldsAlike .tableMenuList fields fields') :
    TableMenuList.fromJson (.object fields) = TableMenuList.fromJson (.object fields') := by
  simp only [FieldsAlike, menuSchema, List.Forall, Json.ReadAlike] at h
  obtain ⟨hmenuCategory, hmenuCategoryId, hmenuCategoryImage, hnexturl, hcategoryDishes⟩ := h
  have hlist := Json.mapList_congr (f := CategoryDish.fromJson) (fun _ _ h => h) hcategoryDishes
  rw [TableMenuList.fromJson, TableMenuList.fromJson, hmenuCategory, hmenuCategoryId,
    hmenuCategoryImage, hnexturl, hlist]

theorem MenuModel.fromJson_congr (h : FieldsAlike .menuModel fields fields') :
    MenuModel.fromJson (.object fields) = MenuModel.fromJson (.object fields') := by
  simp only [FieldsAlike, menuSchema, List.Forall, Json.ReadAlike] at h
  obtain ⟨hrestaurantId, hrestaurantName, hrestaurantImage, htableId, htableName, hbranchName,
    hnexturl, htableMenuList⟩ := h
  have hlist := Json.mapList_congr (f := TableMenuList.fromJson) (fun _ _ h => h) htableMenuList
  rw [MenuModel.fromJson, MenuModel.fromJson, hrestaurantId, hrestaurantName, hrestaurantImage,
    htableId, htableName, hbranchName, hnexturl, hlist]

/-- The factory of each class reads the declared fields only. -/
theorem FieldsAlike.readAlike {c : MenuClass} (h : FieldsAlike c fields fields') :
    Json.ReadAlike (.record c) (.object fields) (.object fields') := by
  cases c with
  | menuModel => exact MenuModel.fromJson_congr h
  | tableMenuList => exact TableMenuList.fromJson_congr h
  | categoryDish => exact CategoryDish.fromJson_congr h
  | addonCat => exact AddonCat.fromJson_congr h

end

/-- By induction on the derivation: an array is read alike when its elements are. -/
theorem Json.SameDeclared.readAlike {kind : Json.Kind MenuClass} {j j' : Json D}
    (h : Json.SameDeclared menuSchema kind j j') : Json.ReadAlike kind j j' := by
  induction h with
  | refl kind j => exact .refl kind j
  | record _ ih =>
    exact FieldsAlike.readAlike (List.forall_iff_forall_mem.mpr fun f hf => ih _ _ hf)
  | array hlength _ ih =>
    refine .inr ⟨_, _, rfl, rfl, List.forall₂_iff_zip.mpr ⟨hlength, fun hmem => ?_⟩⟩
    exact ih _ hmem
  | optional _ ih => exact ih

/-- **Undeclared fields are invisible.** Two documents that differ only in fields that no factory
reads, and in the order of fields, at any depth, decode to the same menus, or fail with the same
error. -/
theorem menuModelOfTree_congr {j j' : Json D}
    (h : Json.SameDeclared menuSchema menuDocument j j') : menuModelOfTree j = menuModelOfTree j' :=
  Json.mapList_congr (fun _ _ h => h) h.readAlike

omit [IntCast D] in
/-- An undeclared field of the dish is one of the document. -/
theorem sameDeclared_documentOf {dish dish' : List (String × Json D)}
    (h : Json.SameDeclared menuSchema (.record .categoryDish) (.object dish) (.object dish')) :
    Json.SameDeclared menuSchema menuDocument (documentOf dish) (documentOf dish') := by
  have hone {c : MenuClass} {x y : Json D} (hxy : Json.SameDeclared menuSchema (.record c) x y) :
      Json.SameDeclared menuSchema (.array (.record c)) (.array [x]) (.array [y]) := by
    refine .array rfl fun e he => ?_
    cases List.mem_singleton.mp he
    exact hxy
  refine hone (.record fun key kind hkind => ?_)
  by_cases hkey : key = "table_menu_list"
  · subst hkey
    simp [menuSchema] at hkind
    subst hkind
    refine hone (.record fun key kind hkind => ?_)
    by_cases hkey : key = "category_dishes"
    · subst hkey
      simp [menuSchema] at hkind
      subst hkind
      exact hone h
    · rw [Json.get_cons_of_ne hkey, Json.get_cons_of_ne hkey]
      exact .refl _ _
  · rw [Json.get_cons_of_ne hkey, Json.get_cons_of_ne hkey]
    exact .refl _ _

/-- A rating that is not read, and the fields of the dish from last to first. -/
theorem menuModelOfTree_congr_rating :
    menuModelOfTree (documentOf (("rating", .int 5) :: soupDish (.double 15))) =
        menuModelOfTree (documentOf (soupDish (.double 15))) ∧
      menuModelOfTree (documentOf (soupDish (.double 15)).reverse) =
        menuModelOfTree (documentOf (soupDish (.double 15))) := by
  constructor
  · exact menuModelOfTree_congr (sameDeclared_documentOf (.cons (by simp [menuSchema]) _ _))
  · refine menuModelOfTree_congr (sameDeclared_documentOf (.of_perm ?_ (List.reverse_perm _)))
    rw [List.map_reverse, List.nodup_reverse]
    simp [soupDish]

/-! ## Decoded menus -/

mutual
/-- The dish has a price and has not been ordered, at every depth. -/
inductive CategoryDish.Fresh : CategoryDish D → Prop
  | intro {dish : CategoryDish D} {price : D} : dish.dishPrice = some price →
    dish.dishOrdeCount = some 0 → (∀ cs, dish.addonCat = some cs → ∀ c ∈ cs, AddonCat.Fresh c) →
    CategoryDish.Fresh dish

inductive AddonCat.Fresh : AddonCat D → Prop
  | intro {addon : AddonCat D} : (∀ d ∈ addon.addons, CategoryDish.Fresh d) → AddonCat.Fresh addon
end

def MenuModel.Fresh (menu : MenuModel (CategoryDish D)) : Prop :=
  ∀ category ∈ menu.tableMenuList, ∀ dish ∈ category.categoryDishes, dish.Fresh

omit [IntCast D] in
/-- A decoded list holds what its elements decode to. -/
theorem Json.forall_of_forall₂ {β : Type} {f : Json D → Except DartError β} {P : β → Prop}
    {elems : List (Json D)} {ys : List β} (h : List.Forall₂ (fun x y => f x = .ok y) elems ys)
    (hP : ∀ x ∈ elems, ∀ y, f x = .ok y → P y) : ∀ y ∈ ys, P y := by
  induction h with
  | nil => exact fun y hy => absurd hy List.not_mem_nil
  | cons hx _ ih =>
    rw [List.forall_mem_cons]
    exact ⟨hP _ List.mem_cons_self _ hx, ih fun x hx => hP x (List.mem_cons_of_mem _ hx)⟩

mutual
theorem CategoryDish.fresh_of_fromJson (j : Json D) {dish : CategoryDish D}
    (h : CategoryDish.fromJson j = .ok dish) : dish.Fresh := by
  obtain ⟨fields, hj, hread⟩ := CategoryDish.fromJson_iff.mp h
  obtain ⟨price, _, hprice⟩ := hread.dishPrice
  refine .intro hprice hread.dishOrdeCount fun cs hcs => ?_
  rcases hread.addonCat with ⟨_, hnone⟩ | ⟨elems, addonCat, helems, hsome, hadds⟩
  · rw [hnone] at hcs
    cases hcs
  · rw [hsome] at hcs
    cases hcs
    exact Json.forall_of_forall₂ hadds fun x hx _ hadd => AddonCat.fresh_of_fromJson x hadd
termination_by sizeOf j
decreasing_by
  rw [hj]
  exact (Json.sizeOf_elem_lt hx).trans (helems ▸ Json.sizeOf_get_lt fields "addonCat")

theorem AddonCat.fresh_of_fromJson (j : Json D) {addon : AddonCat D}
    (h : AddonCat.fromJson j = .ok addon) : addon.Fresh := by
  obtain ⟨fields, hj, hread⟩ := AddonCat.fromJson_iff.mp h
  obtain ⟨elems, helems, hdishes⟩ := hread.addons
  exact .intro
    (Json.forall_of_forall₂ hdishes fun x hx _ hdish => CategoryDish.fresh_of_fromJson x hdish)
termination_by sizeOf j
decreasing_by
  rw [hj]
  exact (Json.sizeOf_elem_lt hx).trans (helems ▸ Json.sizeOf_get_lt fields "addons")
end

theorem MenuModel.fresh_of_fromJson {j : Json D} {menu : MenuModel (CategoryDish D)}
    (h : MenuModel.fromJson j = .ok menu) : menu.Fresh := by
  obtain ⟨_, _, hread⟩ := MenuModel.fromJson_iff.mp h
  obtain ⟨_, _, hcategories⟩ := hread.tableMenuList
  refine Json.forall_of_forall₂ hcategories fun x _ category hcategory => ?_
  obtain ⟨_, _, hread⟩ := TableMenuList.fromJson_iff.mp hcategory
  obtain ⟨_, _, hdishes⟩ := hread.categoryDishes
  exact Json.forall_of_forall₂ hdishes fun x _ _ hdish => CategoryDish.fresh_of_fromJson x hdish

omit [IntCast D] in
/-- Decoding element by element gives back the elements. -/
theorem Json.forall₂_map {β : Type} {f : Json D → Except DartError β} {g : β → Json D} {ys : List β}
    (h : ∀ y ∈ ys, f (g y) = .ok y) : List.Forall₂ (fun x y => f x = .ok y) (ys.map g) ys := by
  rw [List.forall₂_map_left_iff, List.forall₂_same]
  exact h

mutual
theorem CategoryDish.Fresh.fromJson_toJson {dish : CategoryDish D} :
    dish.Fresh → CategoryDish.fromJson dish.toJson = .ok dish
  | .intro hprice hcount hadds => by
    refine CategoryDish.fromJson_iff.mpr ⟨_, dish.toJson_eq, ?_⟩
    refine ⟨Json.asString_ofString _, Json.asString_ofString _, ⟨_, ?_, hprice⟩,
      Json.asString_ofString _, (dishCurrencyOf_reverse _).symm, Json.asDouble_ofDouble _,
      Json.asString_ofString _, Json.asBool_ofBool _, rfl, Json.asString_ofString _, ?_, hcount⟩
    · rw [hprice]
      rfl
    · cases hcat : dish.addonCat with
      | none => exact .inl ⟨rfl, rfl⟩
      | some cs =>
        refine .inr ⟨_, cs, rfl, rfl, Json.forall₂_map fun c hc => ?_⟩
        exact AddonCat.Fresh.fromJson_toJson (hadds cs hcat c hc)

theorem AddonCat.Fresh.fromJson_toJson {addon : AddonCat D} :
    addon.Fresh → AddonCat.fromJson addon.toJson = .ok addon
  | .intro hdishes =>
    AddonCat.fromJson_iff.mpr ⟨_, addon.toJson_eq, Json.asString_ofString _,
      Json.asString_ofString _, rfl, Json.asString_ofString _, _, rfl,
      Json.forall₂_map fun d hd => CategoryDish.Fresh.fromJson_toJson (hdishes d hd)⟩
end

theorem MenuModel.Fresh.fromJson_toJson {menu : MenuModel (CategoryDish D)} (h : menu.Fresh) :
    MenuModel.fromJson menu.toJson = .ok menu := by
  refine MenuModel.fromJson_iff.mpr ⟨_, rfl, Json.asString_ofString _, Json.asString_ofString _,
    Json.asString_ofString _, Json.asString_ofString _, Json.asString_ofString _,
    Json.asString_ofString _, Json.asString_ofString _, _, rfl,
    Json.forall₂_map fun category hcategory => ?_⟩
  exact TableMenuList.fromJson_iff.mpr ⟨_, rfl, Json.asString_ofString _, Json.asString_ofString _,
    Json.asString_ofString _, Json.asString_ofString _, _, rfl,
    Json.forall₂_map fun d hd => (h category hcategory d hd).fromJson_toJson⟩

theorem menuModelOfTree_of_fresh {menus : List (MenuModel (CategoryDish D))}
    (h : ∀ menu ∈ menus, menu.Fresh) : menuModelOfTree (menuModelTree menus) = .ok menus :=
  Json.mapList_eq_ok.mpr ⟨_, rfl, Json.forall₂_map fun menu hmenu => (h menu hmenu).fromJson_toJson⟩

/-- **The menus that can be decoded.** Menus are decoded from some document if and only if every
dish in them, at any depth, has a price and has not been ordered; and then the tree that is written
for them is such a document. -/
theorem decodable_iff (menus : List (MenuModel (CategoryDish D))) :
    ((∃ j, menuModelOfTree j = .ok menus) ↔ ∀ menu ∈ menus, menu.Fresh) ∧
      ((∃ j, menuModelOfTree j = .ok menus) ↔
        menuModelOfTree (menuModelTree menus) = .ok menus) := by
  have hfresh : (∃ j, menuModelOfTree j = .ok menus) → ∀ menu ∈ menus, menu.Fresh := by
    rintro ⟨j, h⟩
    obtain ⟨_, _, hmenus⟩ := Json.mapList_eq_ok.mp h
    exact Json.forall_of_forall₂ hmenus fun x _ _ hmenu => MenuModel.fresh_of_fromJson hmenu
  exact ⟨⟨hfresh, fun h => ⟨_, menuModelOfTree_of_fresh h⟩⟩,
    fun h => menuModelOfTree_of_fresh (hfresh h), fun h => ⟨_, h⟩⟩

/-! ## The names of an enumeration -/

namespace EnumValues

variable {T : Type} [DecidableEq T]

/-- The name of a value is the last one that it has. -/
theorem reverse_get? (values : EnumValues T) (v : T) : values.reverse.get? v =
    (values.map.entries.filter fun e => e.2 = v).getLast?.map Prod.fst := by
  rw [reverse, LinkedMap.get?_foldl_insert _ Prod.snd Prod.fst]
  exact Option.or_none

theorem map_of_reverse {values : EnumValues T} {v : T} {s : String}
    (h : values.reverse.get? v = some s) : values.map.get? s = some v := by
  rw [reverse_get?] at h
  obtain ⟨e, he, rfl⟩ := Option.map_eq_some_iff.mp h
  obtain ⟨hmem, hv⟩ := List.mem_filter.mp (List.mem_of_getLast? he)
  rw [LinkedMap.get?_eq_some_iff, ← of_decide_eq_true hv]
  exact hmem

theorem exists_reverse {values : EnumValues T} {v : T} {s : String}
    (h : values.map.get? s = some v) : ∃ s', values.reverse.get? v = some s' := by
  have hmem : (s, v) ∈ values.map.entries.filter fun e => e.2 = v :=
    List.mem_filter.mpr ⟨LinkedMap.get?_eq_some_iff.mp h, decide_eq_true rfl⟩
  rw [reverse_get?, List.getLast?_eq_some_getLast (List.ne_nil_of_mem hmem)]
  exact ⟨_, rfl⟩

/-- **Names and values.** `reverse` names exactly the values that have a name, the name it gives
leads back to the value, and it gives back every name if and only if no value has two. -/
theorem reverse_spec (values : EnumValues T) :
    (∀ v, (∃ s, values.reverse.get? v = some s) ↔ ∃ s, values.map.get? s = some v) ∧
      (∀ v s, values.reverse.get? v = some s → values.map.get? s = some v) ∧
      ((∀ v s, values.map.get? s = some v → values.reverse.get? v = some s) ↔
        values.map.values.Nodup) := by
  refine ⟨fun v => ⟨fun ⟨s, hs⟩ => ⟨s, map_of_reverse hs⟩, fun ⟨s, hs⟩ => exists_reverse hs⟩,
    fun v s hs => map_of_reverse hs, fun hall => ?_, fun hnodup v s hs => ?_⟩
  · refine (List.Nodup.of_map Prod.fst values.map.nodup).map_on fun e he e' he' hvalue => ?_
    have hname : values.reverse.get? e.2 = some e.1 :=
      hall _ _ (LinkedMap.get?_eq_some_iff.mpr he)
    have hname' : values.reverse.get? e'.2 = some e'.1 :=
      hall _ _ (LinkedMap.get?_eq_some_iff.mpr he')
    rw [← hvalue, hname] at hname'
    exact Prod.ext (Option.some.inj hname') hvalue
  · obtain ⟨s', hs'⟩ := exists_reverse hs
    have hentry := LinkedMap.get?_eq_some_iff.mp hs
    have hentry' := LinkedMap.get?_eq_some_iff.mp (map_of_reverse hs')
    have hsame : (s', v) = (s, v) := List.inj_on_of_nodup_map hnodup hentry' hentry rfl
    rw [hs', (Prod.mk.inj hsame).1]

end EnumValues

end MachineTest
