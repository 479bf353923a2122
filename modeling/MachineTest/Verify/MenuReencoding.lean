import MachineTest.Verify.MenuRoundTrip
import MachineTest.Verify.MenuSchema

/-! # Encoding what was decoded

The tree that `toJson` writes for a decoded document agrees with the document on every declared
field but two: a currency without a name in `dishCurrencyValues` comes back as null, and a price
written as an `int` comes back as the double nearest to it. The induction follows the document; one
level is one pass over the declared fields, as they were read and as they are written. -/

namespace MachineTest

variable {D : Type} [IntCast D] [DartDouble D]

/-- The dish has no currency or a known one, and a price that a double can hold. -/
def Kept (c : MenuClass) (j : Json D) : Prop :=
  match c with
  | .categoryDish =>
    (j.field "dish_currency" = .null ∨ j.field "dish_currency" = .string "SAR") ∧
      ∀ n, j.field "dish_price" = .int n → Json.Exact D n
  | _ => True

namespace Json

/-- In exact arithmetic every integer is held. -/
theorem exact_rat (n : ℤ) : Exact ℚ n := by
  simp [Exact, DartDouble.toInt]

/-- A `double` holds every integer below 2^53 in size. -/
theorem exact_of_natAbs_lt {n : ℤ} (h : n.natAbs < 2 ^ 53) : Exact Double n := by
  have hround : Double.roundNat n.natAbs = n.natAbs := if_pos h
  have hcast : (n : Double) = .finite (n.sign * Double.roundNat n.natAbs : ℤ) := rfl
  rw [Exact, hcast, hround, Int.sign_mul_natAbs]
  simp [DartDouble.toInt]

variable {ι β : Type} {S : Schema ι} {P : ι → Json D → Prop} {j : Json D}

theorem agrees_record {i : ι} {fields fields' : List (String × Json D)} :
    Agrees S (.record i) (.object fields) (.object fields') ↔
      (S i).Forall fun f => Agrees S f.2 (get fields f.1) (get fields' f.1) := by
  rw [List.forall_iff_forall_mem]
  refine ⟨fun h => ?_, fun h => .record fun key kind hkind => h _ hkind⟩
  cases h with
  | record h => exact fun f hf => h _ _ hf

theorem agrees_string {s : Option String} (h : j.asString = .ok s) :
    Agrees S (.optional .string) j (ofString s) := by
  cases j with
  | null => cases h; exact .null
  | string s => cases h; exact .present (.string (.refl _))
  | _ => cases h

theorem agrees_bool {b : Option Bool} (h : j.asBool = .ok b) :
    Agrees S (.optional .bool) j (ofBool b) := by
  cases j with
  | null => cases h; exact .null
  | bool b => cases h; exact .present (.bool (.refl _))
  | _ => cases h

theorem agrees_double {d : Option D} (h : j.asDouble = .ok d) :
    Agrees S (.optional .number) j (ofDouble d) := by
  cases j with
  | null => cases h; exact .null
  | double d => cases h; exact .present (.number (.refl _))
  | _ => cases h

/-- A price is kept if the double it is converted to has its value. -/
theorem agrees_price {d : D} (h : j.toDouble = .ok d) :
    Agrees S .number j (ofDouble (some d)) ↔ ∀ n, j = .int n → Exact D n := by
  cases j with
  | int n =>
    cases h
    constructor
    · intro hn m hm
      cases hm
      cases hn with
      | number hn => cases hn with | intDouble hn => exact hn
    · intro hn
      exact .number (.intDouble (hn n rfl))
  | double d =>
    cases h
    refine ⟨fun _ n hn => ?_, fun _ => .number (.refl _)⟩
    cases hn
  | _ => cases h

/-- A currency is kept if it has a name in `dishCurrencyValues`, or is null. -/
theorem agrees_currency :
    Agrees S .any j (ofString ((dishCurrencyOf j).bind dishCurrencyValues.reverse.get?)) ↔
      j = .null ∨ j = .string "SAR" := by
  have hlost : Agrees S .any j .null ↔ j = .null := by
    refine ⟨fun h => ?_, fun h => h ▸ .any (.refl _)⟩
    cases h with
    | any h => cases h; rfl
  cases j with
  | string s =>
    by_cases hs : s = "SAR"
    · subst hs
      exact ⟨fun _ => .inr rfl, fun _ => .any (.refl _)⟩
    · have hnone : dishCurrencyOf (.string s : Json D) = none := by
        rw [dishCurrencyOf, dishCurrencyValues, LinkedMap.get?_insert, if_neg hs]
        rfl
      rw [hnone]
      refine hlost.trans ⟨.inl, fun h => h.resolve_right fun h => hs ?_⟩
      cases h
      rfl
  | null => exact hlost.trans ⟨.inl, fun h => h.resolve_right fun h => by cases h⟩
  | _ => exact hlost.trans ⟨.inl, fun h => h.resolve_right fun h => by cases h⟩

/-- A list is kept if every element is. -/
theorem agrees_array (kind : Kind ι) {f : Json D → Except DartError β} {g : β → Json D}
    {elems : List (Json D)} {ys : List β} (h : List.Forall₂ (fun x y => f x = .ok y) elems ys)
    (hf : ∀ x ∈ elems, ∀ y, f x = .ok y → (Agrees S kind x (g y) ↔ Fits S P kind x)) :
    Agrees S (.array kind) (.array elems) (.array (ys.map g)) ↔
      Fits S P (.array kind) (.array elems) := by
  have hzip : (∀ e ∈ elems.zip (ys.map g), Agrees S kind e.1 e.2) ↔
      ∀ x ∈ elems, Fits S P kind x := by
    induction h with
    | nil => simp
    | cons hx _ ih =>
      rw [List.map_cons, List.zip_cons_cons, List.forall_mem_cons, List.forall_mem_cons,
        hf _ List.mem_cons_self _ hx, ih fun x hx => hf x (List.mem_cons_of_mem _ hx)]
  constructor
  · intro hagrees
    cases hagrees with
    | array _ hall => exact .array (hzip.mp hall)
  · intro hfits
    cases hfits with
    | array hall =>
      refine .array ?_ (hzip.mpr hall)
      rw [List.length_map, h.length_eq]

end Json

/-! ## Class by class -/

mutual
theorem CategoryDish.agrees_toJson_iff (j : Json D) {dish : CategoryDish D}
    (h : CategoryDish.fromJson j = .ok dish) :
    Json.Agrees menuSchema (.record .categoryDish) j dish.toJson ↔
      Json.Fits menuSchema Kept (.record .categoryDish) j := by
  obtain ⟨fields, hj, hread⟩ := CategoryDish.fromJson_iff.mp h
  obtain ⟨price, hprice, hdishPrice⟩ := hread.dishPrice
  have haddonCat : Json.Agrees menuSchema (.optional (.array (.record .addonCat)))
      (Json.get fields "addonCat")
      (dish.addonCat.elim .null fun cs => .array (cs.map AddonCat.toJson)) ↔
      Json.Fits menuSchema Kept (.optional (.array (.record .addonCat)))
        (Json.get fields "addonCat") := by
    rcases hread.addonCat with ⟨hnull, hnone⟩ | ⟨elems, addonCat, helems, hsome, hadds⟩
    · rw [hnull, hnone]
      exact iff_of_true .null .null
    · rw [helems, hsome]
      have harray := Json.agrees_array (S := menuSchema) (P := Kept)
        (.record .addonCat) hadds fun x hx addon hadd => AddonCat.agrees_toJson_iff x hadd
      constructor
      · intro hagrees
        cases hagrees with
        | present hagrees => exact .present (harray.mp hagrees)
      · intro hfits
        cases hfits with
        | present hfits => exact .present (harray.mpr hfits)
  have hcurrency : Json.Agrees menuSchema .any (Json.get fields "dish_currency")
      (.ofString (dish.dishCurrency.bind dishCurrencyValues.reverse.get?)) ↔ _ :=
    hread.dishCurrency ▸ Json.agrees_currency
  have hkept : Json.Agrees menuSchema .number (Json.get fields "dish_price")
      (.ofDouble dish.dishPrice) ↔ _ := hdishPrice ▸ Json.agrees_price hprice
  have htype : Json.Agrees menuSchema .any (Json.get fields "dish_Type") dish.dishType :=
    hread.dishType ▸ .any (.refl _)
  rw [CategoryDish.toJson_eq, hj, Json.agrees_record, Json.fits_record]
  constructor
  · intro hagrees
    obtain ⟨_, _, hagreesPrice, _, hagreesCurrency, _, _, _, _, _, hagreesAddonCat⟩ := hagrees
    exact ⟨fields, rfl, ⟨hcurrency.mp hagreesCurrency, hkept.mp hagreesPrice⟩,
      Json.asString_iff.mp ⟨_, hread.dishId⟩, Json.asString_iff.mp ⟨_, hread.dishName⟩,
      Json.toDouble_iff.mp ⟨_, hprice⟩, Json.asString_iff.mp ⟨_, hread.dishImage⟩, .any _,
      (Json.asDouble_iff.mp ⟨_, hread.dishCalories⟩).1,
      Json.asString_iff.mp ⟨_, hread.dishDescription⟩,
      Json.asBool_iff.mp ⟨_, hread.dishAvailability⟩, .any _,
      Json.asString_iff.mp ⟨_, hread.nexturl⟩, haddonCat.mp hagreesAddonCat⟩
  · intro hfits
    obtain ⟨_, hfields, hkeep, _, _, _, _, _, _, _, _, _, _, hfitsAddonCat⟩ := hfits
    cases hfields
    exact ⟨Json.agrees_string hread.dishId, Json.agrees_string hread.dishName,
      hkept.mpr hkeep.2, Json.agrees_string hread.dishImage, hcurrency.mpr hkeep.1,
      Json.agrees_double hread.dishCalories, Json.agrees_string hread.dishDescription,
      Json.agrees_bool hread.dishAvailability, htype, Json.agrees_string hread.nexturl,
      haddonCat.mpr hfitsAddonCat⟩
termination_by sizeOf j
decreasing_by
  rw [hj]
  exact (Json.sizeOf_elem_lt hx).trans (helems ▸ Json.sizeOf_get_lt fields "addonCat")

theorem AddonCat.agrees_toJson_iff (j : Json D) {addon : AddonCat D}
    (h : AddonCat.fromJson j = .ok addon) :
    Json.Agrees menuSchema (.record .addonCat) j addon.toJson ↔
      Json.Fits menuSchema Kept (.record .addonCat) j := by
  obtain ⟨fields, hj, hread⟩ := AddonCat.fromJson_iff.mp h
  obtain ⟨elems, helems, hdishes⟩ := hread.addons
  have haddons := Json.agrees_array (S := menuSchema) (P := Kept) (.record .categoryDish)
    hdishes fun x hx dish hdish => CategoryDish.agrees_toJson_iff x hdish
  have hselection : Json.Agrees menuSchema .any (Json.get fields "addon_selection")
      addon.addonSelection := hread.addonSelection ▸ .any (.refl _)
  rw [← helems] at haddons
  rw [AddonCat.toJson_eq, hj, Json.agrees_record, Json.fits_record]
  constructor
  · intro hagrees
    obtain ⟨_, _, _, _, hagrees⟩ := hagrees
    exact ⟨fields, rfl, trivial, Json.asString_iff.mp ⟨_, hread.addonCategory⟩,
      Json.asString_iff.mp ⟨_, hread.addonCategoryId⟩, .any _,
      Json.asString_iff.mp ⟨_, hread.nexturl⟩, haddons.mp hagrees⟩
  · intro hfits
    obtain ⟨_, hfields, _, _, _, _, _, hfits⟩ := hfits
    cases hfields
    exact ⟨Json.agrees_string hread.addonCategory, Json.agrees_string hread.addonCategoryId,
      hselection, Json.agrees_string hread.nexturl, haddons.mpr hfits⟩
termination_by sizeOf j
decreasing_by
  rw [hj]
  exact (Json.sizeOf_elem_lt hx).trans (helems ▸ Json.sizeOf_get_lt fields "addons")
end

theorem TableMenuList.agrees_toJson_iff {j : Json D} {category : TableMenuList (CategoryDish D)}
    (h : TableMenuList.fromJson j = .ok category) :
    Json.Agrees menuSchema (.record .tableMenuList) j category.toJson ↔
      Json.Fits menuSchema Kept (.record .tableMenuList) j := by
  obtain ⟨fields, rfl, hread⟩ := TableMenuList.fromJson_iff.mp h
  obtain ⟨elems, helems, hdishes⟩ := hread.categoryDishes
  have hcategoryDishes := Json.agrees_array (S := menuSchema) (P := Kept)
    (.record .categoryDish) hdishes fun x _ dish hdish => CategoryDish.agrees_toJson_iff x hdish
  rw [← helems] at hcategoryDishes
  rw [TableMenuList.toJson, Json.agrees_record, Json.fits_record]
  constructor
  · intro hagrees
    obtain ⟨_, _, _, _, hagrees⟩ := hagrees
    exact ⟨fields, rfl, trivial, Json.asString_iff.mp ⟨_, hread.menuCategory⟩,
      Json.asString_iff.mp ⟨_, hread.menuCategoryId⟩,
      Json.asString_iff.mp ⟨_, hread.menuCategoryImage⟩, Json.asString_iff.mp ⟨_, hread.nexturl⟩,
      hcategoryDishes.mp hagrees⟩
  · intro hfits
    obtain ⟨_, hfields, _, _, _, _, _, hfits⟩ := hfits
    cases hfields
    exact ⟨Json.agrees_string hread.menuCategory, Json.agrees_string hread.menuCategoryId,
      Json.agrees_string hread.menuCategoryImage, Json.agrees_string hread.nexturl,
      hcategoryDishes.mpr hfits⟩

theorem MenuModel.agrees_toJson_iff {j : Json D} {menu : MenuModel (CategoryDish D)}
    (h : MenuModel.fromJson j = .ok menu) :
    Json.Agrees menuSchema (.record .menuModel) j menu.toJson ↔
      Json.Fits menuSchema Kept (.record .menuModel) j := by
  obtain ⟨fields, rfl, hread⟩ := MenuModel.fromJson_iff.mp h
  obtain ⟨elems, helems, hcategories⟩ := hread.tableMenuList
  have htableMenuList := Json.agrees_array (S := menuSchema) (P := Kept)
    (.record .tableMenuList) hcategories
    fun x _ category hcategory => TableMenuList.agrees_toJson_iff hcategory
  rw [← helems] at htableMenuList
  rw [MenuModel.toJson, Json.agrees_record, Json.fits_record]
  constructor
  · intro hagrees
    obtain ⟨_, _, _, _, _, _, _, hagrees⟩ := hagrees
    exact ⟨fields, rfl, trivial, Json.asString_iff.mp ⟨_, hread.restaurantId⟩,
      Json.asString_iff.mp ⟨_, hread.restaurantName⟩,
      Json.asString_iff.mp ⟨_, hread.restaurantImage⟩, Json.asString_iff.mp ⟨_, hread.tableId⟩,
      Json.asString_iff.mp ⟨_, hread.tableName⟩, Json.asString_iff.mp ⟨_, hread.branchName⟩,
      Json.asString_iff.mp ⟨_, hread.nexturl⟩, htableMenuList.mp hagrees⟩
  · intro hfits
    obtain ⟨_, hfields, _, _, _, _, _, _, _, _, hfits⟩ := hfits
    cases hfields
    exact ⟨Json.agrees_string hread.restaurantId, Json.agrees_string hread.restaurantName,
      Json.agrees_string hread.restaurantImage, Json.agrees_string hread.tableId,
      Json.agrees_string hread.tableName, Json.agrees_string hread.branchName,
      Json.agrees_string hread.nexturl, htableMenuList.mpr hfits⟩

/-- Every dish of the document, at any depth, has no currency or a known one, and a price that a
double can hold. -/
def AllKept (j : Json D) : Prop :=
  ∀ dish, Json.Occurs menuSchema .categoryDish dish menuDocument j → Kept .categoryDish dish

/-- **Encoding undoes decoding.** What is written for the menus of an accepted document agrees with
the document on every declared field, at every depth, if and only if every currency in it is known
and every price is held by a double. -/
theorem menuModelTree_agrees_iff {j : Json D} {menus : List (MenuModel (CategoryDish D))}
    (h : menuModelOfTree j = .ok menus) :
    Json.Agrees menuSchema menuDocument j (menuModelTree menus) ↔ AllKept j := by
  have hschema : InSchema j := (accepted_iff.mp ⟨menus, h⟩).1
  obtain ⟨elems, rfl, hmenus⟩ := Json.mapList_eq_ok.mp h
  rw [menuModelTree,
    Json.agrees_array _ hmenus fun x _ menu hmenu => MenuModel.agrees_toJson_iff hmenu,
    Json.fits_iff, and_iff_right hschema]
  refine ⟨fun hall dish hdish => hall _ dish hdish, fun hall c r hr => ?_⟩
  cases c with
  | categoryDish => exact hall r hr
  | _ => trivial

theorem menuModelTree_agrees_iff_soupDish :
    ∃ menus, menuModelOfTree (documentOf (soupDish (.double 15))) = .ok menus ∧
      (Json.Agrees menuSchema menuDocument (documentOf (soupDish (.double 15)))
        (menuModelTree menus) ↔ AllKept (documentOf (soupDish (.double 15)))) := by
  obtain ⟨menus, h⟩ := accepted_soupDish 15
  exact ⟨menus, h, menuModelTree_agrees_iff h⟩

/-- A dish at 10 rupees. -/
def rupeeDish : List (String × Json ℚ) :=
  [("dish_price", .double 10), ("dish_currency", .string "INR")]

theorem fits_rupeeDish :
    Json.Fits menuSchema DecimalCalories (.record .categoryDish) (.object rupeeDish) := by
  have hdecimal : DecimalCalories .categoryDish (.object rupeeDish) := fun n hn => by cases hn
  exact Json.fits_record.mpr ⟨_, rfl, hdecimal, .null, .null, .double _, .null, .any _, .null,
    .null, .null, .any _, .null, .null⟩

/-- Its menu is accepted, and comes back without the currency. -/
theorem currency_lost :
    (∃ dish, CategoryDish.fromJson (.object rupeeDish) = .ok dish ∧
      dish.toJson.field "dish_currency" = .null) ∧
    ∃ menus, menuModelOfTree (documentOf rupeeDish) = .ok menus ∧
      ¬ Json.Agrees menuSchema menuDocument (documentOf rupeeDish) (menuModelTree menus) := by
  obtain ⟨dish, hdish⟩ := (CategoryDish.exists_fromJson_iff _).mpr fits_rupeeDish
  obtain ⟨menus, hmenus⟩ := accepted_iff_fits.mpr
    (fits_documentOf (fun _ => trivial) (fun _ => trivial) fits_rupeeDish)
  refine ⟨⟨dish, hdish, ?_⟩, menus, hmenus, fun hagrees => ?_⟩
  · obtain ⟨fields, hfields, hread⟩ := CategoryDish.fromJson_iff.mp hdish
    cases hfields
    have hcurrency : dish.dishCurrency = none := hread.dishCurrency
    rw [CategoryDish.toJson_eq, hcurrency]
    rfl
  · obtain ⟨hcurrency, _⟩ :=
      (menuModelTree_agrees_iff hmenus).mp hagrees _ (occurs_documentOf rupeeDish)
    rcases hcurrency with hnull | hsar
    · cases hnull
    · have hne : "INR" ≠ "SAR" := by decide
      exact hne (Json.string.inj hsar)

end MachineTest
