import Mathlib.Data.List.Forall2
import MachineTest.Model.MenuModel
import MachineTest.Model.Schema

/-! # The menu schema

The factories, one lemma each: what a record that is decoded says about its fields
(`CategoryDish.fromJson_iff` and its kind). From them, by induction on the tree, the documents that
`menuModelFromJson` accepts are those of the schema in which no calories are written as an `int`. -/

namespace MachineTest

variable {D : Type} [IntCast D]

namespace Json

variable {β γ : Type}

theorem mapM_eq_ok {ε : Type} {f : β → Except ε γ} {xs : List β} {ys : List γ} :
    xs.mapM f = .ok ys ↔ List.Forall₂ (fun x y => f x = .ok y) xs ys := by
  induction xs generalizing ys with
  | nil =>
    rw [List.mapM_nil, List.forall₂_nil_left_iff]
    exact ⟨fun h => by cases h; rfl, fun h => by rw [h]; rfl⟩
  | cons x xs ih =>
    rw [List.mapM_cons, bind_eq_ok, List.forall₂_cons_left_iff]
    constructor
    · rintro ⟨y, hy, h⟩
      obtain ⟨ys', hys, h⟩ := bind_eq_ok.mp h
      cases h
      exact ⟨y, ys', hy, ih.mp hys, rfl⟩
    · rintro ⟨y, ys', hy, hys, rfl⟩
      exact ⟨y, hy, bind_eq_ok.mpr ⟨ys', ih.mpr hys, rfl⟩⟩

theorem map_eq_ok {x : Except DartError β} {f : β → γ} {r : γ} :
    f <$> x = .ok r ↔ ∃ a, x = .ok a ∧ f a = r := by
  cases x <;> simp [Functor.map, Except.map]

omit [IntCast D] in
theorem isNull_iff {j : Json D} : j.isNull = true ↔ j = .null := by
  cases j <;> simp [isNull]

omit [IntCast D] in
theorem mapList_eq_ok {j : Json D} {f : Json D → Except DartError β} {ys : List β} :
    j.mapList (fun x _ => f x) = .ok ys ↔
      ∃ elems, j = .array elems ∧ List.Forall₂ (fun x y => f x = .ok y) elems ys := by
  cases j with
  | array elems =>
    rw [mapList_array, mapM_eq_ok]
    constructor
    · intro h
      exact ⟨elems, rfl, h⟩
    · rintro ⟨_, h, hys⟩
      cases h
      exact hys
  | _ =>
    constructor
    · intro h
      cases h
    · rintro ⟨_, h, _⟩
      cases h

end Json

/-! ## What a decoded record says about its fields -/

/-- The dish that `CategoryDish.fromJson` builds from an object. -/
structure CategoryDish.ReadFrom (json : List (String × Json D)) (dish : CategoryDish D) :
    Prop where
  dishId : (Json.get json "dish_id").asString = .ok dish.dishId
  dishName : (Json.get json "dish_name").asString = .ok dish.dishName
  dishPrice : ∃ price, (Json.get json "dish_price").toDouble = .ok price ∧
    dish.dishPrice = some price
  dishImage : (Json.get json "dish_image").asString = .ok dish.dishImage
  dishCurrency : dish.dishCurrency = dishCurrencyOf (Json.get json "dish_currency")
  dishCalories : (Json.get json "dish_calories").asDouble = .ok dish.dishCalories
  dishDescription : (Json.get json "dish_description").asString = .ok dish.dishDescription
  dishAvailability : (Json.get json "dish_Availability").asBool = .ok dish.dishAvailability
  dishType : dish.dishType = Json.get json "dish_Type"
  nexturl : (Json.get json "nexturl").asString = .ok dish.nexturl
  addonCat : (Json.get json "addonCat" = .null ∧ dish.addonCat = none) ∨
    ∃ elems addonCat, Json.get json "addonCat" = .array elems ∧ dish.addonCat = some addonCat ∧
      List.Forall₂ (fun x addon => AddonCat.fromJson x = .ok addon) elems addonCat
  dishOrdeCount : dish.dishOrdeCount = some 0

structure AddonCat.ReadFrom (json : List (String × Json D)) (addon : AddonCat D) : Prop where
  addonCategory : (Json.get json "addon_category").asString = .ok addon.addonCategory
  addonCategoryId : (Json.get json "addon_category_id").asString = .ok addon.addonCategoryId
  addonSelection : addon.addonSelection = Json.get json "addon_selection"
  nexturl : (Json.get json "nexturl").asString = .ok addon.nexturl
  addons : ∃ elems, Json.get json "addons" = .array elems ∧
    List.Forall₂ (fun x dish => CategoryDish.fromJson x = .ok dish) elems addon.addons

structure TableMenuList.ReadFrom (json : List (String × Json D))
    (category : TableMenuList (CategoryDish D)) : Prop where
  menuCategory : (Json.get json "menu_category").asString = .ok category.menuCategory
  menuCategoryId : (Json.get json "menu_category_id").asString = .ok category.menuCategoryId
  menuCategoryImage :
    (Json.get json "menu_category_image").asString = .ok category.menuCategoryImage
  nexturl : (Json.get json "nexturl").asString = .ok category.nexturl
  categoryDishes : ∃ elems, Json.get json "category_dishes" = .array elems ∧
    List.Forall₂ (fun x dish => CategoryDish.fromJson x = .ok dish) elems category.categoryDishes

structure MenuModel.ReadFrom (json : List (String × Json D)) (menu : MenuModel (CategoryDish D)) :
    Prop where
  restaurantId : (Json.get json "restaurant_id").asString = .ok menu.restaurantId
  restaurantName : (Json.get json "restaurant_name").asString = .ok menu.restaurantName
  restaurantImage : (Json.get json "restaurant_image").asString = .ok menu.restaurantImage
  tableId : (Json.get json "table_id").asString = .ok menu.tableId
  tableName : (Json.get json "table_name").asString = .ok menu.tableName
  branchName : (Json.get json "branch_name").asString = .ok menu.branchName
  nexturl : (Json.get json "nexturl").asString = .ok menu.nexturl
  tableMenuList : ∃ elems, Json.get json "table_menu_list" = .array elems ∧
    List.Forall₂ (fun x category => TableMenuList.fromJson x = .ok category) elems
      menu.tableMenuList

theorem CategoryDish.fromJson_iff {json : Json D} {dish : CategoryDish D} :
    CategoryDish.fromJson json = .ok dish ↔
      ∃ fields, json = .object fields ∧ CategoryDish.ReadFrom fields dish := by
  constructor
  · intro h
    cases json with
    | object fields =>
      refine ⟨fields, rfl, ?_⟩
      rw [CategoryDish.fromJson] at h
      obtain ⟨dishId, hdishId, h⟩ := Json.bind_eq_ok.mp h
      obtain ⟨dishName, hdishName, h⟩ := Json.bind_eq_ok.mp h
      obtain ⟨dishPrice, hdishPrice, h⟩ := Json.bind_eq_ok.mp h
      obtain ⟨dishImage, hdishImage, h⟩ := Json.bind_eq_ok.mp h
      obtain ⟨dishCalories, hdishCalories, h⟩ := Json.bind_eq_ok.mp h
      obtain ⟨dishDescription, hdishDescription, h⟩ := Json.bind_eq_ok.mp h
      obtain ⟨dishAvailability, hdishAvailability, h⟩ := Json.bind_eq_ok.mp h
      obtain ⟨nexturl, hnexturl, h⟩ := Json.bind_eq_ok.mp h
      split at h
      · rename_i hnull
        obtain ⟨_, haddonCat, h⟩ := Json.bind_eq_ok.mp h
        cases haddonCat
        cases h
        exact ⟨hdishId, hdishName, ⟨dishPrice, hdishPrice, rfl⟩, hdishImage, rfl, hdishCalories,
          hdishDescription, hdishAvailability, rfl, hnexturl,
          .inl ⟨Json.isNull_iff.mp hnull, rfl⟩, rfl⟩
      · obtain ⟨_, haddonCat, h⟩ := Json.bind_eq_ok.mp h
        cases h
        obtain ⟨addons, hlist, rfl⟩ := Json.map_eq_ok.mp haddonCat
        obtain ⟨elems, helems, hadds⟩ := Json.mapList_eq_ok.mp hlist
        exact ⟨hdishId, hdishName, ⟨dishPrice, hdishPrice, rfl⟩, hdishImage, rfl, hdishCalories,
          hdishDescription, hdishAvailability, rfl, hnexturl,
          .inr ⟨elems, addons, helems, rfl, hadds⟩, rfl⟩
    | null => rw [CategoryDish.fromJson] at h; cases h
    | _ => simp [CategoryDish.fromJson] at h
  · rintro ⟨fields, rfl, h⟩
    obtain ⟨price, hprice, hdishPrice⟩ := h.dishPrice
    rcases h.addonCat with ⟨hnull, hnone⟩ | ⟨elems, addonCat, helems, hsome, hadds⟩
    · simp only [CategoryDish.fromJson, h.dishId, h.dishName, hprice, h.dishImage,
        h.dishCalories, h.dishDescription, h.dishAvailability, h.nexturl, hnull, Json.isNull,
        ← h.dishCurrency, ← h.dishType]
      cases dish
      cases hdishPrice
      cases hnone
      cases h.dishOrdeCount
      rfl
    · have hlist := Json.mapList_eq_ok.mpr ⟨elems, helems, hadds⟩
      simp only [CategoryDish.fromJson, h.dishId, h.dishName, hprice, h.dishImage,
        h.dishCalories, h.dishDescription, h.dishAvailability, h.nexturl, hlist,
        ← h.dishCurrency, ← h.dishType]
      rw [helems]
      cases dish
      cases hdishPrice
      cases hsome
      cases h.dishOrdeCount
      rfl

theorem AddonCat.fromJson_iff {json : Json D} {addon : AddonCat D} :
    AddonCat.fromJson json = .ok addon ↔
      ∃ fields, json = .object fields ∧ AddonCat.ReadFrom fields addon := by
  constructor
  · intro h
    cases json with
    | object fields =>
      refine ⟨fields, rfl, ?_⟩
      rw [AddonCat.fromJson] at h
      obtain ⟨addonCategory, haddonCategory, h⟩ := Json.bind_eq_ok.mp h
      obtain ⟨addonCategoryId, haddonCategoryId, h⟩ := Json.bind_eq_ok.mp h
      obtain ⟨nexturl, hnexturl, h⟩ := Json.bind_eq_ok.mp h
      obtain ⟨addons, haddons, h⟩ := Json.bind_eq_ok.mp h
      cases h
      exact ⟨haddonCategory, haddonCategoryId, rfl, hnexturl, Json.mapList_eq_ok.mp haddons⟩
    | null => rw [AddonCat.fromJson] at h; cases h
    | _ => simp [AddonCat.fromJson] at h
  · rintro ⟨fields, rfl, h⟩
    simp only [AddonCat.fromJson, h.addonCategory, h.addonCategoryId, h.nexturl,
      Json.mapList_eq_ok.mpr h.addons, ← h.addonSelection]
    cases addon
    rfl

theorem TableMenuList.fromJson_iff {json : Json D} {category : TableMenuList (CategoryDish D)} :
    TableMenuList.fromJson json = .ok category ↔
      ∃ fields, json = .object fields ∧ TableMenuList.ReadFrom fields category := by
  constructor
  · intro h
    cases json with
    | object fields =>
      refine ⟨fields, rfl, ?_⟩
      obtain ⟨menuCategory, hmenuCategory, h⟩ := Json.bind_eq_ok.mp h
      obtain ⟨menuCategoryId, hmenuCategoryId, h⟩ := Json.bind_eq_ok.mp h
      obtain ⟨menuCategoryImage, hmenuCategoryImage, h⟩ := Json.bind_eq_ok.mp h
      obtain ⟨nexturl, hnexturl, h⟩ := Json.bind_eq_ok.mp h
      obtain ⟨categoryDishes, hcategoryDishes, h⟩ := Json.bind_eq_ok.mp h
      cases h
      exact ⟨hmenuCategory, hmenuCategoryId, hmenuCategoryImage, hnexturl,
        Json.mapList_eq_ok.mp hcategoryDishes⟩
    | _ => cases h
  · rintro ⟨fields, rfl, h⟩
    simp only [TableMenuList.fromJson, h.menuCategory, h.menuCategoryId, h.menuCategoryImage,
      h.nexturl, Json.mapList_eq_ok.mpr h.categoryDishes]
    rfl

theorem MenuModel.fromJson_iff {json : Json D} {menu : MenuModel (CategoryDish D)} :
    MenuModel.fromJson json = .ok menu ↔
      ∃ fields, json = .object fields ∧ MenuModel.ReadFrom fields menu := by
  constructor
  · intro h
    cases json with
    | object fields =>
      refine ⟨fields, rfl, ?_⟩
      obtain ⟨restaurantId, hrestaurantId, h⟩ := Json.bind_eq_ok.mp h
      obtain ⟨restaurantName, hrestaurantName, h⟩ := Json.bind_eq_ok.mp h
      obtain ⟨restaurantImage, hrestaurantImage, h⟩ := Json.bind_eq_ok.mp h
      obtain ⟨tableId, htableId, h⟩ := Json.bind_eq_ok.mp h
      obtain ⟨tableName, htableName, h⟩ := Json.bind_eq_ok.mp h
      obtain ⟨branchName, hbranchName, h⟩ := Json.bind_eq_ok.mp h
      obtain ⟨nexturl, hnexturl, h⟩ := Json.bind_eq_ok.mp h
      obtain ⟨tableMenuList, htableMenuList, h⟩ := Json.bind_eq_ok.mp h
      cases h
      exact ⟨hrestaurantId, hrestaurantName, hrestaurantImage, htableId, htableName, hbranchName,
        hnexturl, Json.mapList_eq_ok.mp htableMenuList⟩
    | _ => cases h
  · rintro ⟨fields, rfl, h⟩
    simp only [MenuModel.fromJson, h.restaurantId, h.restaurantName, h.restaurantImage, h.tableId,
      h.tableName, h.branchName, h.nexturl, Json.mapList_eq_ok.mpr h.tableMenuList]
    rfl

/-! ## The schema -/

/-- The classes of records of a menu. -/
inductive MenuClass where
  | menuModel
  | tableMenuList
  | categoryDish
  | addonCat

open Json.Kind in
/-- The declared fields. -/
def menuSchema : Json.Schema MenuClass
  | .menuModel => [
    ("restaurant_id", optional string),
    ("restaurant_name", optional string),
    ("restaurant_image", optional string),
    ("table_id", optional string),
    ("table_name", optional string),
    ("branch_name", optional string),
    ("nexturl", optional string),
    ("table_menu_list", array (record .tableMenuList))]
  | .tableMenuList => [
    ("menu_category", optional string),
    ("menu_category_id", optional string),
    ("menu_category_image", optional string),
    ("nexturl", optional string),
    ("category_dishes", array (record .categoryDish))]
  | .categoryDish => [
    ("dish_id", optional string),
    ("dish_name", optional string),
    ("dish_price", number),
    ("dish_image", optional string),
    ("dish_currency", any),
    ("dish_calories", optional number),
    ("dish_description", optional string),
    ("dish_Availability", optional bool),
    ("dish_Type", any),
    ("nexturl", optional string),
    ("addonCat", optional (array (record .addonCat)))]
  | .addonCat => [
    ("addon_category", optional string),
    ("addon_category_id", optional string),
    ("addon_selection", any),
    ("nexturl", optional string),
    ("addons", array (record .categoryDish))]

/-- A document is a list of menus. -/
abbrev menuDocument : Json.Kind MenuClass := .array (.record .menuModel)

/-- The calories of a dish are not written as an `int`. -/
def DecimalCalories (c : MenuClass) (j : Json D) : Prop :=
  match c with
  | .categoryDish => ∀ n, j.field "dish_calories" ≠ .int n
  | _ => True

namespace Json

variable {ι β γ : Type} {S : Schema ι} {P : ι → Json D → Prop} {j : Json D}

omit [IntCast D]

theorem asString_iff : (∃ s, j.asString = .ok s) ↔ Fits S P (.optional .string) j := by
  constructor
  · rintro ⟨s, hs⟩
    cases j with
    | null => exact .null
    | string s => exact .present (.string s)
    | _ => cases hs
  · intro h
    rcases fits_optional.mp h with rfl | h
    · exact ⟨none, rfl⟩
    · cases h
      exact ⟨_, rfl⟩

theorem asBool_iff : (∃ b, j.asBool = .ok b) ↔ Fits S P (.optional .bool) j := by
  constructor
  · rintro ⟨b, hb⟩
    cases j with
    | null => exact .null
    | bool b => exact .present (.bool b)
    | _ => cases hb
  · intro h
    rcases fits_optional.mp h with rfl | h
    · exact ⟨none, rfl⟩
    · cases h
      exact ⟨_, rfl⟩

/-- An `int` is a number, but not a `double`. -/
theorem asDouble_iff :
    (∃ d, j.asDouble = .ok d) ↔ Fits S P (.optional .number) j ∧ ∀ n, j ≠ .int n := by
  constructor
  · rintro ⟨d, hd⟩
    cases j with
    | null => exact ⟨.null, fun n h => by cases h⟩
    | double d => exact ⟨.present (.double d), fun n h => by cases h⟩
    | _ => cases hd
  · rintro ⟨h, hint⟩
    rcases fits_optional.mp h with rfl | h
    · exact ⟨none, rfl⟩
    · cases h with
      | int n => exact (hint n rfl).elim
      | double d => exact ⟨some d, rfl⟩

theorem toDouble_iff [IntCast D] : (∃ d, j.toDouble = .ok d) ↔ Fits S P .number j := by
  constructor
  · rintro ⟨d, hd⟩
    cases j with
    | int n => exact .int n
    | double d => exact .double d
    | _ => cases hd
  · intro h
    cases h <;> exact ⟨_, rfl⟩

theorem exists_forall₂ {R : β → γ → Prop} {xs : List β} :
    (∃ ys, List.Forall₂ R xs ys) ↔ ∀ x ∈ xs, ∃ y, R x y := by
  induction xs with
  | nil => exact ⟨fun _ x hx => (List.not_mem_nil hx).elim, fun _ => ⟨[], .nil⟩⟩
  | cons x xs ih =>
    rw [List.forall_mem_cons, ← ih]
    constructor
    · rintro ⟨_, h⟩
      cases h with
      | cons hx hxs => exact ⟨⟨_, hx⟩, _, hxs⟩
    · rintro ⟨⟨y, hx⟩, ys, hxs⟩
      exact ⟨y :: ys, .cons hx hxs⟩

/-- A list is decoded when it is an array and every element is. -/
theorem exists_decoded_iff {kind : Kind ι} {f : Json D → Except DartError β}
    (hf : ∀ elems x, j = .array elems → x ∈ elems → ((∃ y, f x = .ok y) ↔ Fits S P kind x)) :
    (∃ ys elems, j = .array elems ∧ List.Forall₂ (fun x y => f x = .ok y) elems ys) ↔
      Fits S P (.array kind) j := by
  rw [exists_comm, fits_array]
  refine exists_congr fun elems => ?_
  rw [exists_and_left]
  refine and_congr_right fun helems => ?_
  rw [exists_forall₂]
  exact forall₂_congr fun x hx => hf elems x helems hx

end Json

/-! ## What the decoder accepts -/

mutual
theorem CategoryDish.exists_fromJson_iff (j : Json D) :
    (∃ dish, CategoryDish.fromJson j = .ok dish) ↔
      Json.Fits menuSchema DecimalCalories (.record .categoryDish) j := by
  have haddonCat : ∀ fields, j = .object fields →
      ((∃ addonCat elems, Json.get fields "addonCat" = .array elems ∧
        List.Forall₂ (fun x addon => AddonCat.fromJson x = .ok addon) elems addonCat) ↔
      Json.Fits menuSchema DecimalCalories (.array (.record .addonCat))
        (Json.get fields "addonCat")) := fun fields hj =>
    Json.exists_decoded_iff fun elems x helems hx => AddonCat.exists_fromJson_iff x
  rw [Json.fits_record]
  constructor
  · rintro ⟨dish, h⟩
    obtain ⟨fields, hj, hread⟩ := CategoryDish.fromJson_iff.mp h
    obtain ⟨price, hprice, _⟩ := hread.dishPrice
    obtain ⟨hcalories, hdecimal⟩ := Json.asDouble_iff.mp ⟨_, hread.dishCalories⟩
    refine ⟨fields, hj, by rw [hj]; exact hdecimal, Json.asString_iff.mp ⟨_, hread.dishId⟩,
      Json.asString_iff.mp ⟨_, hread.dishName⟩, Json.toDouble_iff.mp ⟨_, hprice⟩,
      Json.asString_iff.mp ⟨_, hread.dishImage⟩, .any _, hcalories,
      Json.asString_iff.mp ⟨_, hread.dishDescription⟩,
      Json.asBool_iff.mp ⟨_, hread.dishAvailability⟩, .any _,
      Json.asString_iff.mp ⟨_, hread.nexturl⟩, ?_⟩
    refine Json.fits_optional.mpr ?_
    rcases hread.addonCat with ⟨hnull, _⟩ | ⟨elems, addonCat, helems, _, hadds⟩
    · exact .inl hnull
    · exact .inr ((haddonCat fields hj).mp ⟨addonCat, elems, helems, hadds⟩)
  · rintro ⟨fields, hj, hdecimal, hdishId, hdishName, hdishPrice, hdishImage, _, hdishCalories,
      hdishDescription, hdishAvailability, _, hnexturl, haddons⟩
    rw [hj] at hdecimal
    obtain ⟨dishId, hdishId⟩ := Json.asString_iff.mpr hdishId
    obtain ⟨dishName, hdishName⟩ := Json.asString_iff.mpr hdishName
    obtain ⟨dishPrice, hdishPrice⟩ := Json.toDouble_iff.mpr hdishPrice
    obtain ⟨dishImage, hdishImage⟩ := Json.asString_iff.mpr hdishImage
    obtain ⟨dishCalories, hdishCalories⟩ := Json.asDouble_iff.mpr ⟨hdishCalories, hdecimal⟩
    obtain ⟨dishDescription, hdishDescription⟩ := Json.asString_iff.mpr hdishDescription
    obtain ⟨dishAvailability, hdishAvailability⟩ := Json.asBool_iff.mpr hdishAvailability
    obtain ⟨nexturl, hnexturl⟩ := Json.asString_iff.mpr hnexturl
    let dish (addonCat : Option (List (AddonCat D))) : CategoryDish D :=
      { dishId, dishName, dishPrice := some dishPrice, dishImage, dishCalories, dishDescription
        dishAvailability, nexturl, addonCat
        dishCurrency := dishCurrencyOf (Json.get fields "dish_currency")
        dishType := Json.get fields "dish_Type"
        dishOrdeCount := some 0 }
    have hread : ∀ addonCat, (Json.get fields "addonCat" = .null ∧ addonCat = none ∨
        ∃ elems addons, Json.get fields "addonCat" = .array elems ∧ addonCat = some addons ∧
          List.Forall₂ (fun x addon => AddonCat.fromJson x = .ok addon) elems addons) →
        CategoryDish.fromJson j = .ok (dish addonCat) := fun addonCat haddonCat =>
      CategoryDish.fromJson_iff.mpr ⟨fields, hj, hdishId, hdishName, ⟨dishPrice, hdishPrice, rfl⟩,
        hdishImage, rfl, hdishCalories, hdishDescription, hdishAvailability, rfl, hnexturl,
        haddonCat, rfl⟩
    rcases Json.fits_optional.mp haddons with hnull | haddons
    · exact ⟨_, hread none (.inl ⟨hnull, rfl⟩)⟩
    · obtain ⟨addonCat, elems, helems, hadds⟩ := (haddonCat fields hj).mpr haddons
      exact ⟨_, hread (some addonCat) (.inr ⟨elems, addonCat, helems, rfl, hadds⟩)⟩
termination_by sizeOf j
decreasing_by
  rw [hj]
  exact (Json.sizeOf_elem_lt hx).trans (helems ▸ Json.sizeOf_get_lt fields "addonCat")

theorem AddonCat.exists_fromJson_iff (j : Json D) :
    (∃ addon, AddonCat.fromJson j = .ok addon) ↔
      Json.Fits menuSchema DecimalCalories (.record .addonCat) j := by
  have haddons : ∀ fields, j = .object fields →
      ((∃ addons elems, Json.get fields "addons" = .array elems ∧
        List.Forall₂ (fun x dish => CategoryDish.fromJson x = .ok dish) elems addons) ↔
      Json.Fits menuSchema DecimalCalories (.array (.record .categoryDish))
        (Json.get fields "addons")) := fun fields hj =>
    Json.exists_decoded_iff fun elems x helems hx => CategoryDish.exists_fromJson_iff x
  rw [Json.fits_record]
  constructor
  · rintro ⟨addon, h⟩
    obtain ⟨fields, hj, hread⟩ := AddonCat.fromJson_iff.mp h
    exact ⟨fields, hj, trivial, Json.asString_iff.mp ⟨_, hread.addonCategory⟩,
      Json.asString_iff.mp ⟨_, hread.addonCategoryId⟩, .any _,
      Json.asString_iff.mp ⟨_, hread.nexturl⟩, (haddons fields hj).mp ⟨_, hread.addons⟩⟩
  · rintro ⟨fields, hj, _, haddonCategory, haddonCategoryId, _, hnexturl, hdishes⟩
    obtain ⟨addonCategory, haddonCategory⟩ := Json.asString_iff.mpr haddonCategory
    obtain ⟨addonCategoryId, haddonCategoryId⟩ := Json.asString_iff.mpr haddonCategoryId
    obtain ⟨nexturl, hnexturl⟩ := Json.asString_iff.mpr hnexturl
    obtain ⟨addons, hdishes⟩ := (haddons fields hj).mpr hdishes
    refine ⟨{ addonCategory, addonCategoryId, nexturl, addons
              addonSelection := Json.get fields "addon_selection" }, ?_⟩
    exact AddonCat.fromJson_iff.mpr ⟨fields, hj, haddonCategory, haddonCategoryId, rfl, hnexturl,
      hdishes⟩
termination_by sizeOf j
decreasing_by
  rw [hj]
  exact (Json.sizeOf_elem_lt hx).trans (helems ▸ Json.sizeOf_get_lt fields "addons")
end

theorem TableMenuList.exists_fromJson_iff (j : Json D) :
    (∃ category, TableMenuList.fromJson j = .ok category) ↔
      Json.Fits menuSchema DecimalCalories (.record .tableMenuList) j := by
  rw [Json.fits_record]
  constructor
  · rintro ⟨category, h⟩
    obtain ⟨fields, hj, hread⟩ := TableMenuList.fromJson_iff.mp h
    exact ⟨fields, hj, trivial, Json.asString_iff.mp ⟨_, hread.menuCategory⟩,
      Json.asString_iff.mp ⟨_, hread.menuCategoryId⟩,
      Json.asString_iff.mp ⟨_, hread.menuCategoryImage⟩, Json.asString_iff.mp ⟨_, hread.nexturl⟩,
      (Json.exists_decoded_iff fun _ x _ _ => CategoryDish.exists_fromJson_iff x).mp
        ⟨_, hread.categoryDishes⟩⟩
  · rintro ⟨fields, hj, _, hmenuCategory, hmenuCategoryId, hmenuCategoryImage, hnexturl, hdishes⟩
    obtain ⟨menuCategory, hmenuCategory⟩ := Json.asString_iff.mpr hmenuCategory
    obtain ⟨menuCategoryId, hmenuCategoryId⟩ := Json.asString_iff.mpr hmenuCategoryId
    obtain ⟨menuCategoryImage, hmenuCategoryImage⟩ := Json.asString_iff.mpr hmenuCategoryImage
    obtain ⟨nexturl, hnexturl⟩ := Json.asString_iff.mpr hnexturl
    obtain ⟨categoryDishes, hdishes⟩ := (Json.exists_decoded_iff
      fun _ x _ _ => CategoryDish.exists_fromJson_iff x).mpr hdishes
    refine ⟨{ menuCategory, menuCategoryId, menuCategoryImage, nexturl, categoryDishes }, ?_⟩
    exact TableMenuList.fromJson_iff.mpr ⟨fields, hj, hmenuCategory, hmenuCategoryId,
      hmenuCategoryImage, hnexturl, hdishes⟩

theorem MenuModel.exists_fromJson_iff (j : Json D) :
    (∃ menu, MenuModel.fromJson j = .ok menu) ↔
      Json.Fits menuSchema DecimalCalories (.record .menuModel) j := by
  rw [Json.fits_record]
  constructor
  · rintro ⟨menu, h⟩
    obtain ⟨fields, hj, hread⟩ := MenuModel.fromJson_iff.mp h
    exact ⟨fields, hj, trivial, Json.asString_iff.mp ⟨_, hread.restaurantId⟩,
      Json.asString_iff.mp ⟨_, hread.restaurantName⟩,
      Json.asString_iff.mp ⟨_, hread.restaurantImage⟩, Json.asString_iff.mp ⟨_, hread.tableId⟩,
      Json.asString_iff.mp ⟨_, hread.tableName⟩, Json.asString_iff.mp ⟨_, hread.branchName⟩,
      Json.asString_iff.mp ⟨_, hread.nexturl⟩,
      (Json.exists_decoded_iff fun _ x _ _ => TableMenuList.exists_fromJson_iff x).mp
        ⟨_, hread.tableMenuList⟩⟩
  · rintro ⟨fields, hj, _, hrestaurantId, hrestaurantName, hrestaurantImage, htableId, htableName,
      hbranchName, hnexturl, hcategories⟩
    obtain ⟨restaurantId, hrestaurantId⟩ := Json.asString_iff.mpr hrestaurantId
    obtain ⟨restaurantName, hrestaurantName⟩ := Json.asString_iff.mpr hrestaurantName
    obtain ⟨restaurantImage, hrestaurantImage⟩ := Json.asString_iff.mpr hrestaurantImage
    obtain ⟨tableId, htableId⟩ := Json.asString_iff.mpr htableId
    obtain ⟨tableName, htableName⟩ := Json.asString_iff.mpr htableName
    obtain ⟨branchName, hbranchName⟩ := Json.asString_iff.mpr hbranchName
    obtain ⟨nexturl, hnexturl⟩ := Json.asString_iff.mpr hnexturl
    obtain ⟨tableMenuList, hcategories⟩ := (Json.exists_decoded_iff
      fun _ x _ _ => TableMenuList.exists_fromJson_iff x).mpr hcategories
    refine ⟨{ restaurantId, restaurantName, restaurantImage, tableId, tableName, branchName
              nexturl, tableMenuList }, ?_⟩
    exact MenuModel.fromJson_iff.mpr ⟨fields, hj, hrestaurantId, hrestaurantName,
      hrestaurantImage, htableId, htableName, hbranchName, hnexturl, hcategories⟩

/-- The decoder accepts the document. -/
def Accepted (j : Json D) : Prop := ∃ menus, menuModelOfTree j = .ok menus

theorem accepted_iff_fits {j : Json D} :
    Accepted j ↔ Json.Fits menuSchema DecimalCalories menuDocument j := by
  rw [← Json.exists_decoded_iff fun _ x _ _ => MenuModel.exists_fromJson_iff x]
  exact exists_congr fun menus => Json.mapList_eq_ok

/-- The document is one of the schema. -/
abbrev InSchema : Json D → Prop := Json.Conforms menuSchema menuDocument

/-- No dish of the document, at any depth, has its calories written as an `int`. -/
def AllDecimal (j : Json D) : Prop :=
  ∀ dish, Json.Occurs menuSchema .categoryDish dish menuDocument j →
    DecimalCalories .categoryDish dish

theorem accepted_iff {j : Json D} : Accepted j ↔ InSchema j ∧ AllDecimal j := by
  rw [accepted_iff_fits, Json.fits_iff]
  refine and_congr_right fun _ => ⟨fun h dish hdish => h _ dish hdish, fun h c r hr => ?_⟩
  cases c with
  | categoryDish => exact h r hr
  | _ => trivial

/-- **The schema.** The decoder accepts a document exactly if it is one of the schema, provided that
a document of the schema has no calories written as an `int`; and it accepts two spellings of one
document alike, provided that such calories are in both of them or in neither. -/
theorem accepted_iff_inSchema_iff (j : Json D) :
    ((Accepted j ↔ InSchema j) ↔ (InSchema j → AllDecimal j)) ∧
      ∀ j' : Json D, j'.decimal = j.decimal →
        ((Accepted j' ↔ Accepted j) ↔ (InSchema j → (AllDecimal j' ↔ AllDecimal j))) := by
  constructor
  · rw [accepted_iff, and_iff_left_iff_imp]
  · intro j' hj
    have hschema : InSchema j' ↔ InSchema j := by
      rw [InSchema, ← Json.conforms_decimal, hj, Json.conforms_decimal]
    rw [accepted_iff, accepted_iff, hschema, and_congr_right_iff]

/-! ## Documents with one dish -/

section
omit [IntCast D]

def documentOf (dish : List (String × Json D)) : Json D :=
  .array [.object [("table_menu_list", .array [.object [("category_dishes",
    .array [.object dish])]])]]

theorem occurs_documentOf (dish : List (String × Json D)) :
    Json.Occurs menuSchema .categoryDish (.object dish) menuDocument (documentOf dish) := by
  have hcategories : ("table_menu_list", .array (.record .tableMenuList)) ∈
      menuSchema .menuModel := by simp [menuSchema]
  have hdishes : ("category_dishes", .array (.record .categoryDish)) ∈
      menuSchema .tableMenuList := by simp [menuSchema]
  refine .elem List.mem_cons_self (.field hcategories ?_)
  refine .elem List.mem_cons_self (.field hdishes ?_)
  exact .elem List.mem_cons_self .here

theorem fits_documentOf {P : MenuClass → Json D → Prop} (hmenu : ∀ j, P .menuModel j)
    (hcategory : ∀ j, P .tableMenuList j) {dish : List (String × Json D)}
    (hdish : Json.Fits menuSchema P (.record .categoryDish) (.object dish)) :
    Json.Fits menuSchema P menuDocument (documentOf dish) := by
  refine .array fun menu hmem => ?_
  cases List.mem_singleton.mp hmem
  refine Json.fits_record.mpr
    ⟨_, rfl, hmenu _, .null, .null, .null, .null, .null, .null, .null, .array fun c hmem => ?_⟩
  cases List.mem_singleton.mp hmem
  refine Json.fits_record.mpr
    ⟨_, rfl, hcategory _, .null, .null, .null, .null, .array fun d hmem => ?_⟩
  cases List.mem_singleton.mp hmem
  exact hdish

end

/-- A soup at 7.5. -/
def soupDish (calories : Json ℚ) : List (String × Json ℚ) :=
  [("dish_price", .double (15 / 2)), ("dish_calories", calories)]

theorem fits_soupDish {P : MenuClass → Json ℚ → Prop} {calories : Json ℚ}
    (hP : P .categoryDish (.object (soupDish calories)))
    (hcalories : Json.Fits menuSchema P .number calories) :
    Json.Fits menuSchema P (.record .categoryDish) (.object (soupDish calories)) :=
  Json.fits_record.mpr ⟨_, rfl, hP, .null, .null, .double _, .null, .any _, .present hcalories,
    .null, .null, .any _, .null, .null⟩

theorem accepted_soupDish (d : ℚ) : Accepted (documentOf (soupDish (.double d))) := by
  have hdecimal : DecimalCalories .categoryDish (.object (soupDish (.double d))) :=
    fun n hn => by cases hn
  exact accepted_iff_fits.mpr (fits_documentOf (fun _ => trivial) (fun _ => trivial)
    (fits_soupDish hdecimal (.double d)))

/-- With 15 calories the document is one of the schema and is rejected. With 15.0 it is accepted. -/
theorem int_calories_rejected : InSchema (documentOf (soupDish (.int 15))) ∧
    ¬ Accepted (documentOf (soupDish (.int 15))) ∧
    (documentOf (soupDish (.double 15))).decimal = (documentOf (soupDish (.int 15))).decimal ∧
    Accepted (documentOf (soupDish (.double 15))) := by
  refine ⟨fits_documentOf (fun _ => trivial) (fun _ => trivial) (fits_soupDish trivial (.int 15)),
    fun h => ?_, rfl, accepted_soupDish 15⟩
  exact (accepted_iff.mp h).2 _ (occurs_documentOf _) 15 rfl

end MachineTest
