import MachineTest.Theory.LinkedMap
import MachineTest.Model.Json

/-! # The menu and its JSON format

`menuModelFromJson`, `menuModelToJson` and the data classes between them. A restaurant has a list of
categories (`TableMenuList`), a category a list of dishes, and a dish may have add-on categories
that hold dishes again, to any depth.

A list of the source that the factories build with `List.from` and the encoders map without a null
check is a `List`; `addonCat`, the one that may be null, is an `Option`. Restaurants and categories
are generic in what stands for a dish: the decoder fills them with `CategoryDish` values, the pages
work on references to dish objects. -/

namespace MachineTest

inductive DishCurrency where
  | SAR
deriving DecidableEq

/-- An enumeration with the names of its values. -/
structure EnumValues (T : Type) where
  map : LinkedMap String T

/-- The map from values to names, built by writing the entries one by one. -/
def EnumValues.reverse {T : Type} [DecidableEq T] (values : EnumValues T) : LinkedMap T String :=
  values.map.entries.foldl (fun reverseMap e => reverseMap.insert e.2 e.1) ∅

def dishCurrencyValues : EnumValues DishCurrency where
  map := (∅ : LinkedMap String DishCurrency).insert "SAR" .SAR

mutual
structure CategoryDish (D : Type) where
  dishId : Option String
  dishName : Option String
  dishPrice : Option D
  dishImage : Option String
  dishCurrency : Option DishCurrency
  dishCalories : Option D
  dishDescription : Option String
  dishAvailability : Option Bool
  dishType : Json D
  nexturl : Option String
  addonCat : Option (List (AddonCat D))
  dishOrdeCount : Option ℤ

structure AddonCat (D : Type) where
  addonCategory : Option String
  addonCategoryId : Option String
  addonSelection : Json D
  nexturl : Option String
  addons : List (CategoryDish D)
end

structure TableMenuList (δ : Type) where
  menuCategory : Option String
  menuCategoryId : Option String
  menuCategoryImage : Option String
  nexturl : Option String
  categoryDishes : List δ
deriving DecidableEq

structure MenuModel (δ : Type) where
  restaurantId : Option String
  restaurantName : Option String
  restaurantImage : Option String
  tableId : Option String
  tableName : Option String
  branchName : Option String
  nexturl : Option String
  tableMenuList : List (TableMenuList δ)
deriving DecidableEq

variable {D : Type}

theorem AddonCat.sizeOf_lt {d : CategoryDish D} {cs : List (AddonCat D)} {c : AddonCat D}
    (hcs : d.addonCat = some cs) (hc : c ∈ cs) : sizeOf c < sizeOf d := by
  have := List.sizeOf_lt_of_mem hc
  cases d
  simp only at hcs
  subst hcs
  simp only [CategoryDish.mk.sizeOf_spec, Option.some.sizeOf_spec]
  omega

theorem CategoryDish.sizeOf_lt {c : AddonCat D} {d : CategoryDish D} (hd : d ∈ c.addons) :
    sizeOf d < sizeOf c := by
  cases c
  dsimp only at hd
  have := List.sizeOf_lt_of_mem hd
  simp only [AddonCat.mk.sizeOf_spec]
  omega

/-! ## Decoding -/

section
variable [IntCast D]

/-- `dishCurrencyValues.map[j]`: null for every key that is not a name of the enumeration. -/
def dishCurrencyOf : Json D → Option DishCurrency
  | .string s => dishCurrencyValues.map.get? s
  | _ => none

mutual
def CategoryDish.fromJson : Json D → Except DartError (CategoryDish D)
  | .object json => do
    let dishId ← (Json.get json "dish_id").asString
    let dishName ← (Json.get json "dish_name").asString
    let dishPrice ← (Json.get json "dish_price").toDouble
    let dishImage ← (Json.get json "dish_image").asString
    let dishCurrency := dishCurrencyOf (Json.get json "dish_currency")
    let dishCalories ← (Json.get json "dish_calories").asDouble
    let dishDescription ← (Json.get json "dish_description").asString
    let dishAvailability ← (Json.get json "dish_Availability").asBool
    let dishType := Json.get json "dish_Type"
    let nexturl ← (Json.get json "nexturl").asString
    let addonCat ←
      if (Json.get json "addonCat").isNull then pure none
      else some <$> (Json.get json "addonCat").mapList fun x _ => AddonCat.fromJson x
    pure { dishId, dishName, dishPrice := some dishPrice, dishImage, dishCurrency, dishCalories
           dishDescription, dishAvailability, dishType, nexturl, addonCat
           dishOrdeCount := some 0 }
  | .null => .error .noSuchMethodError
  | _ => .error .typeError
termination_by json => sizeOf json
decreasing_by
  rename_i hlt
  exact hlt.trans (Json.sizeOf_get_lt ..)

def AddonCat.fromJson : Json D → Except DartError (AddonCat D)
  | .object json => do
    let addonCategory ← (Json.get json "addon_category").asString
    let addonCategoryId ← (Json.get json "addon_category_id").asString
    let addonSelection := Json.get json "addon_selection"
    let nexturl ← (Json.get json "nexturl").asString
    let addons ← (Json.get json "addons").mapList fun x _ => CategoryDish.fromJson x
    pure { addonCategory, addonCategoryId, addonSelection, nexturl, addons }
  | .null => .error .noSuchMethodError
  | _ => .error .typeError
termination_by json => sizeOf json
decreasing_by
  rename_i hlt
  exact hlt.trans (Json.sizeOf_get_lt ..)
end

/-- A decoded dish has a price. -/
theorem CategoryDish.fromJson_dishPrice {json : Json D} {dish : CategoryDish D}
    (h : CategoryDish.fromJson json = .ok dish) : ∃ price, dish.dishPrice = some price := by
  cases json with
  | object fields =>
    rw [CategoryDish.fromJson] at h
    obtain ⟨_, _, h⟩ := Json.bind_eq_ok.mp h
    obtain ⟨_, _, h⟩ := Json.bind_eq_ok.mp h
    obtain ⟨price, _, h⟩ := Json.bind_eq_ok.mp h
    obtain ⟨_, _, h⟩ := Json.bind_eq_ok.mp h
    obtain ⟨_, _, h⟩ := Json.bind_eq_ok.mp h
    obtain ⟨_, _, h⟩ := Json.bind_eq_ok.mp h
    obtain ⟨_, _, h⟩ := Json.bind_eq_ok.mp h
    obtain ⟨_, _, h⟩ := Json.bind_eq_ok.mp h
    split at h
    all_goals
      obtain ⟨_, _, h⟩ := Json.bind_eq_ok.mp h
      cases h
      exact ⟨price, rfl⟩
  | null => rw [CategoryDish.fromJson] at h; cases h
  | _ => simp [CategoryDish.fromJson] at h

def TableMenuList.fromJson : Json D → Except DartError (TableMenuList (CategoryDish D))
  | .object json => do
    let menuCategory ← (Json.get json "menu_category").asString
    let menuCategoryId ← (Json.get json "menu_category_id").asString
    let menuCategoryImage ← (Json.get json "menu_category_image").asString
    let nexturl ← (Json.get json "nexturl").asString
    let categoryDishes ← (Json.get json "category_dishes").mapList fun x _ =>
      CategoryDish.fromJson x
    pure { menuCategory, menuCategoryId, menuCategoryImage, nexturl, categoryDishes }
  | .null => .error .noSuchMethodError
  | _ => .error .typeError

def MenuModel.fromJson : Json D → Except DartError (MenuModel (CategoryDish D))
  | .object json => do
    let restaurantId ← (Json.get json "restaurant_id").asString
    let restaurantName ← (Json.get json "restaurant_name").asString
    let restaurantImage ← (Json.get json "restaurant_image").asString
    let tableId ← (Json.get json "table_id").asString
    let tableName ← (Json.get json "table_name").asString
    let branchName ← (Json.get json "branch_name").asString
    let nexturl ← (Json.get json "nexturl").asString
    let tableMenuList ← (Json.get json "table_menu_list").mapList fun x _ =>
      TableMenuList.fromJson x
    pure { restaurantId, restaurantName, restaurantImage, tableId, tableName, branchName, nexturl
           tableMenuList }
  | .null => .error .noSuchMethodError
  | _ => .error .typeError

/-- `menuModelFromJson` after `json.decode`. -/
def menuModelOfTree (tree : Json D) : Except DartError (List (MenuModel (CategoryDish D))) :=
  tree.mapList fun x _ => MenuModel.fromJson x

def menuModelFromJson (json : Json.Codec D) (str : String) :
    Except DartError (List (MenuModel (CategoryDish D))) := do
  menuModelOfTree (← json.decode str)

end

/-! ## Encoding -/

namespace Json

def ofString (s : Option String) : Json D := s.elim .null .string
def ofBool (b : Option Bool) : Json D := b.elim .null .bool
def ofDouble (d : Option D) : Json D := d.elim .null .double

end Json

mutual
def CategoryDish.toJson (dish : CategoryDish D) : Json D :=
  .object [
    ("dish_id", .ofString dish.dishId),
    ("dish_name", .ofString dish.dishName),
    ("dish_price", .ofDouble dish.dishPrice),
    ("dish_image", .ofString dish.dishImage),
    ("dish_currency", .ofString (dish.dishCurrency.bind dishCurrencyValues.reverse.get?)),
    ("dish_calories", .ofDouble dish.dishCalories),
    ("dish_description", .ofString dish.dishDescription),
    ("dish_Availability", .ofBool dish.dishAvailability),
    ("dish_Type", dish.dishType),
    ("nexturl", .ofString dish.nexturl),
    ("addonCat", match _h : dish.addonCat with
      | none => .null
      | some addonCat => .array (addonCat.attach.map fun x => AddonCat.toJson x.1))]
termination_by sizeOf dish
decreasing_by exact AddonCat.sizeOf_lt ‹_› x.2

def AddonCat.toJson (addon : AddonCat D) : Json D :=
  .object [
    ("addon_category", .ofString addon.addonCategory),
    ("addon_category_id", .ofString addon.addonCategoryId),
    ("addon_selection", addon.addonSelection),
    ("nexturl", .ofString addon.nexturl),
    ("addons", .array (addon.addons.attach.map fun x => CategoryDish.toJson x.1))]
termination_by sizeOf addon
decreasing_by exact CategoryDish.sizeOf_lt x.2
end

def TableMenuList.toJson (category : TableMenuList (CategoryDish D)) : Json D :=
  .object [
    ("menu_category", .ofString category.menuCategory),
    ("menu_category_id", .ofString category.menuCategoryId),
    ("menu_category_image", .ofString category.menuCategoryImage),
    ("nexturl", .ofString category.nexturl),
    ("category_dishes", .array (category.categoryDishes.map CategoryDish.toJson))]

def MenuModel.toJson (menu : MenuModel (CategoryDish D)) : Json D :=
  .object [
    ("restaurant_id", .ofString menu.restaurantId),
    ("restaurant_name", .ofString menu.restaurantName),
    ("restaurant_image", .ofString menu.restaurantImage),
    ("table_id", .ofString menu.tableId),
    ("table_name", .ofString menu.tableName),
    ("branch_name", .ofString menu.branchName),
    ("nexturl", .ofString menu.nexturl),
    ("table_menu_list", .array (menu.tableMenuList.map TableMenuList.toJson))]

/-- `menuModelToJson` before `json.encode`. -/
def menuModelTree (data : List (MenuModel (CategoryDish D))) : Json D :=
  .array (data.map MenuModel.toJson)

def menuModelToJson [DartDouble D] (json : Json.Codec D)
    (data : List (MenuModel (CategoryDish D))) : Except DartError String :=
  json.encode (menuModelTree data)

end MachineTest
