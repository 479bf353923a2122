import MachineTest.Model.MenuModel

/-!
# Decoding undoes encoding

On trees: `CategoryDish.fromJson` reads back what `CategoryDish.toJson` wrote, at every depth, with
the order counts set to zero. The induction follows the nesting of dishes and add-on categories
(`CategoryDish.Valid` and `AddonCat.Valid` are derived along it); one level is one pass over the
declared keys. On texts: `json.encode` accepts the tree because every number in it is finite.
-/

namespace MachineTest

variable {D : Type}

section
variable [DartDouble D] (calories : D → Prop)

mutual
/-- A dish that `json.encode` accepts and the decoder reads back: the price is present, the numbers
are finite, at every depth. The calories satisfy `calories` where they are present. -/
inductive CategoryDish.Valid : CategoryDish D → Prop
  | intro {dish : CategoryDish D} {price : D} : dish.dishPrice = some price →
    DartDouble.isFinite price = true →
    (∀ c, dish.dishCalories = some c → calories c) → dish.dishType.isFinite = true →
    (∀ cs, dish.addonCat = some cs → ∀ c ∈ cs, AddonCat.Valid c) → CategoryDish.Valid dish

inductive AddonCat.Valid : AddonCat D → Prop
  | intro {addon : AddonCat D} : addon.addonSelection.isFinite = true →
    (∀ d ∈ addon.addons, CategoryDish.Valid d) → AddonCat.Valid addon
end

def MenuModel.Valid (menu : MenuModel (CategoryDish D)) : Prop :=
  ∀ category ∈ menu.tableMenuList, ∀ dish ∈ category.categoryDishes, dish.Valid calories

end

mutual
/-- The dish with `dishOrdeCount` set to 0, at every depth. -/
def CategoryDish.zeroed (dish : CategoryDish D) : CategoryDish D :=
  { dish with
    addonCat := match _h : dish.addonCat with
      | none => none
      | some addonCat => some (addonCat.attach.map fun x => AddonCat.zeroed x.1)
    dishOrdeCount := some 0 }
termination_by sizeOf dish
decreasing_by exact AddonCat.sizeOf_lt ‹_› x.2

def AddonCat.zeroed (addon : AddonCat D) : AddonCat D :=
  { addon with addons := addon.addons.attach.map fun x => CategoryDish.zeroed x.1 }
termination_by sizeOf addon
decreasing_by exact CategoryDish.sizeOf_lt x.2
end

def MenuModel.zeroed (menu : MenuModel (CategoryDish D)) : MenuModel (CategoryDish D) :=
  { menu with tableMenuList := menu.tableMenuList.map fun category =>
      { category with categoryDishes := category.categoryDishes.map CategoryDish.zeroed } }

/-! ## One level at a time -/

theorem CategoryDish.toJson_eq (dish : CategoryDish D) : dish.toJson = .object [
    ("dish_id", .ofString dish.dishId),
    ("dish_name", .ofString dish.dishName),
    ("dish_price", .ofDouble dish.dishPrice),
    ("dish_image", .ofString dish.dishImage),
    ("dish_currency", .ofString (dish.dishCurrency.bind dishCurrencyValues.reverse.get?)),
    ("dish_calories", .ofDouble dish.dishCalories),
    ("dish_description", .ofString dish.dishDescription),
    ("dish_Availability", .ofBool dish.dishAvailability),
    ("dish_Type", dish.dishType),
    ("nexturl", .ofString dish.nexturl),
    ("addonCat", dish.addonCat.elim .null fun cs => .array (cs.map AddonCat.toJson))] := by
  rw [CategoryDish.toJson]
  cases dish.addonCat <;> simp

theorem AddonCat.toJson_eq (addon : AddonCat D) : addon.toJson = .object [
    ("addon_category", .ofString addon.addonCategory),
    ("addon_category_id", .ofString addon.addonCategoryId),
    ("addon_selection", addon.addonSelection),
    ("nexturl", .ofString addon.nexturl),
    ("addons", .array (addon.addons.map CategoryDish.toJson))] := by
  rw [AddonCat.toJson, List.attach_map_val (f := CategoryDish.toJson)]

theorem CategoryDish.zeroed_eq (dish : CategoryDish D) : dish.zeroed =
    { dish with addonCat := dish.addonCat.map (List.map AddonCat.zeroed)
                dishOrdeCount := some 0 } := by
  rw [CategoryDish.zeroed]
  cases dish.addonCat <;> simp

theorem AddonCat.zeroed_eq (addon : AddonCat D) :
    addon.zeroed = { addon with addons := addon.addons.map CategoryDish.zeroed } := by
  rw [AddonCat.zeroed, List.attach_map_val (f := CategoryDish.zeroed)]

@[simp] theorem Json.asString_ofString (s : Option String) :
    (Json.ofString s : Json D).asString = .ok s := by cases s <;> rfl

@[simp] theorem Json.asBool_ofBool (b : Option Bool) :
    (Json.ofBool b : Json D).asBool = .ok b := by cases b <;> rfl

@[simp] theorem Json.asDouble_ofDouble (d : Option D) :
    (Json.ofDouble d).asDouble = .ok d := by cases d <;> rfl

/-- The currency survives the lookup in the reverse map and the lookup back. -/
@[simp] theorem dishCurrencyOf_reverse (currency : Option DishCurrency) :
    dishCurrencyOf (Json.ofString (currency.bind dishCurrencyValues.reverse.get?) : Json D) =
      currency := by
  rcases currency with _ | ⟨⟨⟩⟩ <;> rfl

/-! ## Trees -/

section
variable [IntCast D] [DartDouble D] {calories : D → Prop}

mutual
theorem CategoryDish.fromJson_toJson {dish : CategoryDish D} :
    dish.Valid calories → CategoryDish.fromJson dish.toJson = .ok dish.zeroed
  | .intro hprice _ _ _ haddons => by
    have hcats : ∀ cs, dish.addonCat = some cs →
        (cs.map AddonCat.toJson).mapM AddonCat.fromJson = .ok (cs.map AddonCat.zeroed) :=
      fun cs hcs => Json.mapM_map_eq_ok fun c hc => AddonCat.fromJson_toJson (haddons cs hcs c hc)
    rw [CategoryDish.toJson_eq, CategoryDish.fromJson, CategoryDish.zeroed_eq]
    cases hcat : dish.addonCat with
    | none =>
      simp [Json.get, List.lookup_cons, hprice, Json.isNull]
      rfl
    | some cs =>
      simp [Json.get, List.lookup_cons, hprice, Json.isNull, hcats cs hcat]
      rfl

theorem AddonCat.fromJson_toJson {addon : AddonCat D} :
    addon.Valid calories → AddonCat.fromJson addon.toJson = .ok addon.zeroed
  | .intro _ hdishes => by
    have hadds : (addon.addons.map CategoryDish.toJson).mapM CategoryDish.fromJson =
        .ok (addon.addons.map CategoryDish.zeroed) :=
      Json.mapM_map_eq_ok fun d hd => CategoryDish.fromJson_toJson (hdishes d hd)
    rw [AddonCat.toJson_eq, AddonCat.fromJson, AddonCat.zeroed_eq]
    simp [Json.get, List.lookup_cons, hadds]
    rfl
end

theorem MenuModel.fromJson_toJson {menu : MenuModel (CategoryDish D)}
    (h : menu.Valid calories) : MenuModel.fromJson menu.toJson = .ok menu.zeroed := by
  have hcats : (menu.tableMenuList.map TableMenuList.toJson).mapM TableMenuList.fromJson =
      .ok menu.zeroed.tableMenuList := by
    refine Json.mapM_map_eq_ok fun category hcategory => ?_
    have hdishes : (category.categoryDishes.map CategoryDish.toJson).mapM CategoryDish.fromJson =
        .ok (category.categoryDishes.map CategoryDish.zeroed) :=
      Json.mapM_map_eq_ok fun d hd => CategoryDish.fromJson_toJson (h category hcategory d hd)
    simp [TableMenuList.toJson, TableMenuList.fromJson, Json.get, List.lookup_cons, hdishes]
    rfl
  simp [MenuModel.toJson, MenuModel.fromJson, Json.get, List.lookup_cons, hcats]
  rfl

/-- The decoder reads back the tree of a list of menus. -/
theorem menuModelOfTree_menuModelTree {data : List (MenuModel (CategoryDish D))}
    (h : ∀ menu ∈ data, menu.Valid calories) :
    menuModelOfTree (menuModelTree data) = .ok (data.map MenuModel.zeroed) := by
  rw [menuModelTree, menuModelOfTree, Json.mapList_array]
  exact Json.mapM_map_eq_ok fun menu hmenu => MenuModel.fromJson_toJson (h menu hmenu)

end

/-! ## Menus with one category -/

section
variable [Zero D]

/-- A dish that the home page can show. -/
def dishOf (dishId : Option String) (dishPrice : D) : CategoryDish D where
  dishId := dishId
  dishName := dishId
  dishPrice := some dishPrice
  dishImage := none
  dishCurrency := none
  dishCalories := some 0
  dishDescription := some ""
  dishAvailability := none
  dishType := .null
  nexturl := none
  addonCat := some []
  dishOrdeCount := some 0

/-- A restaurant with one category. -/
def menuOf (dishes : List (CategoryDish D)) : MenuModel (CategoryDish D) where
  restaurantId := none
  restaurantName := none
  restaurantImage := none
  tableId := none
  tableName := none
  branchName := none
  nexturl := none
  tableMenuList := [{
    menuCategory := some "Soups"
    menuCategoryId := none
    menuCategoryImage := none
    nexturl := none
    categoryDishes := dishes }]

variable [IntCast D]

theorem CategoryDish.fromJson_dishOf (dishId : Option String) (dishPrice : D) :
    CategoryDish.fromJson (dishOf dishId dishPrice).toJson = .ok (dishOf dishId dishPrice) := by
  rw [CategoryDish.toJson_eq, CategoryDish.fromJson]
  simp [dishOf, Json.get, List.lookup_cons, Json.isNull]
  rfl

/-- The decoder reads the tree of a menu of such dishes. -/
theorem menuModelOfTree_menuOf {dishes : List (CategoryDish D)}
    (h : ∀ dish ∈ dishes, ∃ dishId dishPrice, dish = dishOf dishId dishPrice) :
    menuModelOfTree (menuModelTree [menuOf dishes]) = .ok [menuOf dishes] := by
  have hdishes : (dishes.map CategoryDish.toJson).mapM CategoryDish.fromJson =
      .ok (dishes.map id) := Json.mapM_map_eq_ok fun dish hdish => by
    obtain ⟨dishId, dishPrice, rfl⟩ := h dish hdish
    exact CategoryDish.fromJson_dishOf dishId dishPrice
  rw [List.map_id] at hdishes
  rw [menuModelTree, menuModelOfTree, Json.mapList_array]
  simp [menuOf, MenuModel.toJson, MenuModel.fromJson, TableMenuList.toJson,
    TableMenuList.fromJson, Json.get, List.lookup_cons, hdishes]
  rfl

end

/-! ## Texts -/

section
variable [DartDouble D]

@[simp] theorem Json.isFinite_ofString (s : Option String) :
    (Json.ofString s : Json D).isFinite = true := by
  cases s <;> simp [Json.ofString, Json.isFinite]

@[simp] theorem Json.isFinite_ofBool (b : Option Bool) :
    (Json.ofBool b : Json D).isFinite = true := by
  cases b <;> simp [Json.ofBool, Json.isFinite]

theorem Json.isFinite_ofDouble {d : Option D} (h : ∀ x, d = some x → DartDouble.isFinite x = true) :
    (Json.ofDouble d).isFinite = true := by
  cases d with
  | none => simp [Json.ofDouble, Json.isFinite]
  | some x => simpa [Json.ofDouble, Json.isFinite] using h x rfl

/-- Finite numbers, in the calories too. -/
abbrev FiniteCalories (c : D) : Prop := DartDouble.isFinite c = true

mutual
theorem CategoryDish.isFinite_toJson {dish : CategoryDish D} :
    dish.Valid FiniteCalories → dish.toJson.isFinite = true
  | .intro hprice hfinite hcalories htype haddons => by
    have hp : (Json.ofDouble dish.dishPrice).isFinite = true :=
      Json.isFinite_ofDouble fun x hx => by rw [hprice] at hx; cases hx; exact hfinite
    have hc : (Json.ofDouble dish.dishCalories).isFinite = true := Json.isFinite_ofDouble hcalories
    have ha : (dish.addonCat.elim Json.null
        fun cs => Json.array (cs.map AddonCat.toJson)).isFinite = true := by
      cases hcat : dish.addonCat with
      | none => simp [Json.isFinite]
      | some cs =>
        simpa [Json.isFinite] using
          Json.elemsFinite_map fun c hc => AddonCat.isFinite_toJson (haddons cs hcat c hc)
    rw [CategoryDish.toJson_eq]
    simp [Json.isFinite, Json.fieldsFinite, hp, hc, htype, ha]

theorem AddonCat.isFinite_toJson {addon : AddonCat D} :
    addon.Valid FiniteCalories → addon.toJson.isFinite = true
  | .intro hselection hdishes => by
    have hd := Json.elemsFinite_map fun d hd => CategoryDish.isFinite_toJson (hdishes d hd)
    rw [AddonCat.toJson_eq]
    simp [Json.isFinite, Json.fieldsFinite, hselection, hd]
end

theorem isFinite_menuModelTree {data : List (MenuModel (CategoryDish D))}
    (h : ∀ menu ∈ data, menu.Valid FiniteCalories) : (menuModelTree data).isFinite = true := by
  rw [menuModelTree, Json.isFinite]
  refine Json.elemsFinite_map fun menu hmenu => ?_
  have hcats : Json.elemsFinite (menu.tableMenuList.map TableMenuList.toJson) = true := by
    refine Json.elemsFinite_map fun category hcategory => ?_
    have hd := Json.elemsFinite_map fun d hd =>
      CategoryDish.isFinite_toJson (h menu hmenu category hcategory d hd)
    simp [TableMenuList.toJson, Json.isFinite, Json.fieldsFinite, hd]
  simp [MenuModel.toJson, Json.isFinite, Json.fieldsFinite, hcats]

/-- `json.decode(json.encode(tree)) = tree` -/
def Json.Codec.ReadsBack (json : Json.Codec D) (tree : Json D) : Prop :=
  tree.isFinite = true → json.decode (json.print tree) = .ok tree

/-- **Decoding undoes encoding.** Menus whose numbers are all finite are encoded, and decoding the
text gives the same menus with every order count at zero. -/
theorem menuModelFromJson_menuModelToJson [IntCast D] (json : Json.Codec D)
    {data : List (MenuModel (CategoryDish D))} (hdata : ∀ menu ∈ data, menu.Valid FiniteCalories)
    (hjson : json.ReadsBack (menuModelTree data)) :
    ∃ str, menuModelToJson json data = .ok str ∧
      menuModelFromJson json str = .ok (data.map MenuModel.zeroed) := by
  have hfinite := isFinite_menuModelTree hdata
  refine ⟨json.print (menuModelTree data), ?_, ?_⟩
  · rw [menuModelToJson, Json.Codec.encode, if_pos hfinite]
  · rw [menuModelFromJson, hjson hfinite]
    exact menuModelOfTree_menuModelTree hdata

end

section
variable {D : Type}

/-- A menu of one dish, ordered three times. -/
def menuOfOneDish (calories price : D) : MenuModel (CategoryDish D) where
  restaurantId := none
  restaurantName := none
  restaurantImage := none
  tableId := none
  tableName := none
  branchName := none
  nexturl := none
  tableMenuList := [{
    menuCategory := some "Soups"
    menuCategoryId := none
    menuCategoryImage := none
    nexturl := none
    categoryDishes := [{
      dishId := some "1"
      dishName := some "Soup"
      dishPrice := some price
      dishImage := none
      dishCurrency := some .SAR
      dishCalories := some calories
      dishDescription := some "With croutons"
      dishAvailability := some true
      dishType := .int 2
      nexturl := none
      addonCat := some []
      dishOrdeCount := some 3 }] }]

theorem menuOfOneDish_valid [DartDouble D] {P : D → Prop} {calories price : D} (hc : P calories)
    (hp : DartDouble.isFinite price = true) : (menuOfOneDish calories price).Valid P := by
  intro category hcategory dish hdish
  cases List.mem_singleton.mp hcategory
  cases List.mem_singleton.mp hdish
  exact .intro rfl hp (fun c h => by cases h; exact hc) (by simp [Json.isFinite])
    fun cs h => by cases h; simp

/-- The text of `menuOfOneDish` at 15 calories and a price of 7.5. -/
def soupText : String :=
  "[\x7b\"restaurant_id\":null,\"restaurant_name\":null,\"restaurant_image\":null," ++
  "\"table_id\":null,\"table_name\":null,\"branch_name\":null,\"nexturl\":null," ++
  "\"table_menu_list\":[\x7b\"menu_category\":\"Soups\",\"menu_category_id\":null," ++
  "\"menu_category_image\":null,\"nexturl\":null,\"category_dishes\":[\x7b" ++
  "\"dish_id\":\"1\",\"dish_name\":\"Soup\",\"dish_price\":7.5,\"dish_image\":null," ++
  "\"dish_currency\":\"SAR\",\"dish_calories\":15.0," ++
  "\"dish_description\":\"With croutons\"," ++
  "\"dish_Availability\":true,\"dish_Type\":2,\"nexturl\":null,\"addonCat\":[]\x7d]\x7d]\x7d]"

def soupMenu : List (MenuModel (CategoryDish Double)) :=
  [menuOfOneDish (.finite 15) (.finite (15 / 2))]

/-- The format, at the menu of one dish. -/
def soupCodec : Json.Codec Double where
  print _ := soupText
  decode str := if str = soupText then .ok (menuModelTree soupMenu) else .error .formatException

theorem decode_soupText : soupCodec.decode soupText = .ok (menuModelTree soupMenu) := by
  simp only [soupCodec, if_true]

theorem soupMenu_roundTrip : ∃ str, menuModelToJson soupCodec soupMenu = .ok str ∧
    menuModelFromJson soupCodec str = .ok (soupMenu.map MenuModel.zeroed) :=
  menuModelFromJson_menuModelToJson soupCodec
    (fun menu hmenu => by cases List.mem_singleton.mp hmenu; exact menuOfOneDish_valid rfl rfl)
    fun _ => decode_soupText

/-- Calories may be any `double`, but JSON has no text for an infinite one. -/
theorem infinite_calories_not_encoded :
    (menuOfOneDish Double.infinity (.finite 1)).Valid (fun _ => True) ∧
      ∀ json : Json.Codec Double,
        menuModelToJson json [menuOfOneDish .infinity (.finite 1)] =
          .error .jsonUnsupportedObjectError := by
  refine ⟨menuOfOneDish_valid trivial rfl, fun json => ?_⟩
  have hinfinite :
      (menuModelTree [menuOfOneDish Double.infinity (.finite 1)]).isFinite = false := by
    simp [menuModelTree, menuOfOneDish, MenuModel.toJson, TableMenuList.toJson,
      CategoryDish.toJson_eq, Json.isFinite, Json.elemsFinite, Json.fieldsFinite, Json.ofDouble,
      DartDouble.isFinite]
  rw [menuModelToJson, Json.Codec.encode, hinfinite]
  rfl

end

end MachineTest
