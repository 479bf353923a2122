import MachineTest.Pages.HomePage
import MachineTest.Pages.HomePageState
import MachineTest.Verify.MenuRoundTrip
import MachineTest.Verify.MenuSchema

/-! # What the home page can show

The builders ask more of a menu than the decoder does: a first restaurant, and names, descriptions,
finite calories and add-on lists that are not null. -/

namespace MachineTest

variable {D : Type}

theorem orThrow_eq_ok {α : Type} {e : BuildError} {x : Option α} {a : α} :
    orThrow e x = .ok a ↔ x = some a := by
  cases x <;> simp [orThrow]

/-- The buttons of the card of a dish. -/
def CategoryDish.buttons (dish : CategoryDish D) : ButtonWidget where
  minusEnabled := !decide (dish.dishOrdeCount = some 0)
  dishOrdeCount := dish.dishOrdeCount
  plusEnabled := true

/-- The fields of the dish that its card needs. -/
structure CategoryDish.Shown [DartDouble D] (dish : CategoryDish D) : Prop where
  dishName : dish.dishName ≠ none
  dishDescription : dish.dishDescription ≠ none
  dishCalories : (dish.dishCalories.bind DartDouble.toInt).isSome = true
  addonCat : dish.addonCat ≠ none

namespace HomePageState

section
variable {category : TableMenuList (CategoryDish D)} {index : ℕ} {dish : CategoryDish D}

theorem dishAt_eq_ok :
    dishAt category index = .ok dish ↔ category.categoryDishes[index]? = some dish :=
  orThrow_eq_ok

/-- The buttons are built for every dish. -/
theorem buttonWidget_eq (h : category.categoryDishes[index]? = some dish) :
    buttonWidget category index = .ok dish.buttons := by
  simp only [buttonWidget, addAndMinus, dishAt_eq_ok.mpr h]
  simp [bind, Except.bind, pure, Except.pure, CategoryDish.buttons]

variable [DartDouble D]

theorem topContainer_eq_ok (h : category.categoryDishes[index]? = some dish)
    {top : TopContainer D} : topContainer category index = .ok top ↔
      dish.dishName = some top.dishName ∧ dish.dishPrice = top.dishPrice ∧
        dish.dishCalories.bind DartDouble.toInt = some top.dishCalories := by
  constructor
  · intro htop
    obtain ⟨dish', hdish, htop⟩ := Json.bind_eq_ok.mp htop
    obtain rfl : dish' = dish := Option.some.inj ((dishAt_eq_ok.mp hdish).symm.trans h)
    obtain ⟨dishName, hname, htop⟩ := Json.bind_eq_ok.mp htop
    obtain ⟨calories, hcalories, htop⟩ := Json.bind_eq_ok.mp htop
    obtain ⟨dishCalories, hint, htop⟩ := Json.bind_eq_ok.mp htop
    cases htop
    refine ⟨orThrow_eq_ok.mp hname, rfl, ?_⟩
    rw [orThrow_eq_ok.mp hcalories]
    exact orThrow_eq_ok.mp hint
  · rintro ⟨hname, hprice, hcalories⟩
    obtain ⟨calories, hcalories, hint⟩ := Option.bind_eq_some_iff.mp hcalories
    refine Json.bind_eq_ok.mpr ⟨_, dishAt_eq_ok.mpr h, ?_⟩
    refine Json.bind_eq_ok.mpr ⟨_, orThrow_eq_ok.mpr hname, ?_⟩
    refine Json.bind_eq_ok.mpr ⟨_, orThrow_eq_ok.mpr hcalories, ?_⟩
    refine Json.bind_eq_ok.mpr ⟨_, orThrow_eq_ok.mpr hint, ?_⟩
    rw [hprice]
    rfl

/-- A card shows the fields of its dish. -/
theorem viewCardType_eq_ok (h : category.categoryDishes[index]? = some dish)
    {card : CardWidget D} : viewCardType category index = .ok card ↔
      topContainer category index = .ok card.topContainer ∧
      dish.dishDescription = some card.dishDescription ∧ card.buttonWidget = dish.buttons ∧
      ∃ addonCat, dish.addonCat = some addonCat ∧ card.customizations = !addonCat.isEmpty := by
  constructor
  · intro hcard
    obtain ⟨top, htop, hcard⟩ := Json.bind_eq_ok.mp hcard
    obtain ⟨dish', hdish, hcard⟩ := Json.bind_eq_ok.mp hcard
    obtain rfl : dish' = dish := Option.some.inj ((dishAt_eq_ok.mp hdish).symm.trans h)
    obtain ⟨dishDescription, hdescription, hcard⟩ := Json.bind_eq_ok.mp hcard
    obtain ⟨button, hbutton, hcard⟩ := Json.bind_eq_ok.mp hcard
    obtain ⟨addonCat, haddonCat, hcard⟩ := Json.bind_eq_ok.mp hcard
    cases hcard
    cases (buttonWidget_eq h).symm.trans hbutton
    exact ⟨htop, orThrow_eq_ok.mp hdescription, rfl, addonCat, orThrow_eq_ok.mp haddonCat, rfl⟩
  · rintro ⟨htop, hdescription, hbutton, addonCat, haddonCat, hcustomizations⟩
    refine Json.bind_eq_ok.mpr ⟨_, htop, Json.bind_eq_ok.mpr ⟨_, dishAt_eq_ok.mpr h, ?_⟩⟩
    refine Json.bind_eq_ok.mpr ⟨_, orThrow_eq_ok.mpr hdescription, ?_⟩
    refine Json.bind_eq_ok.mpr ⟨_, buttonWidget_eq h, ?_⟩
    refine Json.bind_eq_ok.mpr ⟨_, orThrow_eq_ok.mpr haddonCat, ?_⟩
    rw [← hbutton, ← hcustomizations]
    rfl

/-- The card of a dish is built if and only if the fields it needs are there. -/
theorem exists_viewCardType_iff (h : category.categoryDishes[index]? = some dish) :
    (∃ card, viewCardType category index = .ok card) ↔ dish.Shown := by
  constructor
  · rintro ⟨card, hcard⟩
    obtain ⟨htop, hdescription, _, addonCat, haddonCat, _⟩ := (viewCardType_eq_ok h).mp hcard
    obtain ⟨hname, _, hcalories⟩ := (topContainer_eq_ok h).mp htop
    exact ⟨Option.ne_none_iff_exists'.mpr ⟨_, hname⟩,
      Option.ne_none_iff_exists'.mpr ⟨_, hdescription⟩, Option.isSome_iff_exists.mpr ⟨_, hcalories⟩,
      Option.ne_none_iff_exists'.mpr ⟨_, haddonCat⟩⟩
  · intro hshown
    obtain ⟨dishName, hname⟩ := Option.ne_none_iff_exists'.mp hshown.dishName
    obtain ⟨dishDescription, hdescription⟩ := Option.ne_none_iff_exists'.mp hshown.dishDescription
    obtain ⟨dishCalories, hcalories⟩ := Option.isSome_iff_exists.mp hshown.dishCalories
    obtain ⟨addonCat, haddonCat⟩ := Option.ne_none_iff_exists'.mp hshown.addonCat
    have htop : topContainer category index =
        .ok { dishName, dishPrice := dish.dishPrice, dishCalories } :=
      (topContainer_eq_ok h).mpr ⟨hname, rfl, hcalories⟩
    refine ⟨{ topContainer := { dishName, dishPrice := dish.dishPrice, dishCalories }
              dishDescription, buttonWidget := dish.buttons
              customizations := !addonCat.isEmpty }, ?_⟩
    exact (viewCardType_eq_ok h).mpr ⟨htop, hdescription, rfl, addonCat, haddonCat, rfl⟩

/-- The card of a decoded dish shows the same on the home page of the running app, which counts for
itself. -/
theorem viewCardType_object [Zero D] [IntCast D] {json : Json D} {card : CardWidget D}
    (hdecoded : CategoryDish.fromJson json = .ok dish)
    (hcard : viewCardType category index = .ok card)
    (h : category.categoryDishes[index]? = some dish) (s : Memory D) (fetch menu i : ℕ) :
    ∃ dishPrice, card.topContainer.dishPrice = some dishPrice ∧
      HomePage.viewCardType s (dish.object fetch menu i index) = some {
        dishName := some card.topContainer.dishName
        dishPrice
        dishCalories := card.topContainer.dishCalories
        dishOrdeCount := s.dishOrdeCount (dish.object fetch menu i index)
        customizations := card.customizations } := by
  obtain ⟨dishPrice, hdecodedPrice⟩ := CategoryDish.fromJson_dishPrice hdecoded
  obtain ⟨htop, _, _, addonCat, haddonCat, hcustomizations⟩ := (viewCardType_eq_ok h).mp hcard
  obtain ⟨hname, hprice, hcalories⟩ := (topContainer_eq_ok h).mp htop
  refine ⟨dishPrice, hprice.symm.trans hdecodedPrice, ?_⟩
  rw [HomePage.viewCardType]
  simp only [CategoryDish.object, hname, hdecodedPrice, hcalories, haddonCat, hcustomizations]
  rfl

end

/-! ## The page -/

/-- The name that the drawer shows is there. -/
def DrawerShown (isLoginUsingPhonenumber : Bool) (user : Option Profile) : Prop :=
  ∃ profile, user = some profile ∧
    (if isLoginUsingPhonenumber then profile.phoneNumber else profile.displayName) ≠ none

theorem exists_drawerHeader_iff {isLoginUsingPhonenumber : Bool} {user : Option Profile} :
    (∃ header, drawerHeader isLoginUsingPhonenumber user = .ok header) ↔
      DrawerShown isLoginUsingPhonenumber user := by
  constructor
  · rintro ⟨header, h⟩
    obtain ⟨profile, hprofile, h⟩ := Json.bind_eq_ok.mp h
    obtain ⟨name, hname, _⟩ := Json.bind_eq_ok.mp h
    exact ⟨profile, orThrow_eq_ok.mp hprofile,
      Option.ne_none_iff_exists'.mpr ⟨name, orThrow_eq_ok.mp hname⟩⟩
  · rintro ⟨profile, hprofile, hname⟩
    obtain ⟨name, hname⟩ := Option.ne_none_iff_exists'.mp hname
    exact ⟨_, Json.bind_eq_ok.mpr ⟨profile, orThrow_eq_ok.mpr hprofile,
      Json.bind_eq_ok.mpr ⟨name, orThrow_eq_ok.mpr hname, rfl⟩⟩⟩

section
variable {menu : MenuModel (CategoryDish D)} {menus : List (MenuModel (CategoryDish D))}

theorem exists_tabbarList_iff : (∃ tabs, tabbarList (menu :: menus) = .ok tabs) ↔
    ∀ category ∈ menu.tableMenuList, category.menuCategory ≠ none := by
  have htabs : (∃ tabs, tabbarList (menu :: menus) = .ok tabs) ↔
      ∃ tabs, List.Forall₂ (fun category tab =>
        orThrow .assertionError category.menuCategory = .ok tab) menu.tableMenuList tabs :=
    exists_congr fun tabs => Json.mapM_eq_ok
  rw [htabs, Json.exists_forall₂]
  refine forall₂_congr fun category _ => ?_
  rw [Option.ne_none_iff_exists']
  exact exists_congr fun tab => orThrow_eq_ok

variable [DartDouble D]

/-- Every builder of the page succeeds, that of every card included. -/
def Builds (isLoginUsingPhonenumber : Bool) (user : Option Profile)
    (menuModel : List (MenuModel (CategoryDish D))) : Prop :=
  ∃ length tabs drawer views,
    mainWidget isLoginUsingPhonenumber user (some menuModel) =
      .ok (.tabs length tabs drawer views) ∧
    ∀ view ∈ views, ∀ index < view.itemCount, ∃ card, view.itemBuilder index = .ok card

/-- The menu that the page shows has a name for every tab and what the cards need. -/
def MenuShown (menu : MenuModel (CategoryDish D)) : Prop :=
  ∀ category ∈ menu.tableMenuList,
    category.menuCategory ≠ none ∧ ∀ dish ∈ category.categoryDishes, dish.Shown

theorem builds_iff {isLoginUsingPhonenumber : Bool} {user : Option Profile}
    {menuModel : List (MenuModel (CategoryDish D))} :
    Builds isLoginUsingPhonenumber user menuModel ↔
      DrawerShown isLoginUsingPhonenumber user ∧ ∃ menu ∈ menuModel.head?, MenuShown menu := by
  cases menuModel with
  | nil =>
    refine iff_of_false ?_ ?_
    · rintro ⟨_, _, _, _, hpage, _⟩
      cases hpage
    · rintro ⟨_, _, hmenu, _⟩
      cases hmenu
  | cons menu menus =>
    constructor
    · rintro ⟨length, tabs, drawer, views, hpage, hcards⟩
      obtain ⟨temp, _, hpage⟩ := Json.bind_eq_ok.mp hpage
      obtain ⟨tabs, htabs, hpage⟩ := Json.bind_eq_ok.mp hpage
      obtain ⟨drawer, hdrawer, hpage⟩ := Json.bind_eq_ok.mp hpage
      obtain ⟨views, hviews, hpage⟩ := Json.bind_eq_ok.mp hpage
      cases hpage
      cases hviews
      refine ⟨exists_drawerHeader_iff.mp ⟨drawer, hdrawer⟩, menu, rfl, fun category hcategory => ?_⟩
      refine ⟨exists_tabbarList_iff.mp ⟨tabs, htabs⟩ category hcategory, fun dish hdish => ?_⟩
      obtain ⟨index, hindex⟩ := List.mem_iff_getElem?.mp hdish
      obtain ⟨hlt, _⟩ := List.getElem?_eq_some_iff.mp hindex
      exact (exists_viewCardType_iff hindex).mp (hcards _ (List.mem_map_of_mem hcategory) index hlt)
    · rintro ⟨hdrawer, _, hmenu, hshown⟩
      cases hmenu
      obtain ⟨drawer, hdrawer⟩ := exists_drawerHeader_iff.mpr hdrawer
      obtain ⟨tabs, htabs⟩ : ∃ tabs, tabbarList (menu :: menus) = .ok tabs :=
        exists_tabbarList_iff.mpr fun category hcategory => (hshown category hcategory).1
      refine ⟨_, tabs, drawer, _, Json.bind_eq_ok.mpr ⟨menu.tableMenuList, rfl, Json.bind_eq_ok.mpr
        ⟨tabs, htabs, Json.bind_eq_ok.mpr ⟨drawer, hdrawer, rfl⟩⟩⟩, fun view hview index hlt => ?_⟩
      obtain ⟨category, hcategory, rfl⟩ := List.mem_map.mp hview
      have hindex : category.categoryDishes[index]? = some category.categoryDishes[index] :=
        List.getElem?_eq_getElem hlt
      exact (exists_viewCardType_iff hindex).mpr
        ((hshown category hcategory).2 _ (List.getElem_mem hlt))

end

end HomePageState

/-! ## The documents -/

namespace Json

variable {j : Json D}

theorem asString_ne_none {s : Option String} (h : j.asString = .ok s) : s ≠ none ↔ j ≠ .null := by
  cases j with
  | null => cases h; exact iff_of_false (fun h => h rfl) fun h => h rfl
  | string s => cases h; exact iff_of_true (Option.some_ne_none s) fun h => by cases h
  | _ => cases h

theorem isSome_toInt [DartDouble D] {d : Option D} (h : j.asDouble = .ok d) :
    (d.bind DartDouble.toInt).isSome = true ↔
      ∃ x, j = .double x ∧ (DartDouble.toInt x).isSome = true := by
  cases j with
  | null =>
    cases h
    refine iff_of_false Bool.false_ne_true ?_
    rintro ⟨_, h, _⟩
    cases h
  | double x =>
    cases h
    refine ⟨fun hx => ⟨x, rfl, hx⟩, ?_⟩
    rintro ⟨_, h, hx⟩
    cases h
    exact hx
  | _ => cases h

/-- What holds of the elements of a decoded list holds of those of the document. -/
theorem forall_decoded_iff {β : Type} {f : Json D → Except DartError β} {elems : List (Json D)}
    {ys : List β} (h : List.Forall₂ (fun x y => f x = .ok y) elems ys) {P : β → Prop}
    {Q : Json D → Prop} (hPQ : ∀ x y, f x = .ok y → (P y ↔ Q x)) :
    (∀ y ∈ ys, P y) ↔ ∀ x ∈ elems, Q x := by
  induction h with
  | nil => simp
  | cons hx _ ih => rw [List.forall_mem_cons, List.forall_mem_cons, hPQ _ _ hx, ih]

end Json

/-- A dish of a document that has what its card needs. -/
structure DishShown [DartDouble D] (dish : Json D) : Prop where
  dishName : dish.field "dish_name" ≠ .null
  dishDescription : dish.field "dish_description" ≠ .null
  dishCalories : ∃ d, dish.field "dish_calories" = .double d ∧ (DartDouble.toInt d).isSome = true
  addonCat : dish.field "addonCat" ≠ .null

/-- A document whose first restaurant has a name for every tab, and what the cards need. -/
def DocumentShown [DartDouble D] (j : Json D) : Prop :=
  ∃ menu ∈ j.elems.head?, ∀ category ∈ (menu.field "table_menu_list").elems,
    category.field "menu_category" ≠ .null ∧
      ∀ dish ∈ (category.field "category_dishes").elems, DishShown dish

section
variable [DartDouble D] [IntCast D]

theorem CategoryDish.shown_iff {j : Json D} {dish : CategoryDish D}
    (h : CategoryDish.fromJson j = .ok dish) : dish.Shown ↔ DishShown j := by
  obtain ⟨fields, rfl, hread⟩ := CategoryDish.fromJson_iff.mp h
  have hname := Json.asString_ne_none hread.dishName
  have hdescription := Json.asString_ne_none hread.dishDescription
  have hcalories := Json.isSome_toInt hread.dishCalories
  have haddonCat : dish.addonCat ≠ none ↔ Json.get fields "addonCat" ≠ .null := by
    rcases hread.addonCat with ⟨hnull, hnone⟩ | ⟨elems, addonCat, helems, hsome, _⟩
    · exact iff_of_false (fun h => h hnone) fun h => h hnull
    · refine iff_of_true ?_ ?_
      · rw [hsome]
        exact Option.some_ne_none addonCat
      · rw [helems]
        exact fun h => by cases h
  constructor
  · intro hshown
    exact ⟨hname.mp hshown.dishName, hdescription.mp hshown.dishDescription,
      hcalories.mp hshown.dishCalories, haddonCat.mp hshown.addonCat⟩
  · intro hshown
    exact ⟨hname.mpr hshown.dishName, hdescription.mpr hshown.dishDescription,
      hcalories.mpr hshown.dishCalories, haddonCat.mpr hshown.addonCat⟩

theorem MenuModel.shown_iff {j : Json D} {menu : MenuModel (CategoryDish D)}
    (h : MenuModel.fromJson j = .ok menu) : HomePageState.MenuShown menu ↔
      ∀ category ∈ (j.field "table_menu_list").elems, category.field "menu_category" ≠ .null ∧
        ∀ dish ∈ (category.field "category_dishes").elems, DishShown dish := by
  obtain ⟨fields, rfl, hread⟩ := MenuModel.fromJson_iff.mp h
  obtain ⟨elems, helems, hcategories⟩ := hread.tableMenuList
  have hfield : (Json.field (.object fields) "table_menu_list").elems = elems :=
    congrArg Json.elems helems
  rw [hfield]
  refine Json.forall_decoded_iff hcategories fun x category hcategory => ?_
  obtain ⟨fields, rfl, hread⟩ := TableMenuList.fromJson_iff.mp hcategory
  obtain ⟨elems, helems, hdishes⟩ := hread.categoryDishes
  have hfield : (Json.field (.object fields) "category_dishes").elems = elems :=
    congrArg Json.elems helems
  rw [hfield]
  exact and_congr (Json.asString_ne_none hread.menuCategory)
    (Json.forall_decoded_iff hdishes fun x dish hdish => CategoryDish.shown_iff hdish)

theorem documentShown_iff {j : Json D} {menus : List (MenuModel (CategoryDish D))}
    (h : menuModelOfTree j = .ok menus) :
    (∃ menu ∈ menus.head?, HomePageState.MenuShown menu) ↔ DocumentShown j := by
  obtain ⟨elems, rfl, hmenus⟩ := Json.mapList_eq_ok.mp h
  cases hmenus with
  | nil => simp [DocumentShown, Json.elems]
  | cons hmenu _ =>
    simpa [DocumentShown, Json.elems] using MenuModel.shown_iff hmenu

/-- **What the home page can show.** For a body that is decoded, every builder of the home page
succeeds if and only if the drawer has a name to show, and the document has a first restaurant with
a name for every tab and what the cards need. -/
theorem HomePageState.builds_decoded_iff (json : Json.Codec D) {body : String}
    {menus : List (MenuModel (CategoryDish D))} (h : menuModelFromJson json body = .ok menus)
    (isLoginUsingPhonenumber : Bool) (user : Option Profile) :
    Builds isLoginUsingPhonenumber user menus ↔ DrawerShown isLoginUsingPhonenumber user ∧
      ∃ tree, json.decode body = .ok tree ∧ DocumentShown tree := by
  obtain ⟨tree, htree, hmenus⟩ := Json.bind_eq_ok.mp h
  rw [builds_iff, documentShown_iff hmenus]
  refine and_congr_right fun _ => ⟨fun hshown => ⟨tree, htree, hshown⟩, ?_⟩
  rintro ⟨tree', htree', hshown⟩
  cases htree.symm.trans htree'
  exact hshown

end

theorem menuModelOfTree_soupMenu :
    menuModelOfTree (menuModelTree soupMenu) = .ok (soupMenu.map MenuModel.zeroed) := by
  have hvalid : ∀ menu ∈ soupMenu, menu.Valid FiniteCalories := fun menu hmenu => by
    cases List.mem_singleton.mp hmenu
    exact menuOfOneDish_valid rfl rfl
  exact menuModelOfTree_menuModelTree hvalid

/-- A user who signed in with Google. -/
def aliceProfile : Profile where
  uid := "alice"
  displayName := some "Alice"
  photoURL := none
  phoneNumber := none

/-- With her name the page is built, and without one it is not. -/
theorem HomePageState.builds_decoded_iff_soupMenu :
    Builds false (some aliceProfile) (soupMenu.map MenuModel.zeroed) ∧
      ¬Builds true (some aliceProfile) (soupMenu.map MenuModel.zeroed) := by
  have hdecoded : menuModelFromJson soupCodec soupText = .ok (soupMenu.map MenuModel.zeroed) := by
    rw [menuModelFromJson, decode_soupText]
    exact menuModelOfTree_soupMenu
  constructor
  · refine (builds_decoded_iff soupCodec hdecoded false (some aliceProfile)).mpr
      ⟨⟨aliceProfile, rfl, Option.some_ne_none _⟩, menuModelTree soupMenu, decode_soupText, ?_⟩
    refine (documentShown_iff menuModelOfTree_soupMenu).mp ⟨_, rfl, fun category hcategory => ?_⟩
    cases List.mem_singleton.mp hcategory
    refine ⟨Option.some_ne_none _, fun dish hdish => ?_⟩
    cases List.mem_singleton.mp hdish
    rw [CategoryDish.zeroed_eq]
    exact ⟨Option.some_ne_none _, Option.some_ne_none _, rfl, Option.some_ne_none _⟩
  · intro hbuilds
    obtain ⟨⟨profile, hprofile, hname⟩, _⟩ :=
      (builds_decoded_iff soupCodec hdecoded true (some aliceProfile)).mp hbuilds
    cases hprofile
    exact hname rfl

/-- The format, at the empty list. -/
def emptyCodec : Json.Codec ℚ where
  print _ := "[]"
  decode str := if str = "[]" then .ok (.array []) else .error .formatException

/-- A dish whose add-on list is left out. -/
def plainDish : List (String × Json ℚ) :=
  [("dish_name", .string "Soup"), ("dish_price", .double (15 / 2)), ("dish_calories", .double 15),
    ("dish_description", .string "With croutons")]

/-- No restaurant at all is decoded, and a dish without add-ons is. The page indexes the empty list,
and asks null whether it is empty. -/
theorem HomePageState.decoded_not_built :
    (menuModelFromJson emptyCodec "[]" = .ok [] ∧
      mainWidget false (some aliceProfile) (some ([] : List (MenuModel (CategoryDish ℚ)))) =
        .error .rangeError) ∧
    ∃ dish, CategoryDish.fromJson (.object plainDish) = .ok dish ∧
      viewCardType { menuCategory := some "Soups", menuCategoryId := none, menuCategoryImage := none
                     nexturl := none, categoryDishes := [dish] } 0 =
        .error .noSuchMethodError := by
  refine ⟨⟨rfl, rfl⟩, { dishId := none, dishName := some "Soup", dishPrice := some (15 / 2)
                        dishImage := none, dishCurrency := none, dishCalories := some 15
                        dishDescription := some "With croutons", dishAvailability := none
                        dishType := .null, nexturl := none, addonCat := none
                        dishOrdeCount := some 0 }, ?_, rfl⟩
  exact CategoryDish.fromJson_iff.mpr
    ⟨_, rfl, rfl, rfl, ⟨_, rfl, rfl⟩, rfl, rfl, rfl, rfl, rfl, rfl, rfl, .inl ⟨rfl, rfl⟩, rfl⟩

end MachineTest
