import MachineTest.Model.MenuModel

/-! # The widgets of the home page

What the builders of `HomePageState` make of decoded menus. A widget stands for what it shows and
for the taps it takes. A builder throws where the source indexes a list beyond its end, calls a
method on null, converts a `double` that is not finite, or, in a debug build, gives null to a
`Text`.

`HomePage.viewCardType` is the same card on the dish objects of the running app, cut down to what
the taps depend on (`HomePageState.viewCardType_object`). It is that of a release build, where a
`Text` of null shows nothing. -/

namespace MachineTest

/-- What building a widget can throw. -/
inductive BuildError where
  | rangeError
  | noSuchMethodError
  /-- `toInt` of an infinite or NaN `double`. -/
  | unsupportedError
  /-- A `Text` without a string, in a debug build. -/
  | assertionError
deriving DecidableEq

def orThrow {α : Type} (e : BuildError) : Option α → Except BuildError α
  | some a => .ok a
  | none => .error e

variable {D : Type}

/-- The name, price and calories of a dish. -/
structure TopContainer (D : Type) where
  dishName : String
  dishPrice : Option D
  dishCalories : ℤ

/-- Minus, the count of the dish, and plus. A button whose `onTap` is null is not enabled. -/
structure ButtonWidget where
  minusEnabled : Bool
  dishOrdeCount : Option ℤ
  plusEnabled : Bool

structure CardWidget (D : Type) where
  topContainer : TopContainer D
  dishDescription : String
  buttonWidget : ButtonWidget
  customizations : Bool

/-- `ListView.builder`, which builds an item when it comes into view. -/
structure ListViewBuilder (D : Type) where
  itemCount : ℕ
  itemBuilder : ℕ → Except BuildError (CardWidget D)

/-- What the drawer reads of the Firebase user. -/
structure Profile where
  uid : String
  displayName : Option String
  photoURL : Option String
  phoneNumber : Option String
deriving DecidableEq

/-- The picture of the user (null where an icon stands for it), a name, and the id. -/
structure DrawerHeader where
  avatar : Option String
  name : String
  uid : String

inductive MainWidget (D : Type) where
  /-- `DefaultTabController` with the tabs, the drawer and the pages of the tabs. -/
  | tabs (length : ℕ) (tabbarList : List String) (drawer : DrawerHeader)
    (tabbarView : List (ListViewBuilder D))
  | loadingIndicator

namespace HomePageState

section
variable (tempMenutype : TableMenuList (CategoryDish D)) (index : ℕ)

/-- `tempMenutype.categoryDishes[index]` -/
def dishAt : Except BuildError (CategoryDish D) :=
  orThrow .rangeError tempMenutype.categoryDishes[index]?

def topContainer [DartDouble D] : Except BuildError (TopContainer D) := do
  let dish ← dishAt tempMenutype index
  let dishName ← orThrow .assertionError dish.dishName
  let calories ← orThrow .noSuchMethodError dish.dishCalories
  let dishCalories ← orThrow .unsupportedError (DartDouble.toInt calories)
  pure { dishName, dishPrice := dish.dishPrice, dishCalories }

/-- Whether the button of `addAndMinus` is enabled. -/
def addAndMinus (isAdd : Bool) : Except BuildError Bool := do
  let dish ← dishAt tempMenutype index
  pure !(decide (dish.dishOrdeCount = some 0) && !isAdd)

def buttonWidget : Except BuildError ButtonWidget := do
  let minusEnabled ← addAndMinus tempMenutype index false
  let dish ← dishAt tempMenutype index
  let plusEnabled ← addAndMinus tempMenutype index true
  pure { minusEnabled, dishOrdeCount := dish.dishOrdeCount, plusEnabled }

def viewCardType [DartDouble D] : Except BuildError (CardWidget D) := do
  let topContainer ← topContainer tempMenutype index
  let dish ← dishAt tempMenutype index
  let dishDescription ← orThrow .assertionError dish.dishDescription
  let buttonWidget ← buttonWidget tempMenutype index
  let addonCat ← orThrow .noSuchMethodError dish.addonCat
  pure { topContainer, dishDescription, buttonWidget, customizations := !addonCat.isEmpty }

end

section
variable (menuModel : List (MenuModel (CategoryDish D)))

/-- `Singleton.singleton.menuModel[0].tableMenuList` -/
def tableMenuList : Except BuildError (List (TableMenuList (CategoryDish D))) := do
  let menu ← orThrow .rangeError menuModel[0]?
  pure menu.tableMenuList

/-- The texts of the tabs. -/
def tabbarList : Except BuildError (List String) := do
  let temp ← tableMenuList menuModel
  temp.mapM fun tempMenutype => orThrow .assertionError tempMenutype.menuCategory

def tabbarView [DartDouble D] : Except BuildError (List (ListViewBuilder D)) := do
  let temp ← tableMenuList menuModel
  pure (temp.map fun tempMenutype =>
    { itemCount := tempMenutype.categoryDishes.length
      itemBuilder := fun index => viewCardType tempMenutype index })

end

section
variable (isLoginUsingPhonenumber : Bool) (user : Option Profile)

def drawerHeader : Except BuildError DrawerHeader := do
  let user ← orThrow .noSuchMethodError user
  let avatar := if isLoginUsingPhonenumber then none else user.photoURL
  let name ← orThrow .assertionError
    (if isLoginUsingPhonenumber then user.phoneNumber else user.displayName)
  pure { avatar, name, uid := user.uid }

def mainWidget [DartDouble D] :
    Option (List (MenuModel (CategoryDish D))) → Except BuildError (MainWidget D)
  | some menuModel => do
    let temp ← tableMenuList menuModel
    let tabs ← tabbarList menuModel
    let drawer ← drawerHeader isLoginUsingPhonenumber user
    let views ← tabbarView menuModel
    pure (.tabs temp.length tabs drawer views)
  | none => pure .loadingIndicator

end

end HomePageState
end MachineTest
