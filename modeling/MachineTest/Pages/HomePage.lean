import MachineTest.Model.SingleTonModel

/-! # The home page

The tap handlers of the home page. A handler is a partial function on the memory: `none` where the
page has no such widget or the widget's `onTap` is null. The enabling condition is read when the
page is built, and the page is rebuilt after every handler and on the way back from the cart.

The page is that of a release build, where a `Text` of null shows nothing. `HomePageState` has the
checks of a debug build too. -/

namespace MachineTest

variable {D : Type}

/-- `isAdd ? x++ : x--` -/
def sign (isAdd : Bool) : ℤ := if isAdd then 1 else -1

/-- What the card of a dish shows. -/
structure Card (D : Type) where
  dishName : Option String
  dishPrice : D
  dishCalories : ℤ
  dishOrdeCount : ℤ
  customizations : Bool
deriving DecidableEq

/-- The calls of `toInt` and `isNotEmpty` in the card of the dish do not throw. In a release build
nothing else can. -/
def DishRef.built [DartDouble D] (dish : DishRef D) : Bool :=
  (dish.dishCalories.bind DartDouble.toInt).isSome && dish.customizations.isSome

namespace HomePage

/-- The card of a dish. When the build throws, an error is shown in its place, without buttons. -/
def viewCardType [DartDouble D] (s : Memory D) (dish : DishRef D) : Option (Card D) := do
  let dishCalories ← dish.dishCalories.bind DartDouble.toInt
  let customizations ← dish.customizations
  some { dishName := dish.dishName, dishPrice := dish.dishPrice, dishCalories
         dishOrdeCount := s.dishOrdeCount dish, customizations }

/-- The cards of the page, category by category. -/
def tabbarView [DartDouble D] (s : Memory D) : List (List (Option (Card D))) :=
  s.categories.map fun tempMenutype => tempMenutype.categoryDishes.map (viewCardType s)

section
variable [DecidableEq D]

/-- `addAndMinus` for the dish at `index` of a category. The source also fills in a
`CheckoutListModel` that it then drops. -/
def addAndMinus (isAdd : Bool) (tempMenutype : TableMenuList (DishRef D)) (index : ℕ)
    (s : Memory D) : Option (Memory D) := do
  let dish ← tempMenutype.categoryDishes[index]?
  if s.dishOrdeCount dish = 0 ∧ isAdd = false then none
  else
    let s := s.count dish (sign isAdd)
    let s := { s with cartCount := s.cartCount + sign isAdd }
    if isAdd then
      some { s with cartData := s.cartData.insert dish }
    else if s.dishOrdeCount dish = 0 then
      some { s with cartData := s.cartData.remove dish.dishId }
    else
      some { s with cartData := s.cartData.insert dish }

/-- A tap on plus or minus of the card at `index` of category `mainIndex`. -/
def tapDish [DartDouble D] (isAdd : Bool) (mainIndex index : ℕ) (s : Memory D) :
    Option (Memory D) := do
  let tempMenutype ← s.categories[mainIndex]?
  let dish ← tempMenutype.categoryDishes[index]?
  let _ ← viewCardType s dish
  addAndMinus isAdd tempMenutype index s

end

/-- `badgeOntap`: unless the cart count is zero, remove the dishes of count zero from the cart and
push the checkout page. One loop collects the keys, another removes them. -/
def badgeOntap (s : Memory D) : Option (Memory D) :=
  if s.cartCount ≠ 0 then
    let toRemove := s.cartData.map.keys.filter fun key =>
      (s.cartData.map.get? key).any fun dish => s.dishOrdeCount dish = 0
    some { s with cartData := toRemove.foldl CartData.remove s.cartData }
  else none

/-! ## What the handlers do -/

/-- The cleaning pass keeps the dishes of nonzero count. -/
theorem badgeOntap_eq_some {s s' : Memory D} : badgeOntap s = some s' ↔
    s.cartCount ≠ 0 ∧
      s' = { s with cartData := s.cartData.filter fun dish => s.dishOrdeCount dish ≠ 0 } := by
  have hclean := CartData.foldl_remove_keys_filter s.cartData
    fun dish => dish.any fun dish => s.dishOrdeCount dish = 0
  rw [badgeOntap]
  split
  · rename_i h
    simp only [h, ne_eq, not_false_eq_true, true_and, hclean, Option.some.injEq]
    rw [eq_comm]
    simp
  · rename_i h
    simp [h]

theorem isSome_viewCardType [DartDouble D] (s : Memory D) (dish : DishRef D) :
    (viewCardType s dish).isSome = dish.built := by
  unfold viewCardType DishRef.built
  cases dish.dishCalories.bind DartDouble.toInt with
  | none => rfl
  | some _ => cases dish.customizations <;> rfl

end HomePage
end MachineTest
