import MachineTest.Pages.HomePage

/-! # The checkout page and its controller -/

namespace MachineTest

variable {D : Type}

namespace CheckoutController

/-- The loop over the keys of the cart, from `0.0`. -/
def calculateTotalAmount [Zero D] [Add D] [Mul D] [IntCast D] (s : Memory D) : D :=
  s.cartData.map.keys.foldl (fun totalPrice key =>
    match s.cartData.map.get? key with
    | some tempMenu => totalPrice + tempMenu.dishPrice * (s.dishOrdeCount tempMenu : D)
    | none => totalPrice) 0

/-- Set every dish of the cart to count zero, then clear the cart. -/
def resetCount [DecidableEq D] (s : Memory D) : Memory D :=
  let dishOrdeCount := s.cartData.map.keys.foldl (fun count key =>
    match s.cartData.map.get? key with
    | some tempMenu => Function.update count tempMenu 0
    | none => count) s.dishOrdeCount
  { s with dishOrdeCount, cartData := ∅, cartCount := 0 }

end CheckoutController

structure CheckoutModel (D : Type) where
  totalPrice : D
deriving DecidableEq

/-- What a row of the page shows. The texts are functions of these values. -/
structure Row (D : Type) where
  dishName : Option String
  dishOrdeCount : ℤ
  lineTotal : D
  dishPrice : D
  dishCalories : Option ℤ
deriving DecidableEq

namespace CheckoutPage

open CheckoutController

def initState [Zero D] [Add D] [Mul D] [IntCast D] (s : Memory D) : CheckoutModel D where
  totalPrice := calculateTotalAmount s

/-- `addAndMinus` for the row of `key`. Both buttons are always enabled. -/
def addAndMinus [DecidableEq D] [Add D] [Sub D] (isAdd : Bool) (key : Option String)
    (s : Memory D) (model : CheckoutModel D) : Option (Memory D × CheckoutModel D) := do
  let dish ← s.cartData.map.get? key
  let s := s.count dish (sign isAdd)
  let s := { s with cartCount := s.cartCount + sign isAdd }
  let totalPrice :=
    if isAdd then model.totalPrice + dish.dishPrice else model.totalPrice - dish.dishPrice
  some (s, { model with totalPrice })

section
variable [DartDouble D] [Mul D] [IntCast D]

def cardContent (s : Memory D) (dish : DishRef D) : Row D where
  dishName := dish.dishName
  dishOrdeCount := s.dishOrdeCount dish
  lineTotal := dish.dishPrice * (s.dishOrdeCount dish : D)
  dishPrice := dish.dishPrice
  dishCalories := dish.dishCalories.bind DartDouble.toInt

/-- The rows of the page, one for each key of the cart. -/
def menuList (s : Memory D) : List (Row D) :=
  s.cartData.map.keys.filterMap fun key => (s.cartData.map.get? key).map (cardContent s)

end

/-- "`cartData.length` Dishes - `cartCount` Items" -/
def topHeading (s : Memory D) : ℕ × ℤ := (s.cartData.map.entries.length, s.cartCount)

end CheckoutPage

/-! ## The loops over the cart -/

section
variable {s : Memory D}

theorem menuList_eq [DartDouble D] [Mul D] [IntCast D] :
    CheckoutPage.menuList s = s.cartData.dishes.map (CheckoutPage.cardContent s) := by
  rw [CheckoutPage.menuList, LinkedMap.filterMap_keys_get?, CartData.dishes, LinkedMap.values,
    List.map_map]
  rfl

/-- In exact arithmetic the loop computes the amount due for the dishes of the cart. -/
theorem calculateTotalAmount_eq {R : Type} [CommRing R] (s : Memory R) :
    CheckoutController.calculateTotalAmount s =
      Order.bill s.cartData.dishes DishRef.dishPrice s.dishOrdeCount := by
  refine (LinkedMap.foldl_keys_get? s.cartData.map
    (fun totalPrice dish => match dish with
      | some tempMenu => totalPrice + tempMenu.dishPrice * (s.dishOrdeCount tempMenu : R)
      | none => totalPrice) 0).trans ?_
  rw [Order.bill, CartData.dishes, LinkedMap.values, List.map_map]
  exact foldl_add_map (fun e : Option String × DishRef R =>
    e.2.dishPrice * (s.dishOrdeCount e.2 : R)) s.cartData.map.entries

theorem foldl_update_zero [DecidableEq D] (l : List (DishRef D)) (o : Order (DishRef D))
    (d : DishRef D) :
    l.foldl (fun count e => Function.update count e 0) o d = if d ∈ l then 0 else o d := by
  induction l generalizing o with
  | nil => simp
  | cons e l ih =>
    rw [List.foldl_cons, ih]
    by_cases hl : d ∈ l
    · simp [hl]
    · by_cases he : d = e
      · simp [he]
      · simp [hl, he]

/-- `resetCount` sets the dishes of the cart, and only these, to zero. -/
theorem resetCount_dishOrdeCount [DecidableEq D] (d : DishRef D) :
    (CheckoutController.resetCount s).dishOrdeCount d =
      if d ∈ s.cartData.dishes then 0 else s.dishOrdeCount d := by
  rw [← foldl_update_zero, CartData.dishes, LinkedMap.values, List.foldl_map,
    CheckoutController.resetCount]
  exact congrFun (LinkedMap.foldl_keys_get? s.cartData.map
    (fun count dish => match dish with
      | some tempMenu => Function.update count tempMenu 0
      | none => count) s.dishOrdeCount) d

@[simp] theorem resetCount_cartData [DecidableEq D] :
    (CheckoutController.resetCount s).cartData = ∅ := rfl

@[simp] theorem resetCount_cartCount [DecidableEq D] :
    (CheckoutController.resetCount s).cartCount = 0 := rfl

end
end MachineTest
