import MachineTest.Theory.Order
import MachineTest.Model.MenuModel

/-! # The singleton and the dish objects

The process-wide `Singleton`, and the `CategoryDish` objects that the menu and the cart share by
reference. Of the fields of a dish object only `dishOrdeCount` is assigned after construction, so
a reference (`DishRef`) carries the others, and `Memory` holds the counts.

A count is an `ℤ`: it leaves the range of Dart's 64-bit `int` only after as many taps. -/

namespace MachineTest

inductive LoginMethod where
  | google
  | phone
deriving DecidableEq

/-- A Firebase user, with the method it signed in by. -/
structure User where
  uid : String
  method : LoginMethod
deriving DecidableEq

/-- An id token, which names its user. -/
structure Token where
  user : User
  serial : ℕ
deriving DecidableEq

/-- A reference to a dish object. The first four fields are its identity: the fetch whose body it
was decoded from and its place in that body. -/
structure DishRef (D : Type) where
  fetch : ℕ
  menu : ℕ
  category : ℕ
  index : ℕ
  dishId : Option String
  dishName : Option String
  dishPrice : D
  dishCalories : Option D
  /-- `addonCat.isNotEmpty`, null when `addonCat` is. -/
  customizations : Option Bool
deriving DecidableEq

variable {D : Type}

/-! ## The cart map -/

/-- `cartData`. The source writes it only as `cartData[d.dishId] = d`, so every dish is held under
its own id, and two entries hold two dishes. -/
structure CartData (D : Type) where
  map : LinkedMap (Option String) (DishRef D)
  keyed : ∀ e ∈ map.entries, e.2.dishId = e.1

namespace CartData

@[ext] theorem ext {c c' : CartData D} (h : c.map.entries = c'.map.entries) : c = c' := by
  obtain ⟨m, _⟩ := c
  obtain ⟨m', _⟩ := c'
  obtain rfl : m = m' := LinkedMap.ext h
  rfl

instance : EmptyCollection (CartData D) := ⟨⟨∅, fun _ he => by cases he⟩⟩

/-- The dishes held, in the order of the map. -/
def dishes (c : CartData D) : List (DishRef D) := c.map.values

@[simp] theorem dishes_empty : (∅ : CartData D).dishes = [] := rfl

theorem mem_dishes_iff {c : CartData D} {d : DishRef D} :
    d ∈ c.dishes ↔ (d.dishId, d) ∈ c.map.entries := by
  constructor
  · intro h
    obtain ⟨e, he, rfl⟩ := List.mem_map.mp h
    rw [c.keyed e he]
    exact he
  · exact LinkedMap.mem_values_of_mem

theorem map_dishId_dishes (c : CartData D) : c.dishes.map DishRef.dishId = c.map.keys := by
  rw [dishes, LinkedMap.values, LinkedMap.keys, List.map_map]
  exact List.map_congr_left fun e he => c.keyed e he

theorem dishes_nodup (c : CartData D) : c.dishes.Nodup :=
  List.Nodup.of_map DishRef.dishId (c.map_dishId_dishes ▸ c.map.nodup)

/-- Dishes of the cart with one id are one dish. -/
theorem eq_of_dishId_eq {c : CartData D} {d e : DishRef D} (hd : d ∈ c.dishes) (he : e ∈ c.dishes)
    (h : d.dishId = e.dishId) : d = e :=
  LinkedMap.eq_of_mem (mem_dishes_iff.mp hd) (h ▸ mem_dishes_iff.mp he)

theorem get?_eq_some_iff {c : CartData D} {key : Option String} {d : DishRef D} :
    c.map.get? key = some d ↔ d ∈ c.dishes ∧ d.dishId = key := by
  rw [LinkedMap.get?_eq_some_iff]
  constructor
  · intro h
    exact ⟨LinkedMap.mem_values_of_mem h, c.keyed _ h⟩
  · rintro ⟨h, rfl⟩
    exact mem_dishes_iff.mp h

/-- `cartData[d.dishId] = d` -/
def insert (c : CartData D) (d : DishRef D) : CartData D where
  map := c.map.insert d.dishId d
  keyed := by
    rintro ⟨k, e⟩ he
    rcases LinkedMap.mem_insert.mp he with ⟨rfl, rfl⟩ | ⟨_, he⟩
    · rfl
    · exact c.keyed _ he

theorem mem_dishes_insert {c : CartData D} {d e : DishRef D} :
    e ∈ (c.insert d).dishes ↔ e = d ∨ (e ∈ c.dishes ∧ e.dishId ≠ d.dishId) := by
  rw [mem_dishes_iff, mem_dishes_iff, insert, LinkedMap.mem_insert]
  constructor
  · rintro (⟨_, h⟩ | ⟨hne, h⟩)
    · exact .inl h
    · exact .inr ⟨h, hne⟩
  · rintro (rfl | ⟨h, hne⟩)
    · exact .inl ⟨rfl, rfl⟩
    · exact .inr ⟨hne, h⟩

/-- Keep the dishes that satisfy `p`. -/
def filter (c : CartData D) (p : DishRef D → Bool) : CartData D where
  map := c.map.filter fun e => p e.2
  keyed e he := c.keyed e (LinkedMap.mem_filter.mp he).1

theorem dishes_filter (c : CartData D) (p : DishRef D → Bool) :
    (c.filter p).dishes = c.dishes.filter p := List.filter_map.symm

/-- `cartData.remove(key)` -/
def remove (c : CartData D) (key : Option String) : CartData D where
  map := c.map.erase key
  keyed e he := c.keyed e (LinkedMap.mem_erase.mp he).1

theorem mem_dishes_remove {c : CartData D} {key : Option String} {e : DishRef D} :
    e ∈ (c.remove key).dishes ↔ e ∈ c.dishes ∧ e.dishId ≠ key := by
  rw [mem_dishes_iff, mem_dishes_iff, remove, LinkedMap.mem_erase]

theorem map_foldl_remove (keys : List (Option String)) (c : CartData D) :
    (keys.foldl remove c).map = keys.foldl LinkedMap.erase c.map := by
  induction keys generalizing c with
  | nil => rfl
  | cons key keys ih => exact ih (c.remove key)

/-- Collecting the keys of the dishes that satisfy `p`, then removing them, keeps the others. -/
theorem foldl_remove_keys_filter (c : CartData D) (p : Option (DishRef D) → Bool) :
    (c.map.keys.filter fun key => p (c.map.get? key)).foldl remove c =
      c.filter fun d => !p (some d) := by
  apply CartData.ext
  rw [map_foldl_remove, LinkedMap.foldl_erase_keys_filter]
  rfl

end CartData

/-! ## The singleton -/

/-- The fields of `Singleton` about the session. -/
structure Session where
  userToken : Option Token := none
  isLoginUsingPhonenumber : Bool := false
deriving DecidableEq

/-- The fields of `Singleton` that the modelled functions read, as at the start of the process. -/
structure Singleton (D : Type) extends Session where
  isLoading : Bool := true
  menuModel : Option (List (MenuModel (DishRef D))) := some []
  cartCount : ℤ := 0
  cartData : CartData D := ∅

/-- The singleton, the counts of the dish objects, and how many menus were decoded so far. -/
structure Memory (D : Type) extends Singleton D where
  dishOrdeCount : Order (DishRef D) := fun _ => 0
  fetches : ℕ := 0

/-- The categories on display: those of `menuModel[0]`. -/
def Singleton.categories (s : Singleton D) : List (TableMenuList (DishRef D)) :=
  match s.menuModel with
  | some (menu :: _) => menu.tableMenuList
  | _ => []

/-- The dishes on display. -/
def Singleton.dishes (s : Singleton D) : List (DishRef D) :=
  s.categories.flatMap TableMenuList.categoryDishes

/-- Add `n` to the count of a dish object. -/
def Memory.count [DecidableEq D] (s : Memory D) (d : DishRef D) (n : ℤ) : Memory D :=
  { s with dishOrdeCount := s.dishOrdeCount.apply (.add d n) }

/-! ## Dish objects of a decoded body -/

/-- The object of a dish of a body. A decoded dish has a price
(`CategoryDish.fromJson_dishPrice`). -/
def CategoryDish.object [Zero D] (fetch menu category index : ℕ) (dish : CategoryDish D) :
    DishRef D where
  fetch := fetch
  menu := menu
  category := category
  index := index
  dishId := dish.dishId
  dishName := dish.dishName
  dishPrice := dish.dishPrice.getD 0
  dishCalories := dish.dishCalories
  customizations := dish.addonCat.map fun addonCat => !addonCat.isEmpty

def MenuModel.objects [Zero D] (fetch i : ℕ) (menu : MenuModel (CategoryDish D)) :
    MenuModel (DishRef D) :=
  { menu with tableMenuList := menu.tableMenuList.mapIdx fun j category =>
      { category with categoryDishes :=
          category.categoryDishes.mapIdx fun k dish => dish.object fetch i j k } }

end MachineTest
