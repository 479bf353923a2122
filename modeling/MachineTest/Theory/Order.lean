import Mathlib.Algebra.BigOperators.Group.Finset.Basic
import Mathlib.Algebra.Order.BigOperators.Group.List
import Mathlib.Algebra.Order.Ring.Int
import Mathlib.Algebra.Order.Ring.Cast
import Mathlib.Tactic.Abel
import Mathlib.Tactic.Ring
import Mathlib.Tactic.Linarith
import MachineTest.Theory.Machine

/-! # Orders of priced items

An `Order` says how many pieces of each item are ordered. It is what a shopping cart is for: the
number of pieces (`items`) and the amount due (`bill`) over a list of items are functions of it,
and a customer changes it by adding or taking away one piece of one item, or by placing it.

The sums are over lists without repetition. Two facts carry the rest: a change at one item moves a
sum by exactly the change at that item (`sum_map_change`), and a sum may leave out the items of
weight zero (`sum_map_of_subset`). -/

namespace MachineTest

section Sums
variable {α M : Type}

/-- Changing a function at one element of a list moves its sum by the change there. -/
theorem sum_map_change [AddCommGroup M] {f g : α → M} {a : α} {l : List α} (hn : l.Nodup)
    (ha : a ∈ l) (h : ∀ x ∈ l, x ≠ a → g x = f x) :
    (l.map g).sum = (l.map f).sum + (g a - f a) := by
  induction l with
  | nil => cases ha
  | cons b l ih =>
    obtain ⟨hb, hn⟩ := List.nodup_cons.mp hn
    simp only [List.map_cons, List.sum_cons]
    rcases List.mem_cons.mp ha with rfl | ha
    · have hrest : l.map g = l.map f := List.map_congr_left fun x hx =>
        h x (List.mem_cons_of_mem _ hx) fun he => hb (he ▸ hx)
      rw [hrest]
      abel
    · have hba : b ≠ a := fun he => hb (he ▸ ha)
      rw [h b List.mem_cons_self hba, ih hn ha fun x hx => h x (List.mem_cons_of_mem _ hx)]
      abel

/-- A sum over a list may leave out elements of weight zero. -/
theorem sum_map_of_subset [AddCommMonoid M] [DecidableEq α] {f : α → M} {l l' : List α}
    (hn : l.Nodup) (hn' : l'.Nodup) (hsub : ∀ x ∈ l, x ∈ l')
    (hzero : ∀ x ∈ l', x ∉ l → f x = 0) : (l.map f).sum = (l'.map f).sum := by
  rw [← List.sum_toFinset f hn, ← List.sum_toFinset f hn']
  apply Finset.sum_subset
  · intro x hx
    exact List.mem_toFinset.mpr (hsub x (List.mem_toFinset.mp hx))
  · intro x hx hx'
    exact hzero x (List.mem_toFinset.mp hx) fun h => hx' (List.mem_toFinset.mpr h)

/-- An accumulating loop computes a sum. -/
theorem foldl_add_map [AddCommMonoid M] (f : α → M) (l : List α) :
    l.foldl (fun acc x => acc + f x) 0 = (l.map f).sum := by
  rw [List.sum_eq_foldl, List.foldl_map]

end Sums

/-- How many pieces of each item are ordered. -/
abbrev Order (α : Type) : Type := α → ℤ

namespace Order

variable {α R : Type}

/-- What a customer can do to an order. -/
inductive Change (α : Type) where
  /-- Add `n` pieces of an item; a negative `n` takes pieces away. -/
  | add (a : α) (n : ℤ)
  /-- Look at the order. -/
  | look
  /-- Place the order, after which nothing is ordered. -/
  | place

/-- The number of pieces ordered of the items of `menu`. -/
def items (menu : List α) (o : Order α) : ℤ := (menu.map o).sum

/-- The amount due for the items of `menu`. -/
def bill [Ring R] (menu : List α) (price : α → R) (o : Order α) : R :=
  (menu.map fun a => price a * (o a : R)).sum

/-- By how much a change that places nothing moves the count of `a`. -/
def Change.net [DecidableEq α] : Change α → α → ℤ
  | .add b n, a => if a = b then n else 0
  | .look, _ => 0
  | .place, _ => 0

/-- How many pieces a change adds. -/
def Change.pieces : Change α → ℤ
  | .add _ n => n
  | .look | .place => 0

/-- The price of the pieces that a change adds. -/
def Change.worth [Ring R] (price : α → R) : Change α → R
  | .add a n => price a * n
  | .look | .place => 0

def apply [DecidableEq α] (o : Order α) : Change α → Order α
  | .add b n => Function.update o b (o b + n)
  | .look => o
  | .place => fun _ => 0

/-- The orders as a machine, in which every change is possible. -/
def machine (α : Type) [DecidableEq α] : Machine (Order α) (Change α) where
  step o c := some (o.apply c)

section
variable [DecidableEq α]

@[simp] theorem apply_add_self (o : Order α) (a : α) (n : ℤ) : o.apply (.add a n) a = o a + n := by
  simp [apply]

theorem apply_add_of_ne (o : Order α) {a b : α} (h : b ≠ a) (n : ℤ) :
    o.apply (.add a n) b = o b := by
  simp [apply, h]

/-- A change of one item moves no count by more than its pieces. -/
theorem abs_apply_add_le (o : Order α) (a b : α) (n : ℤ) :
    |o.apply (.add a n) b| ≤ |o b| + |n| := by
  rcases eq_or_ne b a with rfl | hne
  · rw [apply_add_self]
    exact abs_add_le _ _
  · rw [apply_add_of_ne o hne]
    exact le_add_of_nonneg_right (abs_nonneg n)

/-- The same pieces of two items keep equal counts equal. -/
theorem apply_add_self_congr {o o' : Order α} {a b : α} (h : o a = o' b) (n : ℤ) :
    o.apply (.add a n) a = o'.apply (.add b n) b := by
  rw [apply_add_self, apply_add_self, h]

theorem apply_add_congr_of_ne {o o' : Order α} {a b x y : α} (hx : x ≠ a) (hy : y ≠ b)
    (h : o x = o' y) (n : ℤ) : o.apply (.add a n) x = o'.apply (.add b n) y := by
  rw [apply_add_of_ne o hx, apply_add_of_ne o' hy, h]

/-- A change other than placing moves every count by its net effect. -/
theorem apply_eq_add_net {o : Order α} {c : Change α} (h : c ≠ .place) (a : α) :
    o.apply c a = o a + c.net a := by
  cases c with
  | add b n =>
    by_cases hab : a = b
    · subst hab; simp [Change.net]
    · simp [Change.net, hab, apply_add_of_ne o hab]
  | look => simp [apply, Change.net]
  | place => exact (h rfl).elim

/-- **Path independence.** Without placing, the count of an item after a run is its count before
plus the net effect of the changes, in whatever order they came. -/
theorem machine_run_net {cs : List (Change α)} {o o' : Order α} (hcs : ∀ c ∈ cs, c ≠ .place)
    (hrun : (machine α).run o cs = some o') (a : α) :
    o' a = o a + (cs.map fun c => c.net a).sum := by
  induction cs generalizing o with
  | nil => cases hrun; simp
  | cons c cs ih =>
    obtain ⟨u, hu, hrun⟩ := Machine.run_cons.mp hrun
    cases hu
    rw [ih (fun c hc => hcs c (List.mem_cons_of_mem _ hc)) hrun,
      apply_eq_add_net (hcs c List.mem_cons_self), List.map_cons, List.sum_cons, add_assoc]

variable {menu : List α} {o : Order α}

theorem items_add (hn : menu.Nodup) {a : α} (ha : a ∈ menu) (n : ℤ) :
    items menu (o.apply (.add a n)) = items menu o + n := by
  rw [items, sum_map_change (f := o) hn ha fun x _ hx => apply_add_of_ne o hx n]
  simp [items]

theorem bill_add [CommRing R] (price : α → R) (hn : menu.Nodup) {a : α} (ha : a ∈ menu) (n : ℤ) :
    bill menu price (o.apply (.add a n)) = bill menu price o + price a * n := by
  rw [bill, sum_map_change (f := fun x => price x * (o x : R)) hn ha
    fun x _ hx => by rw [apply_add_of_ne o hx n]]
  simp only [bill, apply_add_self, Int.cast_add]
  ring

/-- The number of pieces can be counted on any part of the menu that holds every ordered item. -/
theorem items_of_subset {l : List α} (hl : l.Nodup) (hn : menu.Nodup) (hsub : ∀ x ∈ l, x ∈ menu)
    (hheld : ∀ x ∈ menu, o x ≠ 0 → x ∈ l) : items l o = items menu o :=
  sum_map_of_subset hl hn hsub fun x hx hxl => not_not.mp fun h => hxl (hheld x hx h)

/-- So can the amount due. -/
theorem bill_of_subset [CommRing R] (price : α → R) {l : List α} (hl : l.Nodup) (hn : menu.Nodup)
    (hsub : ∀ x ∈ l, x ∈ menu) (hheld : ∀ x ∈ menu, o x ≠ 0 → x ∈ l) :
    bill l price o = bill menu price o :=
  sum_map_of_subset hl hn hsub fun x hx hxl => by
    have hzero : o x = 0 := not_not.mp fun h => hxl (hheld x hx h)
    simp [hzero]

end

/-! ## Orders without negative counts -/

section
variable {menu : List α} {o : Order α}

theorem items_nonneg (h : ∀ a ∈ menu, 0 ≤ o a) : 0 ≤ items menu o :=
  List.sum_nonneg fun n hn => by
    obtain ⟨a, ha, rfl⟩ := List.mem_map.mp hn
    exact h a ha

/-- Without negative counts, no pieces in total means no pieces of any item. -/
theorem eq_zero_of_items_eq_zero (h : ∀ a ∈ menu, 0 ≤ o a) (hsum : items menu o = 0) :
    ∀ a ∈ menu, o a = 0 := by
  induction menu with
  | nil =>
    intro a ha
    cases ha
  | cons b menu ih =>
    intro a ha
    have hb : 0 ≤ o b := h b List.mem_cons_self
    have hrest : 0 ≤ items menu o := items_nonneg fun x hx => h x (List.mem_cons_of_mem _ hx)
    have hcons : items (b :: menu) o = o b + items menu o := by simp [items]
    rcases List.mem_cons.mp ha with rfl | ha
    · omega
    · exact ih (fun x hx => h x (List.mem_cons_of_mem _ hx)) (by omega) a ha

theorem bill_nonneg [CommRing R] [LinearOrder R] [IsStrictOrderedRing R] {price : α → R}
    (hprice : ∀ a ∈ menu, 0 ≤ price a) (h : ∀ a ∈ menu, 0 ≤ o a) : 0 ≤ bill menu price o :=
  List.sum_nonneg fun n hn => by
    obtain ⟨a, ha, rfl⟩ := List.mem_map.mp hn
    exact mul_nonneg (hprice a ha) (Int.cast_nonneg (h a ha))

end

end Order
end MachineTest
