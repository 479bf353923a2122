import Mathlib.Algebra.Ring.Rat
import Mathlib.Data.List.Basic

/-! # JSON trees and `dart:convert`

The values that `json.decode` builds, read the way the source reads them: through implicit
downcasts from `dynamic`, which let null pass and throw on another type, and through calls of
methods on `dynamic`, which throw when the receiver has no such method.

Doubles are abstract, so that a result holds for whatever arithmetic the platform has: the program
uses the conversions `int.toDouble()` (the cast from `ℤ`) and `double.toInt()`, asks which doubles
are finite (`DartDouble`) and, on the pages, computes with them. `ℚ` is exact arithmetic; `Double`
has the values that are not finite and the rounding of `int.toDouble()`. -/

namespace MachineTest

/-- A type of doubles. `toInt` drops the fraction; it throws on a value that is not finite. -/
class DartDouble (D : Type) where
  isFinite : D → Bool
  toInt : D → Option ℤ

/-- Exact arithmetic. -/
instance : DartDouble ℚ where
  isFinite _ := true
  toInt q := some (q.num.tdiv q.den)

/-- A `double`: a finite one stands for its value. -/
inductive Double where
  | finite (q : ℚ)
  | infinity
  | negativeInfinity
  | nan
deriving DecidableEq

namespace Double

/-- The double nearest to `m`, the one with the even significand when two are equally near. -/
def roundNat (m : ℕ) : ℕ :=
  if m < 2 ^ 53 then m
  else
    let unit := 2 ^ (m.log2 - 52)
    let q := m / unit
    let r := m % unit
    if unit < 2 * r ∨ (unit = 2 * r ∧ q % 2 = 1) then (q + 1) * unit else q * unit

/-- `int.toDouble()` -/
instance : IntCast Double where
  intCast n := .finite (n.sign * roundNat n.natAbs : ℤ)

instance : DartDouble Double where
  isFinite
    | .finite _ => true
    | _ => false
  toInt
    | .finite q => DartDouble.toInt q
    | _ => none

end Double

/-- What the source can throw. -/
inductive DartError where
  /-- An implicit downcast met another type. -/
  | typeError
  /-- A method was called on null, or on a receiver that does not have it. -/
  | noSuchMethodError
  /-- `json.decode` met a text that is not JSON. -/
  | formatException
  /-- `json.encode` met a value that JSON does not have. -/
  | jsonUnsupportedObjectError
deriving DecidableEq

/-- A value of type `dynamic` as `json.decode` builds it. A number written without fraction and
exponent is an `int`. -/
inductive Json (D : Type) where
  | null
  | bool (b : Bool)
  | int (n : ℤ)
  | double (d : D)
  | string (s : String)
  | array (elems : List (Json D))
  | object (fields : List (String × Json D))

namespace Json

variable {D β γ : Type}

/-- `json[key]` on a `Map<String, dynamic>`: null when the key is absent. -/
def get (fields : List (String × Json D)) (key : String) : Json D :=
  (fields.lookup key).getD .null

def isNull : Json D → Bool
  | .null => true
  | _ => false

/-- The implicit downcast to `String`. -/
def asString : Json D → Except DartError (Option String)
  | .null => .ok none
  | .string s => .ok (some s)
  | _ => .error .typeError

/-- The implicit downcast to `bool`. -/
def asBool : Json D → Except DartError (Option Bool)
  | .null => .ok none
  | .bool b => .ok (some b)
  | _ => .error .typeError

/-- The implicit downcast to `double`: an `int` is not a `double`. -/
def asDouble : Json D → Except DartError (Option D)
  | .null => .ok none
  | .double d => .ok (some d)
  | _ => .error .typeError

/-- The call `.toDouble()`, which only numbers have. -/
def toDouble [IntCast D] : Json D → Except DartError D
  | .int n => .ok n
  | .double d => .ok d
  | _ => .error .noSuchMethodError

theorem bind_eq_ok {ε : Type} {x : Except ε β} {f : β → Except ε γ} {r : γ} :
    x >>= f = .ok r ↔ ∃ a, x = .ok a ∧ f a = .ok r := by
  cases x <;> simp [bind, Except.bind]

theorem sizeOf_lookup_lt {key : String} {j : Json D} :
    ∀ {fields : List (String × Json D)}, fields.lookup key = some j → sizeOf j < sizeOf fields
  | (key', j') :: fields, h => by
    rw [List.lookup_cons] at h
    split at h
    · cases h
      simp only [List.cons.sizeOf_spec, Prod.mk.sizeOf_spec]
      omega
    · have := sizeOf_lookup_lt h
      simp only [List.cons.sizeOf_spec]
      omega

theorem sizeOf_get_lt (fields : List (String × Json D)) (key : String) :
    sizeOf (get fields key) < sizeOf (Json.object fields) := by
  unfold get
  cases h : fields.lookup key with
  | none =>
    have : 0 < sizeOf fields := by cases fields <;> (simp; try omega)
    simp only [Option.getD_none, Json.null.sizeOf_spec, Json.object.sizeOf_spec]
    omega
  | some j =>
    have := sizeOf_lookup_lt h
    simp only [Option.getD_some, Json.object.sizeOf_spec]
    omega

theorem sizeOf_elem_lt {elems : List (Json D)} {x : Json D} (h : x ∈ elems) :
    sizeOf x < sizeOf (Json.array elems) := by
  have := List.sizeOf_lt_of_mem h
  simp only [Json.array.sizeOf_spec]
  omega

/-- `List<T>.from(j.map((x) => f(x)))`: a list maps its elements, a `Map` wants a function of two
arguments, and the other values have no `map`. -/
def mapList : (j : Json D) → ((x : Json D) → sizeOf x < sizeOf j → Except DartError β) →
    Except DartError (List β)
  | .array elems, f => elems.attach.mapM fun x => f x.1 (sizeOf_elem_lt x.2)
  | .object _, _ => .error .typeError
  | _, _ => .error .noSuchMethodError

theorem attach_mapM (f : β → Except DartError γ) (xs : List β) :
    xs.attach.mapM (fun x => f x.1) = xs.mapM f := by
  change xs.attach.mapM (f ∘ Subtype.val) = xs.mapM f
  rw [← List.mapM_map, List.attach_map_subtype_val]

@[simp] theorem mapList_array (elems : List (Json D)) (f : Json D → Except DartError β) :
    mapList (.array elems) (fun x _ => f x) = elems.mapM f := attach_mapM f elems

/-- Decoding element by element what was encoded element by element. -/
theorem mapM_map_eq_ok {xs : List β} {g : β → Json D} {f : Json D → Except DartError γ}
    {r : β → γ} (h : ∀ x ∈ xs, f (g x) = .ok (r x)) : (xs.map g).mapM f = .ok (xs.map r) := by
  induction xs with
  | nil => rfl
  | cons x xs ih =>
    rw [List.map_cons, List.mapM_cons, h x List.mem_cons_self,
      ih fun y hy => h y (List.mem_cons_of_mem _ hy)]
    rfl

/-! ## Encoding -/

section
variable [DartDouble D]

mutual
/-- No number in the tree is infinite or NaN. -/
def isFinite : Json D → Bool
  | .double d => DartDouble.isFinite d
  | .array elems => elemsFinite elems
  | .object fields => fieldsFinite fields
  | _ => true

def elemsFinite : List (Json D) → Bool
  | [] => true
  | x :: elems => isFinite x && elemsFinite elems

def fieldsFinite : List (String × Json D) → Bool
  | [] => true
  | (_, x) :: fields => isFinite x && fieldsFinite fields
end

theorem elemsFinite_map {xs : List γ} {g : γ → Json D} (h : ∀ x ∈ xs, (g x).isFinite = true) :
    elemsFinite (xs.map g) = true := by
  induction xs with
  | nil => simp [elemsFinite]
  | cons x xs ih =>
    simp [elemsFinite, h x List.mem_cons_self, ih fun y hy => h y (List.mem_cons_of_mem _ hy)]

end

/-- The text format of `dart:convert`. -/
structure Codec (D : Type) where
  /-- The text of a tree whose numbers are finite. -/
  print : Json D → String
  /-- `json.decode` -/
  decode : String → Except DartError (Json D)

/-- `json.encode`, which throws on a number that is not finite. -/
def Codec.encode [DartDouble D] (json : Codec D) (tree : Json D) : Except DartError String :=
  if tree.isFinite then .ok (json.print tree) else .error .jsonUnsupportedObjectError

end Json
end MachineTest
