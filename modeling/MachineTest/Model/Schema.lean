import MachineTest.Theory.LinkedMap
import MachineTest.Model.Json

/-! # Schemas of JSON documents

A schema has classes of records, and for each class the kinds of its fields; records of a class may
hold records of any class, to any depth. A key that is absent reads as null.

* `Fits`: a tree is of a kind, and every record in it satisfies a condition of its class;
* `Occurs`: the records inside a tree;
* `fits_iff`: fitting with a condition is fitting, and every record that occurs satisfies it;
* `Agrees`: two trees agree on every declared field, numbers being compared by value;
* `SameDeclared`: two trees differ in fields that are not declared only. -/

namespace MachineTest
namespace Json

variable {D ι : Type}

/-- The field of a record. -/
def field : Json D → String → Json D
  | .object fields, key => get fields key
  | _, _ => .null

/-- The elements of a list. -/
def elems : Json D → List (Json D)
  | .array elems => elems
  | _ => []

inductive Kind (ι : Type) where
  | string
  | bool
  | number
  /-- Any tree at all. -/
  | any
  | record (i : ι)
  | array (kind : Kind ι)
  /-- Null, or of the kind. -/
  | optional (kind : Kind ι)

abbrev Schema (ι : Type) := ι → List (String × Kind ι)

variable {S : Schema ι}

/-- The tree is of the kind, and every record in it satisfies `P`. -/
inductive Fits (S : Schema ι) (P : ι → Json D → Prop) : Kind ι → Json D → Prop
  | string (s : String) : Fits S P .string (.string s)
  | bool (b : Bool) : Fits S P .bool (.bool b)
  | int (n : ℤ) : Fits S P .number (.int n)
  | double (d : D) : Fits S P .number (.double d)
  | any (j : Json D) : Fits S P .any j
  | record {i : ι} {fields : List (String × Json D)} : P i (.object fields) →
    (∀ key kind, (key, kind) ∈ S i → Fits S P kind (get fields key)) →
    Fits S P (.record i) (.object fields)
  | array {kind : Kind ι} {elems : List (Json D)} : (∀ x ∈ elems, Fits S P kind x) →
    Fits S P (.array kind) (.array elems)
  | null {kind : Kind ι} : Fits S P (.optional kind) .null
  | present {kind : Kind ι} {j : Json D} : Fits S P kind j → Fits S P (.optional kind) j

/-- The tree is of the kind. -/
abbrev Conforms (S : Schema ι) : Kind ι → Json D → Prop := Fits S fun _ _ => True

/-- `r` is a record of class `i` in a tree that is read at a kind. -/
inductive Occurs (S : Schema ι) (i : ι) : Json D → Kind ι → Json D → Prop
  | here {fields : List (String × Json D)} :
    Occurs S i (.object fields) (.record i) (.object fields)
  | field {i' : ι} {fields : List (String × Json D)} {key : String} {kind : Kind ι} {r : Json D} :
    (key, kind) ∈ S i' → Occurs S i r kind (get fields key) →
    Occurs S i r (.record i') (.object fields)
  | elem {kind : Kind ι} {elems : List (Json D)} {x r : Json D} : x ∈ elems →
    Occurs S i r kind x → Occurs S i r (.array kind) (.array elems)
  | present {kind : Kind ι} {j r : Json D} : Occurs S i r kind j →
    Occurs S i r (.optional kind) j

theorem not_occurs_null {i : ι} {r : Json D} {kind : Kind ι} : ¬ Occurs S i r kind .null := by
  intro h
  induction kind with
  | optional kind ih => cases h with | present h => exact ih h
  | _ => cases h

theorem fits_iff {P : ι → Json D → Prop} {kind : Kind ι} {j : Json D} :
    Fits S P kind j ↔ Conforms S kind j ∧ ∀ i r, Occurs S i r kind j → P i r := by
  constructor
  · intro h
    induction h with
    | string s => exact ⟨.string s, fun i r hr => by cases hr⟩
    | bool b => exact ⟨.bool b, fun i r hr => by cases hr⟩
    | int n => exact ⟨.int n, fun i r hr => by cases hr⟩
    | double d => exact ⟨.double d, fun i r hr => by cases hr⟩
    | any j => exact ⟨.any j, fun i r hr => by cases hr⟩
    | record hP _ ih =>
      refine ⟨.record trivial fun key kind hkind => (ih key kind hkind).1, fun i r hr => ?_⟩
      cases hr with
      | here => exact hP
      | field hkind hr => exact (ih _ _ hkind).2 i r hr
    | array _ ih =>
      refine ⟨.array fun x hx => (ih x hx).1, fun i r hr => ?_⟩
      cases hr with
      | elem hx hr => exact (ih _ hx).2 i r hr
    | null => exact ⟨.null, fun i r hr => (not_occurs_null hr).elim⟩
    | present _ ih =>
      refine ⟨.present ih.1, fun i r hr => ?_⟩
      cases hr with
      | present hr => exact ih.2 i r hr
  · rintro ⟨h, hP⟩
    induction h with
    | string s => exact .string s
    | bool b => exact .bool b
    | int n => exact .int n
    | double d => exact .double d
    | any j => exact .any j
    | record _ _ ih =>
      exact .record (hP _ _ .here) fun key kind hkind =>
        ih key kind hkind fun i r hr => hP i r (.field hkind hr)
    | array _ ih => exact .array fun x hx => ih x hx fun i r hr => hP i r (.elem hx hr)
    | null => exact .null
    | present _ ih => exact .present (ih fun i r hr => hP i r (.present hr))

theorem fits_optional {P : ι → Json D → Prop} {kind : Kind ι} {j : Json D} :
    Fits S P (.optional kind) j ↔ j = .null ∨ Fits S P kind j := by
  constructor
  · intro h
    cases h with
    | null => exact .inl rfl
    | present h => exact .inr h
  · rintro (rfl | h)
    · exact .null
    · exact .present h

theorem fits_array {P : ι → Json D → Prop} {kind : Kind ι} {j : Json D} :
    Fits S P (.array kind) j ↔ ∃ elems, j = .array elems ∧ ∀ x ∈ elems, Fits S P kind x := by
  constructor
  · intro h
    cases h with | array h => exact ⟨_, rfl, h⟩
  · rintro ⟨elems, rfl, h⟩
    exact .array h

theorem fits_record {P : ι → Json D → Prop} {i : ι} {j : Json D} :
    Fits S P (.record i) j ↔ ∃ fields, j = .object fields ∧ P i j ∧
      (S i).Forall fun f => Fits S P f.2 (get fields f.1) := by
  constructor
  · intro h
    cases h with
    | record hP h => exact ⟨_, rfl, hP, List.forall_iff_forall_mem.mpr fun f hf => h _ _ hf⟩
  · rintro ⟨fields, rfl, hP, h⟩
    exact .record hP fun key kind hkind => List.forall_iff_forall_mem.mp h _ hkind

/-! ## The spelling of numbers -/

section
variable [IntCast D]

mutual
/-- The tree with every number written with a fraction part. -/
def decimal : Json D → Json D
  | .int n => .double n
  | .array elems => .array (decimalElems elems)
  | .object fields => .object (decimalFields fields)
  | .null => .null
  | .bool b => .bool b
  | .double d => .double d
  | .string s => .string s

def decimalElems : List (Json D) → List (Json D)
  | [] => []
  | x :: elems => decimal x :: decimalElems elems

def decimalFields : List (String × Json D) → List (String × Json D)
  | [] => []
  | (key, x) :: fields => (key, decimal x) :: decimalFields fields
end

theorem decimalElems_eq (elems : List (Json D)) : decimalElems elems = elems.map decimal := by
  induction elems with
  | nil => rfl
  | cons x elems ih => rw [decimalElems, ih, List.map_cons]

theorem get_decimalFields (fields : List (String × Json D)) (key : String) :
    get (decimalFields fields) key = (get fields key).decimal := by
  induction fields with
  | nil => rfl
  | cons e fields ih =>
    obtain ⟨key', x⟩ := e
    simp only [get, decimalFields, List.lookup_cons] at ih ⊢
    split
    · rfl
    · exact ih

/-- A schema does not see how a number is written. -/
theorem conforms_decimal {kind : Kind ι} {j : Json D} :
    Conforms S kind j.decimal ↔ Conforms S kind j := by
  constructor
  · intro h
    generalize hj : j.decimal = j' at h
    induction h generalizing j with
    | string | bool | null => cases j <;> cases hj; constructor
    | int | double => cases j <;> cases hj <;> constructor
    | any => exact .any j
    | record _ _ ih =>
      cases j with
      | object fields =>
        cases hj
        exact .record trivial fun key kind hkind =>
          ih key kind hkind (get_decimalFields fields key).symm
      | _ => cases hj
    | array _ ih =>
      cases j with
      | array elems =>
        cases hj
        refine .array fun x hx => ih x.decimal ?_ rfl
        rw [decimalElems_eq]
        exact List.mem_map_of_mem hx
      | _ => cases hj
    | present _ ih => exact .present (ih hj)
  · intro h
    induction h with
    | string s => exact .string s
    | bool b => exact .bool b
    | int n => exact .double _
    | double d => exact .double d
    | any j => exact .any _
    | record _ _ ih =>
      refine .record trivial fun key kind hkind => ?_
      rw [get_decimalFields]
      exact ih key kind hkind
    | array _ ih =>
      refine .array fun x hx => ?_
      rw [decimalElems_eq] at hx
      obtain ⟨y, hy, rfl⟩ := List.mem_map.mp hx
      exact ih y hy
    | null => exact .null
    | present _ ih => exact .present ih

end

/-! ## Agreement -/

section
variable [IntCast D] [DartDouble D]

/-- The conversion of `n` to a double loses nothing. -/
def Exact (D : Type) [IntCast D] [DartDouble D] (n : ℤ) : Prop :=
  DartDouble.toInt (n : D) = some n

/-- The same value, numbers being compared by value. -/
inductive SameValue : Json D → Json D → Prop
  | refl (j : Json D) : SameValue j j
  | intDouble {n : ℤ} : Exact D n → SameValue (.int n) (.double n)
  | doubleInt {n : ℤ} : Exact D n → SameValue (.double n) (.int n)

/-- Two trees, read at a kind, agree on every declared field at every depth. -/
inductive Agrees (S : Schema ι) : Kind ι → Json D → Json D → Prop
  | string {x y : Json D} : SameValue x y → Agrees S .string x y
  | bool {x y : Json D} : SameValue x y → Agrees S .bool x y
  | number {x y : Json D} : SameValue x y → Agrees S .number x y
  | any {x y : Json D} : SameValue x y → Agrees S .any x y
  | record {i : ι} {fields fields' : List (String × Json D)} :
    (∀ key kind, (key, kind) ∈ S i → Agrees S kind (get fields key) (get fields' key)) →
    Agrees S (.record i) (.object fields) (.object fields')
  | array {kind : Kind ι} {elems elems' : List (Json D)} : elems.length = elems'.length →
    (∀ e ∈ elems.zip elems', Agrees S kind e.1 e.2) →
    Agrees S (.array kind) (.array elems) (.array elems')
  | null {kind : Kind ι} : Agrees S (.optional kind) .null .null
  | present {kind : Kind ι} {x y : Json D} : Agrees S kind x y → Agrees S (.optional kind) x y

end

/-! ## Undeclared fields -/

/-- Two trees, read at a kind, differ only in fields that no schema declares, and in their order. -/
inductive SameDeclared (S : Schema ι) : Kind ι → Json D → Json D → Prop
  | refl (kind : Kind ι) (j : Json D) : SameDeclared S kind j j
  | record {i : ι} {fields fields' : List (String × Json D)} :
    (∀ key kind, (key, kind) ∈ S i → SameDeclared S kind (get fields key) (get fields' key)) →
    SameDeclared S (.record i) (.object fields) (.object fields')
  | array {kind : Kind ι} {elems elems' : List (Json D)} : elems.length = elems'.length →
    (∀ e ∈ elems.zip elems', SameDeclared S kind e.1 e.2) →
    SameDeclared S (.array kind) (.array elems) (.array elems')
  | optional {kind : Kind ι} {x y : Json D} : SameDeclared S kind x y →
    SameDeclared S (.optional kind) x y

theorem get_cons_of_ne {key key' : String} (h : key ≠ key') (x : Json D)
    (fields : List (String × Json D)) : get ((key', x) :: fields) key = get fields key := by
  have hkeys : (key == key') = false := beq_eq_false_iff_ne.mpr h
  rw [get, List.lookup_cons, hkeys, get]

/-- A field that is not declared makes no difference. -/
theorem SameDeclared.cons {i : ι} {key : String} (h : ∀ kind, (key, kind) ∉ S i) (x : Json D)
    (fields : List (String × Json D)) :
    SameDeclared S (.record i) (.object ((key, x) :: fields)) (.object fields) := by
  refine .record fun key' kind hkind => ?_
  have hne : key' ≠ key := fun hkey => h kind (hkey ▸ hkind)
  rw [get_cons_of_ne hne]
  exact .refl _ _

/-- Nor does the order of the fields. -/
theorem SameDeclared.of_perm {i : ι} {fields fields' : List (String × Json D)}
    (hkeys : (fields.map Prod.fst).Nodup) (h : fields.Perm fields') :
    SameDeclared S (.record i) (.object fields) (.object fields') := by
  refine .record fun key kind _ => ?_
  have hkeys' : (fields'.map Prod.fst).Nodup := (h.map Prod.fst).nodup hkeys
  have hlookup : fields.lookup key = fields'.lookup key := Option.ext fun x => by
    rw [LinkedMap.lookup_eq_some_iff hkeys, LinkedMap.lookup_eq_some_iff hkeys', h.mem_iff]
  rw [get, hlookup, get]
  exact .refl _ _

end Json
end MachineTest
