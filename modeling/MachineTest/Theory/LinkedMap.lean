import Mathlib.Data.List.Nodup
import Mathlib.Data.List.Perm.Basic

/-! # Insertion-ordered maps

The map literal `{}` of the source's language is a hash map that iterates its keys in the order in
which they were first inserted. `LinkedMap` is the list of its entries in that order, with the
invariant that no key occurs twice. Writing under a key that is present keeps the key's place;
writing under a new key appends; a removed key that is written again goes to the end. -/

namespace MachineTest

/-- A map that iterates in insertion order. -/
structure LinkedMap (κ α : Type) where
  entries : List (κ × α)
  nodup : (entries.map Prod.fst).Nodup

namespace LinkedMap

variable {κ α β : Type}

@[ext] theorem ext {m m' : LinkedMap κ α} (h : m.entries = m'.entries) : m = m' := by
  cases m; cases m'; cases h; rfl

instance [DecidableEq κ] [DecidableEq α] : DecidableEq (LinkedMap κ α) := fun m m' =>
  decidable_of_iff (m.entries = m'.entries) ⟨ext, fun h => h ▸ rfl⟩

/-- The map literal `{}`. -/
def empty : LinkedMap κ α := ⟨[], .nil⟩

instance : EmptyCollection (LinkedMap κ α) := ⟨empty⟩

def keys (m : LinkedMap κ α) : List κ := m.entries.map Prod.fst

def values (m : LinkedMap κ α) : List α := m.entries.map Prod.snd

theorem mem_values_of_mem {m : LinkedMap κ α} {k : κ} {v : α} (h : (k, v) ∈ m.entries) :
    v ∈ m.values := List.mem_map.mpr ⟨_, h, rfl⟩

theorem mem_keys_of_mem {m : LinkedMap κ α} {k : κ} {v : α} (h : (k, v) ∈ m.entries) :
    k ∈ m.keys := List.mem_map.mpr ⟨_, h, rfl⟩

/-- A key fixes its entry. -/
theorem eq_of_mem {m : LinkedMap κ α} {k : κ} {v v' : α} (h : (k, v) ∈ m.entries)
    (h' : (k, v') ∈ m.entries) : v = v' :=
  congrArg Prod.snd (List.inj_on_of_nodup_map m.nodup h h' rfl)

section
variable [DecidableEq κ]

/-- `m[k]`, null when the key is absent. -/
def get? (m : LinkedMap κ α) (k : κ) : Option α := m.entries.lookup k

theorem lookup_eq_some_iff {k : κ} {v : α} {l : List (κ × α)} (hn : (l.map Prod.fst).Nodup) :
    l.lookup k = some v ↔ (k, v) ∈ l := by
  induction l with
  | nil => simp
  | cons e l ih =>
    obtain ⟨k', v'⟩ := e
    obtain ⟨hfresh, hn⟩ := List.nodup_cons.mp hn
    rw [List.lookup_cons]
    by_cases hk : k = k'
    · subst hk
      have hnot : (k, v) ∉ l := fun h => hfresh (List.mem_map.mpr ⟨_, h, rfl⟩)
      simp [hnot, eq_comm]
    · have hb : (k == k') = false := beq_eq_false_iff_ne.mpr hk
      simp [hb, hk, ih hn]

theorem get?_eq_some_iff {m : LinkedMap κ α} {k : κ} {v : α} :
    m.get? k = some v ↔ (k, v) ∈ m.entries := lookup_eq_some_iff m.nodup

/-- Iterating the keys and reading each one visits the entries. -/
theorem foldl_keys_get? (m : LinkedMap κ α) (f : β → Option α → β) (b : β) :
    m.keys.foldl (fun acc k => f acc (m.get? k)) b =
      m.entries.foldl (fun acc e => f acc (some e.2)) b := by
  rw [keys, List.foldl_map]
  apply List.foldl_ext
  intro acc e he
  rw [get?_eq_some_iff.mpr he]

theorem filterMap_keys_get? (m : LinkedMap κ α) (f : α → β) :
    m.keys.filterMap (fun k => (m.get? k).map f) = m.entries.map (fun e => f e.2) := by
  rw [keys, List.filterMap_map, ← List.filterMap_eq_map]
  apply List.filterMap_congr
  intro e he
  simp [get?_eq_some_iff.mpr he]

/-- A map is its keys, in order, and what it answers for them. -/
theorem ext_get? {m m' : LinkedMap κ α} (hkeys : m.keys = m'.keys)
    (h : ∀ k ∈ m.keys, m.get? k = m'.get? k) : m = m' := by
  have hentries : ∀ m : LinkedMap κ α,
      m.keys.map (fun k => (k, m.get? k)) = m.entries.map (Prod.map id some) := fun m => by
    rw [keys, List.map_map]
    refine List.map_congr_left fun e he => ?_
    rw [Function.comp_apply, get?_eq_some_iff.mpr he]
    rfl
  have hinj : Function.Injective (Prod.map id some : κ × α → κ × Option α) := fun e e' he => by
    obtain ⟨hkey, hvalue⟩ := Prod.ext_iff.mp he
    exact Prod.ext hkey (Option.some.inj hvalue)
  refine ext (List.map_injective_iff.mpr hinj ?_)
  rw [← hentries, ← hentries, ← hkeys]
  exact List.map_congr_left fun k hk => by rw [h k hk]

/-! ## Writing an entry -/

/-- Replace the value under `k` in place, or append the entry. -/
def insertEntry (k : κ) (v : α) : List (κ × α) → List (κ × α)
  | [] => [(k, v)]
  | e :: l => if e.1 = k then (k, v) :: l else e :: insertEntry k v l

theorem insertEntry_of_not_mem {k : κ} {v : α} {l : List (κ × α)} (h : k ∉ l.map Prod.fst) :
    insertEntry k v l = l ++ [(k, v)] := by
  induction l with
  | nil => rfl
  | cons e l ih =>
    obtain ⟨hne, h⟩ := not_or.mp (List.mem_cons.not.mp h)
    rw [insertEntry, if_neg (Ne.symm hne), ih h, List.cons_append]

theorem keys_insertEntry (k : κ) (v : α) (l : List (κ × α)) :
    (insertEntry k v l).map Prod.fst =
      if k ∈ l.map Prod.fst then l.map Prod.fst else l.map Prod.fst ++ [k] := by
  induction l with
  | nil => simp [insertEntry]
  | cons e l ih =>
    by_cases he : e.1 = k
    · simp [insertEntry, he]
    · simp only [insertEntry, if_neg he, List.map_cons, ih, List.mem_cons, Ne.symm he, false_or]
      split <;> simp

theorem mem_insertEntry {k k' : κ} {v v' : α} {l : List (κ × α)} (hn : (l.map Prod.fst).Nodup) :
    (k', v') ∈ insertEntry k v l ↔ (k' = k ∧ v' = v) ∨ (k' ≠ k ∧ (k', v') ∈ l) := by
  induction l with
  | nil => simp [insertEntry]
  | cons e l ih =>
    obtain ⟨hfresh, hn⟩ := List.nodup_cons.mp hn
    by_cases he : e.1 = k
    · subst he
      have hmem : (k', v') ∈ l → k' ≠ e.1 := fun h heq =>
        hfresh (List.mem_map.mpr ⟨_, h, heq⟩)
      rw [insertEntry, if_pos rfl, List.mem_cons, List.mem_cons, Prod.mk.injEq]
      constructor
      · rintro (h | h)
        · exact .inl h
        · exact .inr ⟨hmem h, .inr h⟩
      · rintro (h | ⟨hne, rfl | h⟩)
        · exact .inl h
        · exact (hne rfl).elim
        · exact .inr h
    · rw [insertEntry, if_neg he, List.mem_cons, List.mem_cons, ih hn]
      constructor
      · rintro (rfl | h | ⟨hne, h⟩)
        · exact .inr ⟨he, .inl rfl⟩
        · exact .inl h
        · exact .inr ⟨hne, .inr h⟩
      · rintro (h | ⟨hne, h | h⟩)
        · exact .inr (.inl h)
        · exact .inl h
        · exact .inr (.inr ⟨hne, h⟩)

/-- Under a key that is present, only the value changes. -/
theorem insertEntry_of_mem {k : κ} {v : α} {l : List (κ × α)} (hn : (l.map Prod.fst).Nodup)
    (hk : k ∈ l.map Prod.fst) :
    insertEntry k v l = l.map fun e => (e.1, if e.1 = k then v else e.2) := by
  induction l with
  | nil => cases hk
  | cons e l ih =>
    obtain ⟨hfresh, hn⟩ := List.nodup_cons.mp hn
    rcases eq_or_ne e.1 k with rfl | hne
    · have hrest : l.map (fun e' => (e'.1, if e'.1 = e.1 then v else e'.2)) = l.map id :=
        List.map_congr_left fun e' he' => by
          rw [if_neg fun heq => hfresh (List.mem_map.mpr ⟨e', he', heq⟩)]
          rfl
      rw [insertEntry, if_pos rfl, List.map_cons, if_pos rfl, hrest, List.map_id]
    · have hk : k ∈ l.map Prod.fst := (List.mem_cons.mp hk).resolve_left hne.symm
      rw [insertEntry, if_neg hne, List.map_cons, if_neg hne, ih hn hk]

/-- `m[k] = v`. -/
def insert (m : LinkedMap κ α) (k : κ) (v : α) : LinkedMap κ α where
  entries := insertEntry k v m.entries
  nodup := by
    rw [keys_insertEntry]
    split
    · exact m.nodup
    · rename_i h
      exact (List.nodup_append.mpr ⟨m.nodup, List.nodup_singleton _, fun a ha b hb hab =>
        h (List.mem_singleton.mp hb ▸ hab ▸ ha)⟩)

theorem entries_insert (m : LinkedMap κ α) (k : κ) (v : α) :
    (m.insert k v).entries = insertEntry k v m.entries := rfl

theorem mem_insert {m : LinkedMap κ α} {k k' : κ} {v v' : α} :
    (k', v') ∈ (m.insert k v).entries ↔ (k' = k ∧ v' = v) ∨ (k' ≠ k ∧ (k', v') ∈ m.entries) :=
  mem_insertEntry m.nodup

theorem keys_insert (m : LinkedMap κ α) (k : κ) (v : α) :
    (m.insert k v).keys = if k ∈ m.keys then m.keys else m.keys ++ [k] :=
  keys_insertEntry k v m.entries

theorem length_insert_le (m : LinkedMap κ α) (k : κ) (v : α) :
    (m.insert k v).entries.length ≤ m.entries.length + 1 := by
  have hkeys := congrArg List.length (keys_insert m k v)
  rw [keys, List.length_map] at hkeys
  rw [hkeys]
  split
  · rw [keys, List.length_map]
    exact Nat.le_succ _
  · rw [List.length_append, keys, List.length_map]
    exact Nat.le_refl _

theorem get?_insert (m : LinkedMap κ α) (k k' : κ) (v : α) :
    (m.insert k v).get? k' = if k' = k then some v else m.get? k' := by
  refine Option.ext fun v' => get?_eq_some_iff.trans (mem_insert.trans ?_)
  split
  · rename_i hk
    simp [hk, eq_comm]
  · rename_i hk
    simp [hk, get?_eq_some_iff]

/-- After a list of writes a key holds what the last write under it wrote. -/
theorem get?_foldl_insert (l : List β) (f : β → κ) (g : β → α) (m : LinkedMap κ α) (k : κ) :
    (l.foldl (fun m b => m.insert (f b) (g b)) m).get? k =
      ((l.filter fun b => f b = k).getLast?.map g).or (m.get? k) := by
  induction l generalizing m with
  | nil => rfl
  | cons b l ih =>
    rw [List.foldl_cons, ih, get?_insert]
    by_cases hk : f b = k
    · rw [if_pos hk.symm, List.filter_cons, if_pos (decide_eq_true hk), List.getLast?_cons]
      cases (l.filter fun b => f b = k).getLast? <;> rfl
    · rw [if_neg (Ne.symm hk), List.filter_cons, if_neg (by simpa using hk)]

end

/-! ## Mapping the values -/

def mapValues (g : α → β) (m : LinkedMap κ α) : LinkedMap κ β where
  entries := m.entries.map (Prod.map id g)
  nodup := by
    rw [List.map_map]
    exact m.nodup

theorem keys_mapValues (g : α → β) (m : LinkedMap κ α) : (m.mapValues g).keys = m.keys :=
  List.map_map

theorem values_mapValues (g : α → β) (m : LinkedMap κ α) :
    (m.mapValues g).values = m.values.map g := by
  rw [values, values, mapValues, List.map_map, List.map_map]
  rfl

section
variable [DecidableEq κ]

theorem get?_mapValues (g : α → β) (m : LinkedMap κ α) (k : κ) :
    (m.mapValues g).get? k = (m.get? k).map g := by
  refine Option.ext fun v => ?_
  rw [Option.map_eq_some_iff]
  refine get?_eq_some_iff.trans ⟨fun h => ?_, fun ⟨a, ha, hav⟩ => ?_⟩
  · obtain ⟨⟨k', a⟩, he, heq⟩ := List.mem_map.mp h
    obtain ⟨rfl, rfl⟩ := Prod.mk.inj heq
    exact ⟨a, get?_eq_some_iff.mpr he, rfl⟩
  · exact List.mem_map.mpr ⟨(k, a), get?_eq_some_iff.mp ha, congrArg (Prod.mk k) hav⟩

end

/-! ## Removing entries -/

/-- Keep the entries that satisfy `p`. -/
def filter (m : LinkedMap κ α) (p : κ × α → Bool) : LinkedMap κ α where
  entries := m.entries.filter p
  nodup := (List.filter_sublist.map Prod.fst).nodup m.nodup

@[simp] theorem mem_filter {m : LinkedMap κ α} {p : κ × α → Bool} {e : κ × α} :
    e ∈ (m.filter p).entries ↔ e ∈ m.entries ∧ p e = true := List.mem_filter

section
variable [DecidableEq κ]

/-- `m.remove(k)`. -/
def erase (m : LinkedMap κ α) (k : κ) : LinkedMap κ α := m.filter (fun e => e.1 ≠ k)

theorem mem_erase {m : LinkedMap κ α} {k : κ} {e : κ × α} :
    e ∈ (m.erase k).entries ↔ e ∈ m.entries ∧ e.1 ≠ k := by
  simp [erase]

theorem keys_erase (m : LinkedMap κ α) (k : κ) :
    (m.erase k).keys = m.keys.filter fun k' => k' ≠ k := by
  rw [keys, keys, List.filter_map]
  rfl

/-- The keys of the values that satisfy `p`. -/
theorem keys_filter (m : LinkedMap κ α) (p : α → Bool) :
    (m.filter fun e => p e.2).keys = m.keys.filter fun k => (m.get? k).any p := by
  rw [keys, keys, List.filter_map]
  refine congrArg (List.map Prod.fst) (List.filter_congr fun e he => ?_)
  simp [get?_eq_some_iff.mpr he]

/-- Removing a list of keys one by one. -/
theorem foldl_erase (m : LinkedMap κ α) (ks : List κ) :
    ks.foldl erase m = m.filter (fun e => e.1 ∉ ks) := by
  induction ks generalizing m with
  | nil => ext1; simp [filter]
  | cons k ks ih =>
    rw [List.foldl_cons, ih]
    ext1
    simp only [erase, filter, List.filter_filter]
    apply List.filter_congr
    intro e _
    simp [Bool.and_comm]

/-- Collecting the keys whose entry satisfies `p` in one loop and removing them in another keeps
the other entries. -/
theorem foldl_erase_keys_filter (m : LinkedMap κ α) (p : Option α → Bool) :
    (m.keys.filter (fun k => p (m.get? k))).foldl erase m = m.filter (fun e => !p (some e.2)) := by
  rw [foldl_erase]
  ext1
  apply List.filter_congr
  intro e he
  have hkey : e.1 ∈ m.keys := List.mem_map.mpr ⟨e, he, rfl⟩
  simp [List.mem_filter, hkey, get?_eq_some_iff.mpr he]

end

end LinkedMap
end MachineTest
