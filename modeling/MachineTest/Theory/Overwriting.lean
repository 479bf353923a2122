import Mathlib.Data.Finset.Preimage
import Mathlib.Data.Fintype.EquivFin
import Mathlib.Data.List.ReduceOption
import MachineTest.Theory.LinkedMap

/-! # Reading a map by writing to it

A map whose values are seen only in order, without their keys and without the values `none`. It
is determined nevertheless by what is seen after labels are written under chosen keys: the label of
a fresh key marks the end of the old entries (`eq_of_overwrite`). -/

namespace MachineTest
/-- A mark that occurs in neither prefix splits a list in one way. -/
theorem append_mark_inj {α : Type} {a : α} {xs ys zs ws : List α} (hx : a ∉ xs) (hy : a ∉ ys)
    (h : xs ++ a :: zs = ys ++ a :: ws) : xs = ys ∧ zs = ws := by
  induction xs generalizing ys with
  | nil =>
    cases ys with
    | nil => exact ⟨rfl, (List.cons.inj h).2⟩
    | cons y ys => exact (hy ((List.cons.inj h).1 ▸ List.mem_cons_self)).elim
  | cons x xs ih =>
    cases ys with
    | nil => exact (hx ((List.cons.inj h).1 ▸ List.mem_cons_self)).elim
    | cons y ys =>
      obtain ⟨hhead, htail⟩ : x = y ∧ xs ++ a :: zs = ys ++ a :: ws := List.cons.inj h
      obtain ⟨hfront, hrest⟩ := ih (fun hm => hx (List.mem_cons_of_mem _ hm))
        (fun hm => hy (List.mem_cons_of_mem _ hm)) htail
      exact ⟨congrArg₂ List.cons hhead hfront, hrest⟩

namespace LinkedMap

variable {κ α β : Type} [DecidableEq κ]

/-- Write a label under each key of a list. -/
def overwrite (label : κ → α) (ks : List κ) (m : LinkedMap κ α) : LinkedMap κ α :=
  ks.foldl (fun m k => m.insert k (label k)) m

/-- The old entries keep their places and take the labels of the keys that are written. -/
theorem entries_overwrite (label : κ → α) (ks : List κ) (m : LinkedMap κ α) :
    ∃ tail, (m.overwrite label ks).entries =
      m.entries.map (fun e => (e.1, if e.1 ∈ ks then label e.1 else e.2)) ++ tail := by
  induction ks generalizing m with
  | nil => exact ⟨[], by simp [overwrite]⟩
  | cons k ks ih =>
    obtain ⟨tail, htail⟩ := ih (m.insert k (label k))
    by_cases hk : k ∈ m.entries.map Prod.fst
    · refine ⟨tail, htail.trans (congrArg (· ++ tail) ?_)⟩
      rw [entries_insert, insertEntry_of_mem m.nodup hk, List.map_map]
      refine List.map_congr_left fun e _ => ?_
      rcases eq_or_ne e.1 k with rfl | hne
      · simp
      · simp [hne]
    · refine ⟨(k, if k ∈ ks then label k else label k) :: tail, htail.trans ?_⟩
      rw [entries_insert, insertEntry_of_not_mem hk, List.map_append, List.append_assoc]
      refine congrArg (· ++ _) (List.map_congr_left fun e he => ?_)
      have hne : e.1 ≠ k := fun heq => hk (List.mem_map.mpr ⟨e, he, heq⟩)
      simp [hne]

/-- What is seen of the old entries. -/
def seen (label : κ → β) (ks : List κ) (m : LinkedMap κ (Option β)) : List β :=
  (m.entries.map fun e => if e.1 ∈ ks then some (label e.1) else e.2).reduceOption

theorem reduceOption_overwrite {label : κ → β} {f : κ} (ks : List κ) {m : LinkedMap κ (Option β)}
    (hf : f ∉ m.keys) : ∃ tail, (m.overwrite (some ∘ label) (f :: ks)).values.reduceOption =
      m.seen label ks ++ label f :: tail := by
  obtain ⟨tail, htail⟩ := entries_overwrite (some ∘ label) ks (m.insert f (some (label f)))
  refine ⟨(tail.map Prod.snd).reduceOption, ?_⟩
  have hentries : (m.overwrite (some ∘ label) (f :: ks)).entries =
      m.entries.map (fun e => (e.1, if e.1 ∈ ks then some (label e.1) else e.2)) ++
        (f, some (label f)) :: tail := by
    refine htail.trans ?_
    rw [entries_insert, insertEntry_of_not_mem hf, List.map_append, List.append_assoc]
    simp
  rw [values, hentries, List.map_append, List.reduceOption_append, List.map_map, List.map_cons,
    List.reduceOption_cons_of_some]
  rfl

theorem mem_seen {label : κ → β} {ks : List κ} {m : LinkedMap κ (Option β)} {b : β}
    (hb : b ∈ m.seen label ks) : b ∈ ks.map label ∨ b ∈ m.values.reduceOption := by
  obtain ⟨e, he, heq⟩ := List.mem_map.mp (List.reduceOption_mem_iff.mp hb)
  split at heq
  · rename_i hk
    exact .inl (Option.some.inj heq ▸ List.mem_map_of_mem hk)
  · exact .inr (List.reduceOption_mem_iff.mpr (heq ▸ List.mem_map_of_mem he))

variable {label : κ → β} {m m' : LinkedMap κ (Option β)}

theorem seen_keys (m : LinkedMap κ (Option β)) {ks : List κ} (h : ∀ k ∈ m.keys, k ∈ ks) :
    m.seen label ks = m.keys.map label := by
  have hmap : m.entries.map (fun e => if e.1 ∈ ks then some (label e.1) else e.2) =
      (m.keys.map label).map some := by
    rw [keys, List.map_map, List.map_map]
    exact List.map_congr_left fun e he => if_pos (h e.1 (List.mem_map_of_mem he))
  rw [seen, hmap, List.reduceOption, List.filterMap_map]
  exact List.filterMap_some

/-- When every other key is written, the value under a key is seen between the labels. -/
theorem seen_others (label : κ → β) {ks : List κ} (hks : ∀ k' ∈ m.keys, k' ∈ ks) {k : κ}
    {v : Option β} (hv : (k, v) ∈ m.entries) : ∃ pre post, m.keys = pre ++ k :: post ∧ k ∉ pre ∧
      m.seen label (ks.filter fun k' => k' ≠ k) =
        pre.map label ++ (v.toList ++ post.map label) := by
  obtain ⟨pre, post, hentries⟩ := List.append_of_mem hv
  have hkeys : m.keys = pre.map Prod.fst ++ k :: post.map Prod.fst := by
    rw [keys, hentries, List.map_append, List.map_cons]
  have hnodup : (pre.map Prod.fst ++ k :: post.map Prod.fst).Nodup := hkeys ▸ m.nodup
  obtain ⟨hpre, hpost⟩ := List.nodup_middle.mp hnodup |> List.nodup_cons.mp |>.1 |>
    List.mem_append.not.mp |> not_or.mp
  have hlabels : ∀ l : List (κ × Option β), (∀ e ∈ l, e ∈ m.entries) → k ∉ l.map Prod.fst →
      (l.map fun e => if e.1 ∈ ks.filter (fun k' => k' ≠ k) then some (label e.1) else e.2) =
        ((l.map Prod.fst).map label).map some := fun l hl hk => by
    rw [List.map_map, List.map_map]
    refine List.map_congr_left fun e he => if_pos (List.mem_filter.mpr ⟨?_, ?_⟩)
    · exact hks e.1 (List.mem_map_of_mem (hl e he))
    · exact decide_eq_true fun heq => hk (heq ▸ List.mem_map_of_mem he)
  refine ⟨pre.map Prod.fst, post.map Prod.fst, hkeys, hpre, ?_⟩
  have hself : k ∉ ks.filter fun k' => k' ≠ k := fun hk => by simpa using (List.mem_filter.mp hk).2
  rw [seen, hentries, List.map_append, List.map_cons, if_neg hself,
    hlabels pre (fun e he => hentries ▸ List.mem_append_left _ he) hpre,
    hlabels post (fun e he => hentries ▸ List.mem_append_right _ (List.mem_cons_of_mem _ he)) hpost,
    List.reduceOption_append]
  cases v <;> simp [List.reduceOption, Function.comp_def]

variable [Infinite κ] [DecidableEq β]

/-- A key that is fresh for a list of keys, and whose label is fresh for a list of labels. -/
theorem exists_fresh (hinj : Function.Injective label) (ks : List κ) (bs : List β) :
    ∃ f, f ∉ ks ∧ label f ∉ bs := by
  obtain ⟨f, hf⟩ := Infinite.exists_notMem_finset
    (ks.toFinset ∪ bs.toFinset.preimage label hinj.injOn)
  rw [Finset.mem_union, List.mem_toFinset, Finset.mem_preimage, List.mem_toFinset] at hf
  exact ⟨f, fun hk => hf (.inl hk), fun hb => hf (.inr hb)⟩

/-- What is seen of the old entries is seen before the label of a fresh key. -/
theorem seen_eq (hinj : Function.Injective label)
    (h : ∀ f ks, (m.overwrite (some ∘ label) (f :: ks)).values.reduceOption =
      (m'.overwrite (some ∘ label) (f :: ks)).values.reduceOption) (ks : List κ) :
    m.seen label ks = m'.seen label ks := by
  obtain ⟨f, hf, hlabel⟩ := exists_fresh hinj (m.keys ++ m'.keys)
    (ks.map label ++ (m.values.reduceOption ++ m'.values.reduceOption))
  obtain ⟨hfm, hfm'⟩ := not_or.mp (List.mem_append.not.mp hf)
  obtain ⟨hks, hvalues⟩ := not_or.mp (List.mem_append.not.mp hlabel)
  obtain ⟨hm, hm'⟩ := not_or.mp (List.mem_append.not.mp hvalues)
  obtain ⟨tail, htail⟩ : ∃ tail, (m.overwrite (some ∘ label) (f :: ks)).values.reduceOption =
      m.seen label ks ++ label f :: tail := reduceOption_overwrite ks hfm
  obtain ⟨tail', htail'⟩ : ∃ tail, (m'.overwrite (some ∘ label) (f :: ks)).values.reduceOption =
      m'.seen label ks ++ label f :: tail := reduceOption_overwrite ks hfm'
  have hsplit := (htail.symm.trans (h f ks)).trans htail'
  have hnot : label f ∉ m.seen label ks := fun hb => (mem_seen hb).elim hks hm
  have hnot' : label f ∉ m'.seen label ks := fun hb => (mem_seen hb).elim hks hm'
  exact (append_mark_inj hnot hnot' hsplit).1

/-- **Reading by writing.** Two maps that look the same after every series of writes are equal. -/
theorem eq_of_overwrite (hinj : Function.Injective label)
    (h : ∀ f ks, (m.overwrite (some ∘ label) (f :: ks)).values.reduceOption =
      (m'.overwrite (some ∘ label) (f :: ks)).values.reduceOption) : m = m' := by
  have hkeys : m.keys = m'.keys := by
    have hseen := seen_eq hinj h (m.keys ++ m'.keys)
    rw [seen_keys m fun k hk => List.mem_append_left _ hk,
      seen_keys m' fun k hk => List.mem_append_right _ hk] at hseen
    exact List.map_injective_iff.mpr hinj hseen
  refine ext_get? hkeys fun k hk => ?_
  obtain ⟨⟨_, v⟩, hv, rfl⟩ := List.mem_map.mp hk
  obtain ⟨⟨k', v'⟩, hv', heq⟩ := List.mem_map.mp (hkeys ▸ hk)
  obtain rfl : k' = _ := heq
  have hcover : ∀ k ∈ m'.keys, k ∈ m.keys := fun k hk => hkeys ▸ hk
  obtain ⟨pre, post, hsplit, hpre, hseen⟩ := seen_others label (fun k (hk : k ∈ m.keys) => hk) hv
  obtain ⟨pre', post', hsplit', hpre', hseen'⟩ := seen_others label hcover hv'
  obtain ⟨rfl, rfl⟩ := append_mark_inj hpre hpre' (hsplit.symm.trans (hkeys.trans hsplit'))
  have hvalues := hseen.symm.trans ((seen_eq hinj h _).trans hseen')
  have hlist : v.toList = v'.toList := List.append_cancel_right (List.append_cancel_left hvalues)
  obtain rfl : v = v' := by
    rw [← Option.head?_toList (o := v), hlist, Option.head?_toList]
  rw [get?_eq_some_iff.mpr hv, get?_eq_some_iff.mpr hv']

end LinkedMap
end MachineTest
