import Mathlib.Algebra.BigOperators.Group.List.Basic
import Mathlib.Data.List.ReduceOption

/-! # Partial machines and their runs

A `Machine` is a deterministic step function whose actions may be disabled. Nondeterminism (the
choice of the user, of the network, of the scheduler) is a choice of actions, so a statement about
every list of actions is a statement about every interleaving.

* `run_invariant`: what every step keeps holds after every run;
* `alongStates_iff_alongSteps`: a property holds all along a run exactly when every step of the run
  meets a side condition; `alongStates_iff` is the case without assumptions on the run;
* `run_invariant_along`: what holds after a run whose steps meet a side condition;
* `run_iff_alongSteps`: the same for a property at the end of a run, that no step brings back;
* `run_register`: a field that some actions overwrite holds what the last of them wrote;
* `run_history`: an invariant that speaks of the actions so far;
* `run_conserved`: what comes in along a run goes out or is still there;
* `run_simulates`: a machine whose steps are runs of another;
* `run_abstracts`: a machine whose steps do one action each to an abstract state, or at most one
  (`orIdle`);
* `map_run_eq`: two machines in lock step. -/

namespace MachineTest

/-- A deterministic machine. `step s a = none` says that the action `a` is not possible in `s`. -/
structure Machine (σ α : Type) where
  step : σ → α → Option σ

namespace Machine

variable {σ τ α β R : Type}

/-- The state after a list of actions, all of them possible. -/
def run (M : Machine σ α) : σ → List α → Option σ
  | s, [] => some s
  | s, a :: as => (M.step s a).bind (M.run · as)

variable {M : Machine σ α}

@[simp] theorem run_nil (s : σ) : M.run s [] = some s := rfl

theorem run_cons {s s' : σ} {a : α} {as : List α} :
    M.run s (a :: as) = some s' ↔ ∃ t, M.step s a = some t ∧ M.run t as = some s' :=
  Option.bind_eq_some_iff

theorem run_append {s s' : σ} {as bs : List α} :
    M.run s (as ++ bs) = some s' ↔ ∃ t, M.run s as = some t ∧ M.run t bs = some s' := by
  induction as generalizing s with
  | nil => simp
  | cons a as ih =>
    simp only [List.cons_append, run_cons, ih]
    constructor
    · rintro ⟨u, hu, t, ht, hs⟩
      exact ⟨t, ⟨u, hu, ht⟩, hs⟩
    · rintro ⟨t, ⟨u, hu, ht⟩, hs⟩
      exact ⟨u, hu, t, ht, hs⟩

/-! ## Invariants -/

/-- What every step keeps holds after every run. -/
theorem run_invariant {I : σ → Prop} (hstep : ∀ s a s', I s → M.step s a = some s' → I s')
    {as : List α} {s s' : σ} (hs : I s) (hrun : M.run s as = some s') : I s' := by
  induction as generalizing s with
  | nil =>
    cases hrun
    exact hs
  | cons a as ih =>
    obtain ⟨t, ht, hrun⟩ := run_cons.mp hrun
    exact ih (hstep s a t hs ht) hrun

/-- `P` holds in every state a run passes through, its first and last included. -/
def AlongStates (M : Machine σ α) (P : σ → Prop) : σ → List α → Prop
  | s, [] => P s
  | s, a :: as => P s ∧ ∀ s', M.step s a = some s' → M.AlongStates P s' as

/-- `C` holds of every step a run takes: of the state before it and its action. -/
def AlongSteps (M : Machine σ α) (C : σ → α → Prop) : σ → List α → Prop
  | _, [] => True
  | s, a :: as => ∀ s', M.step s a = some s' → C s a ∧ M.AlongSteps C s' as

theorem AlongSteps.cons {C : σ → α → Prop} {s s' : σ} {a : α} {as : List α}
    (hstep : M.step s a = some s') (hC : C s a) (h : M.AlongSteps C s' as) :
    M.AlongSteps C s (a :: as) := fun t ht => by
  cases hstep.symm.trans ht
  exact ⟨hC, h⟩

/-- A condition that the actions meet in every state. -/
theorem AlongSteps.of_forall {C : σ → α → Prop} {as : List α} (h : ∀ a ∈ as, ∀ s, C s a) {s : σ} :
    M.AlongSteps C s as := by
  induction as generalizing s with
  | nil => trivial
  | cons a as ih =>
    obtain ⟨ha, hrest⟩ := List.forall_mem_cons.mp h
    intro s' _
    exact ⟨ha s, ih hrest⟩

theorem AlongStates.head {P : σ → Prop} {s : σ} {as : List α} (h : M.AlongStates P s as) : P s := by
  cases as with
  | nil => exact h
  | cons a as => exact h.1

/-- For runs whose steps meet an assumption `A`: when the invariant `I` implies the property `P`,
steps that meet the condition `C` keep `I`, and a step from `I` into `P` meets `C`, then `P` holds
all along a run if and only if every step of the run meets `C`. -/
theorem alongStates_iff_alongSteps {I P : σ → Prop} {A C : σ → α → Prop}
    (himp : ∀ s, I s → P s)
    (hstep : ∀ s a s', I s → A s a → C s a → M.step s a = some s' → I s')
    (hexact : ∀ s a s', I s → A s a → M.step s a = some s' → P s' → C s a)
    {as : List α} {s : σ} (hs : I s) (hA : M.AlongSteps A s as) :
    M.AlongStates P s as ↔ M.AlongSteps C s as := by
  induction as generalizing s with
  | nil => exact ⟨fun _ => trivial, fun _ => himp s hs⟩
  | cons a as ih =>
    constructor
    · intro h s' hs'
      obtain ⟨hassumed, hrest⟩ := hA s' hs'
      have hP : M.AlongStates P s' as := h.2 s' hs'
      have hC : C s a := hexact s a s' hs hassumed hs' hP.head
      exact ⟨hC, (ih (hstep s a s' hs hassumed hC hs') hrest).mp hP⟩
    · intro h
      refine ⟨himp s hs, fun s' hs' => ?_⟩
      obtain ⟨hassumed, hrest⟩ := hA s' hs'
      obtain ⟨hC, hCs⟩ := h s' hs'
      exact (ih (hstep s a s' hs hassumed hC hs') hrest).mpr hCs

/-- The same for all runs. -/
theorem alongStates_iff {I P : σ → Prop} {C : σ → α → Prop} (himp : ∀ s, I s → P s)
    (hstep : ∀ s a s', I s → C s a → M.step s a = some s' → I s')
    (hexact : ∀ s a s', I s → M.step s a = some s' → P s' → C s a) {as : List α} {s : σ}
    (hs : I s) : M.AlongStates P s as ↔ M.AlongSteps C s as :=
  alongStates_iff_alongSteps (A := fun _ _ => True) himp (fun s a s' h _ => hstep s a s' h)
    (fun s a s' h _ => hexact s a s' h) hs (.of_forall fun _ _ _ => trivial)

/-- What every step that meets the condition `C` keeps holds after every run of such steps. -/
theorem run_invariant_along {I : σ → Prop} {C : σ → α → Prop}
    (hstep : ∀ s a s', I s → C s a → M.step s a = some s' → I s') {as : List α} {s s' : σ}
    (hs : I s) (hC : M.AlongSteps C s as) (hrun : M.run s as = some s') : I s' := by
  induction as generalizing s with
  | nil =>
    cases hrun
    exact hs
  | cons a as ih =>
    obtain ⟨t, ht, hrun⟩ := run_cons.mp hrun
    obtain ⟨hCa, hCs⟩ := hC t ht
    exact ih (hstep s a t hs hCa ht) hCs hrun

/-- A property that the actions in `A` keep exactly when the condition `C` is met, and that they
never bring back, holds at the end of a run of such actions exactly when it held at its start and
every step met `C`. -/
theorem run_iff_alongSteps {Q : σ → Prop} {A : α → Prop} {C : σ → α → Prop}
    (hstep : ∀ s a s', A a → M.step s a = some s' → (Q s' ↔ Q s ∧ C s a)) {as : List α}
    {s t : σ} (hA : ∀ a ∈ as, A a) (hrun : M.run s as = some t) :
    Q t ↔ Q s ∧ M.AlongSteps C s as := by
  induction as generalizing s with
  | nil =>
    cases hrun
    exact (and_iff_left trivial).symm
  | cons a as ih =>
    obtain ⟨u, hu, hrun⟩ := run_cons.mp hrun
    have hiff := hstep s a u (hA a List.mem_cons_self) hu
    rw [ih (fun b hb => hA b (List.mem_cons_of_mem _ hb)) hrun, hiff]
    constructor
    · rintro ⟨⟨hQ, hC⟩, hrest⟩
      exact ⟨hQ, .cons hu hC hrest⟩
    · rintro ⟨hQ, hall⟩
      obtain ⟨hC, hrest⟩ := hall u hu
      exact ⟨⟨hQ, hC⟩, hrest⟩

/-! ## The past of a step -/

/-- A field that some actions overwrite, and that no other action changes, holds what the last of
them wrote. -/
theorem run_register {f : σ → Option β} {written : α → Option β}
    (hstep : ∀ s a s', M.step s a = some s' → f s' = (written a).or (f s)) {as : List α} {s s' : σ}
    (hrun : M.run s as = some s') : f s' = (as.filterMap written).getLast?.or (f s) := by
  induction as generalizing s with
  | nil =>
    cases hrun
    rfl
  | cons a as ih =>
    obtain ⟨t, ht, hrun⟩ := run_cons.mp hrun
    rw [ih hrun, hstep s a t ht]
    cases hwritten : written a with
    | none => rw [List.filterMap_cons_none hwritten, Option.none_or]
    | some b =>
      rw [List.filterMap_cons_some hwritten, List.getLast?_cons, Option.some_or, Option.or_some,
        Option.some_or]

/-- An invariant of the actions so far and of the state they lead to. -/
theorem run_history {I : List α → σ → Prop}
    (hstep : ∀ past s a s', I past s → M.step s a = some s' → I (past ++ [a]) s') {as : List α}
    {s s' : σ} (hs : I [] s) (hrun : M.run s as = some s') : I as s' := by
  suffices h : ∀ (past : List α) (s : σ), I past s → M.run s as = some s' → I (past ++ as) s' from
    h [] s hs hrun
  clear hs hrun
  induction as with
  | nil =>
    intro past s hs hrun
    cases hrun
    rwa [List.append_nil]
  | cons a as ih =>
    intro past s hs hrun
    obtain ⟨t, ht, hrun⟩ := run_cons.mp hrun
    have htail := ih (past ++ [a]) t (hstep past s a t hs ht) hrun
    rwa [List.append_assoc] at htail

/-- `C` holds of every step a run takes: of the actions before it, of the state before it and of its
action. -/
def AlongPast (M : Machine σ α) (C : List α → σ → α → Prop) (s : σ) (as : List α) : Prop :=
  ∀ past a rest, as = past ++ a :: rest → ∀ t t', M.run s past = some t → M.step t a = some t' →
    C past t a

theorem AlongPast.congr {C D : List α → σ → α → Prop} {s : σ}
    (h : ∀ past t a t', M.run s past = some t → M.step t a = some t' → (C past t a ↔ D past t a))
    (as : List α) : M.AlongPast C s as ↔ M.AlongPast D s as :=
  forall_congr' fun past => forall_congr' fun a => forall_congr' fun _ => forall_congr' fun _ =>
    forall_congr' fun t => forall_congr' fun t' => forall_congr' fun hrun => forall_congr' fun ht =>
      h past t a t' hrun ht

/-! ## Conservation -/

/-- The sum of what the steps of a run put out. -/
def total [AddCommGroup R] (M : Machine σ α) (out : σ → α → R) : σ → List α → R
  | _, [] => 0
  | s, a :: as => out s a + (M.step s a).elim 0 (M.total out · as)

/-- What depends on the action alone adds up over the actions. -/
theorem total_eq_sum [AddCommGroup R] {gain : α → R} {as : List α} {s s' : σ}
    (hrun : M.run s as = some s') : M.total (fun _ a => gain a) s as = (as.map gain).sum := by
  induction as generalizing s with
  | nil => rfl
  | cons a as ih =>
    obtain ⟨t, ht, hrun⟩ := run_cons.mp hrun
    rw [total, ht, List.map_cons, List.sum_cons, ← ih hrun]
    rfl

/-- When every step that meets the condition `C` takes into `φ` what it gains and does not put out,
so does every run of such steps. -/
theorem run_conserved [AddCommGroup R] {I : σ → Prop} {C : σ → α → Prop} {φ : σ → R}
    {out gain : σ → α → R} (hkeep : ∀ s a s', I s → C s a → M.step s a = some s' → I s')
    (hstep : ∀ s a s', I s → C s a → M.step s a = some s' → out s a + φ s' = φ s + gain s a)
    {as : List α} {s s' : σ} (hs : I s) (hC : M.AlongSteps C s as) (hrun : M.run s as = some s') :
    M.total out s as + φ s' = φ s + M.total gain s as := by
  induction as generalizing s with
  | nil =>
    cases hrun
    exact (zero_add _).trans (add_zero _).symm
  | cons a as ih =>
    obtain ⟨t, ht, hrun⟩ := run_cons.mp hrun
    obtain ⟨hCa, hCs⟩ := hC t ht
    have hone := hstep s a t hs hCa ht
    have hrest := ih (hkeep s a t hs hCa ht) hCs hrun
    have htotal (f : σ → α → R) : M.total f s (a :: as) = f s a + M.total f t as := by
      rw [total, ht]
      rfl
    calc M.total out s (a :: as) + φ s'
        = out s a + (M.total out t as + φ s') := by rw [htotal, add_assoc]
      _ = (out s a + φ t) + M.total gain t as := by rw [hrest, add_assoc]
      _ = φ s + M.total gain s (a :: as) := by rw [hone, htotal, add_assoc]

/-! ## Simulation -/

/-- When every allowed step of `M` is matched by a run of `N`, so is every run of such steps. -/
theorem run_simulates {N : Machine τ β} {R : σ → τ → Prop} {A : α → Prop} {image : α → List β}
    (hstep : ∀ s a s' t, R s t → A a → M.step s a = some s' →
      ∃ t', N.run t (image a) = some t' ∧ R s' t') {as : List α} {s s' : σ} {t : τ}
    (h : R s t) (hA : ∀ a ∈ as, A a) (hrun : M.run s as = some s') :
    ∃ t', N.run t (as.flatMap image) = some t' ∧ R s' t' := by
  induction as generalizing s t with
  | nil =>
    cases hrun
    exact ⟨t, rfl, h⟩
  | cons a as ih =>
    obtain ⟨u, hu, hrun⟩ := run_cons.mp hrun
    obtain ⟨v, hv, huv⟩ := hstep s a u t h (hA a List.mem_cons_self) hu
    obtain ⟨t', ht', hst'⟩ := ih huv (fun b hb => hA b (List.mem_cons_of_mem _ hb)) hrun
    exact ⟨t', run_append.mpr ⟨v, hv, ht'⟩, hst'⟩

/-- What the steps of a run put out, in their order. -/
def outputs (M : Machine σ α) (out : σ → α → β) : σ → List α → List β
  | _, [] => []
  | s, a :: as => out s a :: (M.step s a).elim [] (M.outputs out · as)

theorem outputs_cons {out : σ → α → β} {s t : σ} {a : α} (ht : M.step s a = some t) (as : List α) :
    M.outputs out s (a :: as) = out s a :: M.outputs out t as := by
  rw [outputs, ht]
  rfl

/-- When every step that meets the condition `C` does to the abstract state `f s` the action that it
puts out, so does every run of such steps. -/
theorem run_abstracts {N : Machine τ β} {I : σ → Prop} {C : σ → α → Prop} {f : σ → τ}
    {g : σ → α → β} (hkeep : ∀ s a s', I s → C s a → M.step s a = some s' → I s')
    (hstep : ∀ s a s', I s → C s a → M.step s a = some s' → N.step (f s) (g s a) = some (f s'))
    {as : List α} {s s' : σ} (hs : I s) (hC : M.AlongSteps C s as) (hrun : M.run s as = some s') :
    N.run (f s) (M.outputs g s as) = some (f s') := by
  induction as generalizing s with
  | nil =>
    cases hrun
    rfl
  | cons a as ih =>
    obtain ⟨t, ht, hrun⟩ := run_cons.mp hrun
    obtain ⟨hCa, hCs⟩ := hC t ht
    have hone := hstep s a t hs hCa ht
    have hrest := ih (hkeep s a t hs hCa ht) hCs hrun
    rw [outputs_cons ht]
    exact run_cons.mpr ⟨f t, hone, hrest⟩

/-- The machine that may also do nothing. -/
def orIdle (M : Machine σ α) : Machine σ (Option α) where
  step s a := a.elim (some s) (M.step s)

theorem run_orIdle {as : List (Option α)} {s : σ} :
    M.orIdle.run s as = M.run s as.reduceOption := by
  induction as generalizing s with
  | nil => rfl
  | cons a as ih =>
    cases a with
    | none =>
      rw [List.reduceOption_cons_of_none, ← ih]
      rfl
    | some a =>
      rw [List.reduceOption_cons_of_some, run, run]
      exact Option.bind_congr fun t _ => ih

/-! ## Two machines in lock step -/

/-- Two machines whose related states look the same, offer the same actions and stay related: the
same actions are possible from related states, and what is seen after them is the same. -/
theorem map_run_eq {N : Machine τ α} {R : σ → τ → Prop} {f : σ → β} {g : τ → β}
    (hview : ∀ s t, R s t → f s = g t)
    (henabled : ∀ s t a, R s t → (M.step s a).isSome = (N.step t a).isSome)
    (hstep : ∀ s t a s' t', R s t → M.step s a = some s' → N.step t a = some t' → R s' t')
    {as : List α} {s : σ} {t : τ} (h : R s t) : (M.run s as).map f = (N.run t as).map g := by
  induction as generalizing s t with
  | nil => exact congrArg some (hview s t h)
  | cons a as ih =>
    have hsome := henabled s t a h
    rw [run, run]
    cases hs : M.step s a with
    | none =>
      cases ht : N.step t a with
      | none => rfl
      | some v => rw [hs, ht] at hsome; cases hsome
    | some u =>
      cases ht : N.step t a with
      | none => rw [hs, ht] at hsome; cases hsome
      | some v => exact ih (hstep s t a u v h hs ht)

end Machine
end MachineTest
