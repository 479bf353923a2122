import Mathlib.Data.List.DropRight
import MachineTest.Pages.Tokens

/-! # The stored token

Once every call has returned, the stored token and `Singleton.userToken` are those of the login or
logout that began last, if and only if since it began no call overtook it: a cell is written for
another user only while a call for the right one has yet to write it. -/

namespace MachineTest

/-- The two places of a token. -/
inductive Cell where
  | stored
  | assigned

def SessionStore.token (s : SessionStore) : Cell → Option Token
  | .stored => s.storage.userToken
  | .assigned => s.session.userToken

namespace TokenCall

/-- The next step of the call writes the cell. -/
def writes : TokenCall → Cell → Bool
  | .writeUserToken _, .stored | .deleteUserToken, .stored => true
  | .assignUserToken _, .assigned | .clearUserToken, .assigned => true
  | _, _ => false

/-- The call has yet to write the cell. Every call writes `Singleton.userToken` last. -/
def pending : TokenCall → Cell → Bool
  | .getIdToken _, .stored | .writeUserToken _, .stored | .deleteUserToken, .stored => true
  | _, .assigned => true
  | _, .stored => false

theorem resume_of_writes {c : TokenCall} {x : Cell} (h : c.writes x = true) (serial : ℕ)
    (s : SessionStore) : ((c.resume serial s).1.token x).map Token.user = c.user ∧
      (c.resume serial s).2.any (·.pending x) = false := by
  cases c <;> cases x <;> cases h <;> exact ⟨rfl, rfl⟩

theorem resume_of_not_writes {c : TokenCall} {x : Cell} (h : c.writes x = false) (serial : ℕ)
    (s : SessionStore) : (c.resume serial s).1.token x = s.token x ∧
      (c.resume serial s).2.any (·.pending x) = c.pending x := by
  cases c <;> cases x <;> cases h <;> exact ⟨rfl, rfl⟩

theorem pending_of_writes {c : TokenCall} {x : Cell} (h : c.writes x = true) :
    c.pending x = true := by
  cases c <;> cases x <;> cases h <;> rfl

/-- A call returns with its write of `Singleton.userToken`. -/
theorem isNone_resume (c : TokenCall) (serial : ℕ) (s : SessionStore) :
    (c.resume serial s).2.isNone = c.writes .assigned := by
  cases c <;> rfl

end TokenCall

namespace Process

/-- Some call of the list is for the last login or logout, or for another of that user, and has yet
to write the cell. -/
def Awaits (begun : Option User) (calls : List TokenCall) (x : Cell) : Prop :=
  ∃ c ∈ calls, c.pending x = true ∧ c.user = begun

/-- The cell is as the last login or logout leaves it, or will be written so. -/
def Covered (x : Cell) (p : Process) : Prop :=
  (p.store.token x).map Token.user = p.begun ∨ Awaits p.begun p.calls x

/-- The step is not that of a call for another user, or of a logout, that writes a cell after all
the calls for the last login or logout did. -/
def Current (p : Process) : Event → Prop
  | .resume i _ => ∀ call, p.calls[i]? = some call → ∀ x, call.writes x = true →
    call.user = p.begun ∨ Awaits p.begun (p.calls.eraseIdx i) x
  | _ => True

theorem awaits_append {begun : Option User} {calls calls' : List TokenCall} {x : Cell} :
    Awaits begun (calls ++ calls') x ↔ Awaits begun calls x ∨ Awaits begun calls' x := by
  simp only [Awaits, List.mem_append, or_and_right, exists_or]

theorem awaits_getElem? {begun : Option User} {calls : List TokenCall} {i : ℕ} {call : TokenCall}
    (h : calls[i]? = some call) (x : Cell) : Awaits begun calls x ↔
      (call.pending x = true ∧ call.user = begun) ∨ Awaits begun (calls.eraseIdx i) x := by
  obtain ⟨hi, rfl⟩ := List.getElem?_eq_some_iff.mp h
  have hmem : ∀ c, c ∈ calls ↔ c = calls[i] ∨ c ∈ calls.eraseIdx i := fun c =>
    (List.getElem_cons_eraseIdx_perm hi).mem_iff.symm.trans List.mem_cons
  simp only [Awaits, hmem, or_and_right, exists_or, exists_eq_left]

theorem awaits_toList {begun : Option User} {call : TokenCall} {serial : ℕ} {s : SessionStore}
    {x : Cell} : Awaits begun (call.resume serial s).2.toList x ↔
      (call.resume serial s).2.any (·.pending x) = true ∧ call.user = begun := by
  cases hrest : (call.resume serial s).2 with
  | none => simp [Awaits]
  | some c => simp [Awaits, TokenCall.user_resume hrest]

/-- A resumed call keeps the cell covered exactly when it does not overtake the others. -/
theorem covered_resume {i serial : ℕ} {p p' : Process} {call : TokenCall}
    (hcall : p.calls[i]? = some call) (h : p.resume i serial = some p') (x : Cell) :
    p'.Covered x ↔ p.Covered x ∧
      (call.writes x = true → call.user = p.begun ∨ Awaits p.begun (p.calls.eraseIdx i) x) := by
  obtain ⟨_, hcall', rfl⟩ := resume_eq_some.mp h
  obtain rfl := Option.some.inj (hcall.symm.trans hcall')
  rw [Covered, Covered, awaits_append, awaits_toList, awaits_getElem? hcall]
  dsimp only
  cases hwrites : call.writes x with
  | true =>
    obtain ⟨hvalue, hrest⟩ := TokenCall.resume_of_writes hwrites serial p.store
    rw [hvalue, hrest, TokenCall.pending_of_writes hwrites]
    simp only [Bool.false_eq_true, false_and, false_or, true_and, true_implies]
    exact ⟨fun h => ⟨.inr h, h⟩, And.right⟩
  | false =>
    obtain ⟨hvalue, hrest⟩ := TokenCall.resume_of_not_writes hwrites serial p.store
    rw [hvalue, hrest]
    simp only [Bool.false_eq_true, false_implies, and_true]

/-- The event is not the begin of a login or logout. -/
def Event.quiet : Event → Bool
  | .login _ | .logout => false
  | .back | .resume .. => true

theorem covered_step {p p' : Process} {e : Event} (hquiet : e.quiet = true)
    (h : machine.step p e = some p') :
    (∀ x, p'.Covered x) ↔ (∀ x, p.Covered x) ∧ p.Current e := by
  cases e with
  | login | logout => cases hquiet
  | back =>
    cases h
    exact (and_iff_left trivial).symm
  | resume i serial =>
    obtain ⟨call, hcall, _⟩ := resume_eq_some.mp h
    have hiff := covered_resume hcall h
    constructor
    · intro hall
      refine ⟨fun x => ((hiff x).mp (hall x)).1, fun c hc x => ?_⟩
      obtain rfl := Option.some.inj (hcall.symm.trans hc)
      exact ((hiff x).mp (hall x)).2
    · rintro ⟨hall, hcurrent⟩ x
      exact (hiff x).mpr ⟨hall x, hcurrent call hcall x⟩

/-- A new call has yet to write both cells. -/
theorem covered_begin {p p' : Process} {e : Event} (hbegin : e.quiet = false)
    (h : machine.step p e = some p') (x : Cell) : p'.Covered x := by
  cases e with
  | login user =>
    cases h
    exact .inr ⟨_, List.mem_cons_self, by cases x <;> rfl, rfl⟩
  | logout =>
    cases h
    exact .inr ⟨_, List.mem_cons_self, by cases x <;> rfl, rfl⟩
  | back | resume => cases hbegin

/-- `Singleton.userToken` is as the call that returned last left it. -/
theorem run_completed {es : List Event} {p : Process} (hrun : machine.run {} es = some p) :
    p.store.session.userToken.map Token.user = p.completed := by
  refine Machine.run_invariant
    (I := fun p => p.store.session.userToken.map Token.user = p.completed) ?_ rfl hrun
  intro p e p' hp h
  cases e with
  | login | logout | back =>
    cases h
    exact hp
  | resume i serial =>
    obtain ⟨call, _, rfl⟩ := resume_eq_some.mp h
    dsimp only
    rw [TokenCall.isNone_resume]
    cases hwrites : call.writes .assigned with
    | true => exact (TokenCall.resume_of_writes hwrites serial p.store).1
    | false =>
      have hvalue := (TokenCall.resume_of_not_writes hwrites serial p.store).1
      exact (congrArg (Option.map Token.user) hvalue).trans hp

/-- The login or logout that began last is the one whose call returned last. If it was a login,
both cells hold a token of its user, and if it was a logout, none. -/
structure Agrees (p : Process) : Prop where
  completed : p.completed = p.begun
  stored : p.store.storage.userToken.map Token.user = p.completed
  assigned : p.store.session.userToken.map Token.user = p.completed

theorem covered_of_settled {p : Process} (hsettled : p.calls = []) (x : Cell) :
    p.Covered x ↔ (p.store.token x).map Token.user = p.begun := by
  rw [Covered, hsettled]
  refine or_iff_left ?_
  rintro ⟨_, hc, _⟩
  cases hc

theorem agrees_iff_covered {es : List Event} {p : Process} (hrun : machine.run {} es = some p)
    (hsettled : p.calls = []) : p.Agrees ↔ ∀ x, p.Covered x := by
  have hcompleted := run_completed hrun
  have hcell := covered_of_settled hsettled
  constructor
  · rintro ⟨hbegun, hstored, hassigned⟩ x
    rw [hcell, ← hbegun]
    cases x with
    | stored => exact hstored
    | assigned => exact hassigned
  · intro h
    have hbegun : p.completed = p.begun :=
      hcompleted.symm.trans ((hcell .assigned).mp (h .assigned))
    exact ⟨hbegun, ((hcell .stored).mp (h .stored)).trans hbegun.symm, hcompleted⟩

/-- Every step since the last login or logout began was current. -/
def CurrentSince (es : List Event) : Prop :=
  ∀ p, machine.run {} (es.rdropWhile Event.quiet) = some p →
    machine.AlongSteps Current p (es.rtakeWhile Event.quiet)

theorem covered_iff_currentSince {es : List Event} {p : Process}
    (hrun : machine.run {} es = some p) : (∀ x, p.Covered x) ↔ CurrentSince es := by
  have hsplit : machine.run {} (es.rdropWhile Event.quiet ++ es.rtakeWhile Event.quiet) = some p :=
    (congrArg (machine.run {}) List.rdropWhile_append_rtakeWhile).trans hrun
  obtain ⟨start, hstart, hsince⟩ := Machine.run_append.mp hsplit
  have hcovered : ∀ x, start.Covered x := by
    rcases List.eq_nil_or_concat (es.rdropWhile Event.quiet) with hnil | ⟨es', e, hes⟩
    · rw [hnil] at hstart
      cases hstart
      exact fun x => .inl (by cases x <;> rfl)
    · have hbegin : e.quiet = false := by
        have hlast := List.rdropWhile_last_not Event.quiet es (by simp [hes])
        simpa [hes] using hlast
      rw [hes, List.concat_eq_append] at hstart
      obtain ⟨u, _, hu⟩ := Machine.run_append.mp hstart
      obtain ⟨v, hv, hend⟩ := Machine.run_cons.mp hu
      cases hend
      exact covered_begin hbegin hv
  have hquiet : ∀ e ∈ es.rtakeWhile Event.quiet, e.quiet = true :=
    fun e he => List.mem_rtakeWhile_imp he
  have hiff := Machine.run_iff_alongSteps (Q := fun p => ∀ x, p.Covered x)
    (fun _ _ _ he h => covered_step he h) hquiet hsince
  rw [hiff, CurrentSince]
  constructor
  · rintro ⟨_, hcurrent⟩ p' hp'
    obtain rfl := Option.some.inj (hstart.symm.trans hp')
    exact hcurrent
  · exact fun h => ⟨hcovered, h start hstart⟩

/-- **The stored token.** When every call has returned, storage and singleton agree with the last
login or logout if and only if no step since it began was that of an overtaken call. -/
theorem agrees_iff {es : List Event} {p : Process} (hrun : machine.run {} es = some p)
    (hsettled : p.calls = []) : p.Agrees ↔ CurrentSince es := by
  rw [agrees_iff_covered hrun hsettled, covered_iff_currentSince hrun]

/-- The user whom the event logs in, or nobody after a logout. -/
def Event.begins : Event → Option (Option User)
  | .login user => some (some user)
  | .logout => some none
  | .back | .resume .. => none

/-- The user of the last login or logout to begin. -/
def lastBegun (es : List Event) : Option User :=
  (es.filterMap Event.begins).getLast?.getD none

theorem begun_run {es : List Event} {p : Process} (hrun : machine.run {} es = some p) :
    p.begun = lastBegun es := by
  have hstep : ∀ (p : Process) (e : Event) (p' : Process), machine.step p e = some p' →
      some p'.begun = e.begins.or (some p.begun) := by
    intro p e p' h
    cases e with
    | login | logout | back =>
      cases h
      rfl
    | resume i serial =>
      obtain ⟨call, _, rfl⟩ := resume_eq_some.mp h
      rfl
  have hlast := Machine.run_register (f := fun p => some p.begun) hstep hrun
  rw [Option.or_some] at hlast
  exact Option.some.inj hlast

def alice : User := ⟨"alice", .google⟩

/-- A login, then a logout after the login's call has returned. -/
def loginLogout : List Event :=
  [.login alice, .resume 0 0, .resume 0 0, .resume 0 0, .resume 0 0, .resume 0 0,
    .logout, .resume 0 0, .resume 0 0, .resume 0 0]

theorem agrees_iff_loginLogout : ∃ p, machine.run {} loginLogout = some p ∧
    (p.Agrees ↔ CurrentSince loginLogout) := by
  obtain ⟨p, hrun, hsettled⟩ : ∃ p, machine.run {} loginLogout = some p ∧ p.calls = [] :=
    ⟨_, rfl, rfl⟩
  exact ⟨p, hrun, agrees_iff hrun hsettled⟩

/-- The logout's call deletes the token before `getIdToken` answers the login's call, which stores
it again and returns. -/
def lateStore : List Event :=
  [.login alice, .logout, .resume 0 0, .resume 1 0, .resume 0 0, .resume 0 0, .resume 0 0,
    .resume 0 0, .resume 0 0, .resume 0 0]

/-- The logout is the last to begin and the last to return, and the token of the login is stored. -/
theorem token_outlives_logout : ∃ p, machine.run {} lateStore = some p ∧ p.calls = [] ∧
    p.begun = none ∧ p.completed = none ∧ p.store.storage.userToken = some ⟨alice, 0⟩ ∧
    ¬ p.Agrees := by
  refine ⟨_, rfl, rfl, rfl, rfl, rfl, fun h => ?_⟩
  cases h.stored

end Process
end MachineTest
