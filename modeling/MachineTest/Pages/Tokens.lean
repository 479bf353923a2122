import MachineTest.Pages.HomePageController
import MachineTest.Theory.Machine

/-! # Token calls under way

`initState` of the home page and the logout button start `storeFirebaseToken` and
`removeFirebaseToken` without waiting for them, and neither call knows of the other. Any of the
calls under way may be the next to run. -/

namespace MachineTest

/-- The user whose token the call stores, null in a call of `removeFirebaseToken`. -/
def TokenCall.user : TokenCall → Option User
  | .getIdToken user => some user
  | .writeUserToken token | .readIsLogin token | .writeIsLogin token _ | .assignUserToken token =>
    some token.user
  | .deleteUserToken | .deleteIsLogin | .clearUserToken => none

theorem TokenCall.user_resume {c c' : TokenCall} {serial : ℕ} {s : SessionStore}
    (h : (c.resume serial s).2 = some c') : c'.user = c.user := by
  cases c <;> cases h <;> rfl

/-- One process of the app: who is logged in by the login or logout that began last, and by the one
whose call returned last (null after a logout), and the calls that have not returned. -/
structure Process where
  store : SessionStore := {}
  calls : List TokenCall := []
  begun : Option User := none
  completed : Option User := none
deriving DecidableEq

namespace Process

inductive Event where
  | login (user : User)
  | logout
  | back
  /-- The `i`-th call under way runs up to its next `await`. -/
  | resume (i serial : ℕ)
deriving DecidableEq

/-- The buttons of the login page set `isLoginUsingPhonenumber`. Then the home page is created. -/
def login (user : User) (p : Process) : Process :=
  { p with
    store.session.isLoginUsingPhonenumber := decide (user.method = .phone)
    calls := HomePageController.storeFirebaseToken user :: p.calls
    begun := some user }

def logout (p : Process) : Process :=
  { p with calls := HomePageController.removeFirebaseToken :: p.calls, begun := none }

def resume (i serial : ℕ) (p : Process) : Option Process := do
  let call ← p.calls[i]?
  let (store, rest) := call.resume serial p.store
  some { p with
    store
    calls := rest.toList ++ p.calls.eraseIdx i
    completed := if rest.isNone then call.user else p.completed }

def step (p : Process) : Event → Option Process
  | .login user => some (p.login user)
  | .logout => some p.logout
  | .back => some p
  | .resume i serial => p.resume i serial

def machine : Machine Process Event where
  step := step

theorem resume_eq_some {i serial : ℕ} {p p' : Process} : p.resume i serial = some p' ↔
    ∃ call, p.calls[i]? = some call ∧
      p' = { p with
        store := (call.resume serial p.store).1
        calls := (call.resume serial p.store).2.toList ++ p.calls.eraseIdx i
        completed :=
          if (call.resume serial p.store).2.isNone then call.user else p.completed } := by
  rw [resume, Option.bind_eq_bind, Option.bind_eq_some_iff]
  refine exists_congr fun call => and_congr_right fun _ => ?_
  exact Option.some_inj.trans eq_comm

end Process
end MachineTest
