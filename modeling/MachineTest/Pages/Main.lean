import MachineTest.Pages.HomePageController
import MachineTest.Theory.Machine

/-! # The start of the app

What survives the process is Firebase's current user and the secure storage. `main` reads the
storage and opens the home page or the login page. The calls of the home page run one at a time
here, but the process may be killed between any two of their steps. -/

namespace MachineTest

/-- `checkIfLoggedIn`, from the storage to the singleton. -/
def checkIfLoggedIn (s : SessionStore) : Bool × SessionStore :=
  let token := s.storage.userToken
  let boolValue := s.storage.isLoginUsingPhonenumber
  if token ≠ none then
    (true, { s with session := {
      userToken := token
      isLoginUsingPhonenumber := if boolValue = some "true" then true else false } })
  else (false, s)

/-- Where the process is. -/
inductive Phase where
  /-- `checkIfLoggedIn` has returned. -/
  | started (isLoggedIn : Bool)
  | loginPage
  | homePage
  /-- On the home page, with the rest of its `storeFirebaseToken`. -/
  | storing (call : TokenCall)
  /-- After the tap on "Log out", with the rest of its `removeFirebaseToken`. -/
  | removing (call : TokenCall)
deriving DecidableEq

structure Device where
  store : SessionStore := {}
  currentUser : Option User := none
  phase : Phase := .started false
deriving DecidableEq

namespace Device

inductive Event where
  | runApp
  | login (user : User)
  | logout
  /-- The call under way runs up to its next `await`. -/
  | resume (serial : ℕ)
  /-- The process is killed and the app started again. -/
  | restart
deriving DecidableEq

/-- `initState` of the home page. Without a user the call throws before it does anything. -/
def createHomePage (d : Device) : Device :=
  match d.currentUser with
  | some user => { d with phase := .storing (HomePageController.storeFirebaseToken user) }
  | none => { d with phase := .homePage }

/-- The button of the login page sets `isLoginUsingPhonenumber`, Firebase signs the user in, and
the home page is created. -/
def login (user : User) (d : Device) : Device :=
  createHomePage { d with
    store.session.isLoginUsingPhonenumber := decide (user.method = .phone)
    currentUser := some user }

def logout (d : Device) : Device :=
  { d with currentUser := none, phase := .removing HomePageController.removeFirebaseToken }

def restart (d : Device) : Device :=
  let (isLoggedIn, store) := checkIfLoggedIn { d.store with session := {} }
  { d with store, phase := .started isLoggedIn }

def step (d : Device) : Event → Option Device
  | .runApp =>
    match d.phase with
    | .started true => some d.createHomePage
    | .started false => some { d with phase := .loginPage }
    | _ => none
  | .login user =>
    match d.phase with
    | .loginPage | .homePage => some (d.login user)
    | _ => none
  | .logout =>
    match d.phase with
    | .homePage => some d.logout
    | _ => none
  | .resume serial =>
    match d.phase with
    | .storing call =>
      let (store, rest) := call.resume serial d.store
      some { d with store, phase := rest.elim .homePage .storing }
    | .removing call =>
      let (store, rest) := call.resume serial d.store
      some { d with store, phase := rest.elim .loginPage .removing }
    | _ => none
  | .restart => some d.restart

def machine : Machine Device Event where
  step := step

end Device
end MachineTest
