import MachineTest.Pages.MockAPP

/-! # The pages that wait

`googleButtonAction`, `otpButtonPressed` and `removeFirebaseToken` navigate after an `await`, with
the `context` of the page whose button was tapped. The page of a route that was popped or replaced
is there until the transition of the route has ended. After that `Navigator.of(context)` throws, and
the stack stays as it is. -/

namespace MachineTest

/-- The pages of the routes, numbered in the order of their creation, and those that wait. -/
structure Contexts where
  /-- The pages of the routes on the stack, the top one first. -/
  pages : List ℕ
  /-- The pages of routes that left the stack and whose transitions have not ended. -/
  leaving : List ℕ := []
  /-- How many pages were created. -/
  created : ℕ
  /-- The sign-ins under way, each with the page that waits for it. The first one of a method is
  answered next. -/
  signIns : List (LoginMethod × ℕ) := []
  /-- The page that started each token call. -/
  calls : List ℕ
deriving DecidableEq

namespace Contexts

/-- The home page or the login page of the start. -/
def start (app : MockAPP) : Contexts where
  pages := [0]
  created := 1
  calls := app.calls.map fun _ => 0

def mounted (c : Contexts) (page : ℕ) : Bool := decide (page ∈ c.pages ∨ page ∈ c.leaving)

def push (c : Contexts) : Contexts :=
  { c with pages := c.created :: c.pages, created := c.created + 1 }

def pop (c : Contexts) : Contexts :=
  { c with pages := c.pages.tail, leaving := c.pages.head?.toList ++ c.leaving }

def pushReplacement (c : Contexts) : Contexts := c.pop.push

/-- The page on top waits for a sign-in. -/
def signIn (method : LoginMethod) (c : Contexts) : Contexts :=
  { c with signIns := c.pages.head?.toList.map (method, ·) ++ c.signIns }

/-- The page that waits for the sign-in of the method that is answered next. -/
def waits (method : LoginMethod) (c : Contexts) : Option ℕ :=
  (c.signIns.find? fun signIn => signIn.1 = method).map Prod.snd

def signInEnds (method : LoginMethod) (c : Contexts) : Contexts :=
  { c with signIns := c.signIns.eraseP fun signIn => signIn.1 = method }

/-- The page on top starts a token call. -/
def call (c : Contexts) : Contexts := { c with calls := c.pages.head?.toList ++ c.calls }

/-- Whether an event that ends an `await` agrees with the pages: what navigates, and what throws
instead, depends on whether the page that waits is still there. -/
def allows (app : MockAPP) (c : Contexts) : MockAPP.Event → Bool
  | .signedIn user mounted => (c.waits user.method).any fun page => c.mounted page == mounted
  | .resume i _ => app.calls[i]? ≠ some .clearUserToken || (c.calls[i]?).any c.mounted
  | .throws i => app.calls[i]? ≠ some .clearUserToken || !(c.calls[i]?).any c.mounted
  | _ => true

/-- The pages after an event of the app. -/
def after (app : MockAPP) (c : Contexts) : MockAPP.Event → Contexts
  | .googleButtonAction => c.signIn .google
  | .phoneButtonAction | .badgeOntap | .placeOrder => c.push
  | .otpButtonPressed =>
    match app.routes with
    | .otpPage page _ :: _ =>
      match (page.otpButtonPressed app.verificationId).2 with
      | .registerUser _ => c
      | .showDialog _ _ => c.push
      | .verificationCompleted _ => c.signIn .phone
    | _ => c
  | .signedIn user mounted =>
    let c := c.signInEnds user.method
    if mounted then c.pushReplacement.call else c
  | .signInFailed method => c.signInEnds method
  | .ok => if app.routes.head? = some .orderPlaced then c.pop.pop else c.pop
  | .back => c.pop
  | .logout => c.call
  | .resume i serial =>
    let rest := (app.calls[i]?).bind fun call => (call.resume serial app.store).2
    let calls := (rest.bind fun _ => c.calls[i]?).toList ++ c.calls.eraseIdx i
    if app.calls[i]? = some .clearUserToken then { c.pushReplacement with calls }
    else { c with calls }
  | .throws i => { c with calls := c.calls.eraseIdx i }
  | .editPhoneNumber _ | .editOtp _ | .codeSent _ | .verificationFailed _ => c

/-- The `i`-th sign-in is answered before the others. -/
def answersNext (i : ℕ) (c : Contexts) : Option Contexts :=
  (c.signIns[i]?).map fun signIn => { c with signIns := signIn :: c.signIns.eraseIdx i }

/-- The transition of a route that left has ended. -/
def dispose (page : ℕ) (c : Contexts) : Option Contexts :=
  if page ∈ c.leaving then some { c with leaving := c.leaving.erase page } else none

end Contexts
end MachineTest
