import MachineTest.Pages.Main
import MachineTest.Pages.OtpPage

/-! # The routes of the app

The navigation stack, with the logins and logouts that move it. `push` adds a route on top and
`pop` removes it. `pushReplacement` replaces the route on top, which need not be the route whose
button started the call: sign-ins and the deletes of a logout take any time. A call whose own page
is gone throws where it navigates, so an event says which of the two happens. Here every event may
come; which pages are still there is kept by `Contexts`, for the whole app. -/

namespace MachineTest

/-- A route, a dialog included. An `OtpPage` is kept with the request that it made. -/
inductive Route where
  | loginPage
  | otpPage (page : OtpPage) (request : Option Verification)
  /-- "Invalid Phone Number" -/
  | invalidNumber
  | homePage
  | checkoutPage
  /-- "Order Placed" -/
  | orderPlaced
deriving DecidableEq

/-- The running app. Requests, sign-ins and token calls are under way until their answer. -/
structure MockAPP where
  /-- The route on top first. -/
  routes : List Route
  store : SessionStore := {}
  /-- `Singleton.verificationId` -/
  verificationId : Option Verification := none
  /-- `Singleton.credential` -/
  credential : Option PhoneAuthCredential := none
  currentUser : Option User := none
  requests : List Verification := []
  /-- How many requests were made. -/
  requested : ℕ := 0
  signIns : List LoginMethod := []
  calls : List TokenCall := []
  /-- A logout has completed, and no login after it. -/
  loggedOut : Bool := false
deriving DecidableEq

namespace MockAPP

inductive Event where
  | googleButtonAction
  | phoneButtonAction
  | editPhoneNumber (text : String)
  | editOtp (text : String)
  | otpButtonPressed
  | codeSent (request : Verification)
  /-- `verificationFailed`, or an exception of `verifyPhoneNumber`. -/
  | verificationFailed (request : Verification)
  /-- A sign-in succeeds. If the page that waits for it is mounted, the home page is created. -/
  | signedIn (user : User) (mounted : Bool)
  /-- A sign-in fails or is cancelled. -/
  | signInFailed (method : LoginMethod)
  | badgeOntap
  | placeOrder
  /-- The button of the dialog on top. -/
  | ok
  /-- The back button, of the app bar or of the phone. -/
  | back
  | logout
  /-- The `i`-th token call runs up to its next `await`. -/
  | resume (i serial : ℕ)
  /-- The `i`-th token call ends with an exception. -/
  | throws (i : ℕ)
deriving DecidableEq

def push (route : Route) (p : MockAPP) : MockAPP :=
  { p with routes := route :: p.routes }

def pop (p : MockAPP) : MockAPP :=
  { p with routes := p.routes.tail }

def pushReplacement (route : Route) (p : MockAPP) : MockAPP :=
  { p with routes := route :: p.routes.tail }

/-- `initState` of the home page. Without a user the call throws before it does anything. -/
def initHomePage (p : MockAPP) : MockAPP :=
  { p with calls := (p.currentUser.map HomePageController.storeFirebaseToken).toList ++ p.calls }

/-- `main`, with what survives the process. -/
def runApp (storage : FlutterSecureStorage) (currentUser : Option User) : MockAPP :=
  let (isLoggedIn, store) := checkIfLoggedIn { storage }
  if isLoggedIn then initHomePage { routes := [.homePage], store, currentUser }
  else { routes := [.loginPage], store, currentUser }

theorem runApp_cases {P : MockAPP → Prop} {storage : FlutterSecureStorage}
    {currentUser : Option User}
    (home : ∀ store, P (initHomePage { routes := [.homePage], store, currentUser }))
    (login : ∀ store, P { routes := [.loginPage], store, currentUser }) :
    P (runApp storage currentUser) := by
  rw [runApp]
  dsimp only
  split
  · exact home _
  · exact login _

/-- `googleButtonAction` up to the end of the sign-in. -/
def googleButtonAction (p : MockAPP) : MockAPP :=
  { p with
    store.session.isLoginUsingPhonenumber := false
    signIns := .google :: p.signIns }

def phoneButtonAction (p : MockAPP) : MockAPP :=
  { p with store.session.isLoginUsingPhonenumber := true }.push (.otpPage {} none)

/-- `otpButtonPressed` of the page on top, up to its first `await`. -/
def otpButtonPressed (page : OtpPage) (request : Option Verification) (rest : List Route)
    (p : MockAPP) : MockAPP :=
  let (page, action) := page.otpButtonPressed p.verificationId
  match action with
  | .registerUser mobile =>
    let verification : Verification := ⟨mobile, p.requested⟩
    { p with
      routes := .otpPage page (some verification) :: rest
      requests := verification :: p.requests
      requested := p.requested + 1 }
  | .showDialog _ _ => { p with routes := .otpPage page request :: rest }.push .invalidNumber
  | .verificationCompleted credential =>
    { p with
      routes := .otpPage page request :: rest
      credential := some credential
      signIns := .phone :: p.signIns }

/-- What follows the `await` of a sign-in, in `googleButtonAction` and in `otpButtonPressed`. -/
def signedIn (user : User) (mounted : Bool) (p : MockAPP) : MockAPP :=
  let p := { p with
    currentUser := some user
    signIns := p.signIns.erase user.method
    loggedOut := false }
  if mounted then (p.pushReplacement .homePage).initHomePage else p

def logout (p : MockAPP) : MockAPP :=
  { p with currentUser := none, calls := HomePageController.removeFirebaseToken :: p.calls }

/-- The last step of `removeFirebaseToken` puts the login page in the place of the route on top. -/
def resume (i serial : ℕ) (p : MockAPP) : Option MockAPP := do
  let call ← p.calls[i]?
  let (store, rest) := call.resume serial p.store
  let p := { p with store, calls := rest.toList ++ p.calls.eraseIdx i }
  some (if call = .clearUserToken then { p.pushReplacement .loginPage with loggedOut := true }
    else p)

/-- An exception leaves a token call where it waits, or where `removeFirebaseToken` navigates. -/
def throws (i : ℕ) (p : MockAPP) : Option MockAPP := do
  let call ← p.calls[i]?
  let store := if call = .clearUserToken then (call.resume 0 p.store).1 else p.store
  some { p with store, calls := p.calls.eraseIdx i }

def step (p : MockAPP) (e : Event) : Option MockAPP :=
  match e, p.routes with
  | .googleButtonAction, .loginPage :: _ => some p.googleButtonAction
  | .phoneButtonAction, .loginPage :: _ => some p.phoneButtonAction
  | .editPhoneNumber text, .otpPage page request :: rest =>
    some { p with routes := .otpPage { page with phoneNumber := text } request :: rest }
  | .editOtp text, .otpPage page request :: rest =>
    some { p with routes := .otpPage { page with otp := text } request :: rest }
  | .otpButtonPressed, .otpPage page request :: rest => some (p.otpButtonPressed page request rest)
  | .codeSent request, _ =>
    if request ∈ p.requests then
      some { p with
        verificationId := some request
        requests := p.requests.erase request }
    else none
  | .verificationFailed request, _ =>
    if request ∈ p.requests then some { p with requests := p.requests.erase request } else none
  | .signedIn user mounted, _ =>
    if user.method ∈ p.signIns then some (p.signedIn user mounted) else none
  | .signInFailed method, _ =>
    if method ∈ p.signIns then some { p with signIns := p.signIns.erase method } else none
  | .badgeOntap, .homePage :: _ => some (p.push .checkoutPage)
  | .placeOrder, .checkoutPage :: _ => some (p.push .orderPlaced)
  | .ok, .invalidNumber :: _ => some p.pop
  | .ok, .orderPlaced :: _ => some p.pop.pop
  | .back, _ :: _ :: _ => some p.pop
  | .logout, .homePage :: _ => some p.logout
  | .resume i serial, _ => p.resume i serial
  | .throws i, _ => p.throws i
  | _, _ => none

def machine : Machine MockAPP Event where
  step := step

/-! ## What an event does -/

theorem resume_eq_some {i serial : ℕ} {p p' : MockAPP} : p.resume i serial = some p' ↔
    ∃ call, p.calls[i]? = some call ∧
      p' = if call = .clearUserToken then
          { p with
            routes := .loginPage :: p.routes.tail
            store := (call.resume serial p.store).1
            calls := (call.resume serial p.store).2.toList ++ p.calls.eraseIdx i
            loggedOut := true }
        else { p with
          store := (call.resume serial p.store).1
          calls := (call.resume serial p.store).2.toList ++ p.calls.eraseIdx i } := by
  rw [resume, Option.bind_eq_bind, Option.bind_eq_some_iff]
  exact exists_congr fun call => and_congr_right fun _ => Option.some_inj.trans eq_comm

theorem throws_eq_some {i : ℕ} {p p' : MockAPP} : p.throws i = some p' ↔
    ∃ call, p.calls[i]? = some call ∧
      p' = { p with
        store := if call = .clearUserToken then (call.resume 0 p.store).1 else p.store
        calls := p.calls.eraseIdx i } := by
  rw [throws, Option.bind_eq_bind, Option.bind_eq_some_iff]
  exact exists_congr fun call => and_congr_right fun _ => Option.some_inj.trans eq_comm

/-- The steps of the app, by what they do. -/
inductive Step (p : MockAPP) : Event → MockAPP → Prop
  | googleButtonAction {rest : List Route} : p.routes = .loginPage :: rest →
    Step p .googleButtonAction p.googleButtonAction
  | phoneButtonAction {rest : List Route} : p.routes = .loginPage :: rest →
    Step p .phoneButtonAction p.phoneButtonAction
  | editPhoneNumber {text : String} {page : OtpPage} {request : Option Verification}
    {rest : List Route} : p.routes = .otpPage page request :: rest →
    Step p (.editPhoneNumber text)
      { p with routes := .otpPage { page with phoneNumber := text } request :: rest }
  | editOtp {text : String} {page : OtpPage} {request : Option Verification}
    {rest : List Route} : p.routes = .otpPage page request :: rest →
    Step p (.editOtp text) { p with routes := .otpPage { page with otp := text } request :: rest }
  | registered {page : OtpPage} {request : Option Verification} {rest : List Route} :
    p.routes = .otpPage page request :: rest → page.noOtpYet = true →
    dartLength page.phoneNumber = 10 → Step p .otpButtonPressed
      { p with
        routes := .otpPage { page with noOtpYet := false }
          (some ⟨"+91" ++ page.phoneNumber, p.requested⟩) :: rest
        requests := ⟨"+91" ++ page.phoneNumber, p.requested⟩ :: p.requests
        requested := p.requested + 1 }
  | refused {page : OtpPage} {request : Option Verification} {rest : List Route} :
    p.routes = .otpPage page request :: rest → page.noOtpYet = true →
    dartLength page.phoneNumber ≠ 10 → Step p .otpButtonPressed
      { p with routes :=
          .invalidNumber :: .otpPage { page with noOtpYet := false } request :: rest }
  | submitted {page : OtpPage} {request : Option Verification} {rest : List Route} :
    p.routes = .otpPage page request :: rest → page.noOtpYet = false → Step p .otpButtonPressed
      { p with
        credential := some { verificationId := p.verificationId, smsCode := page.otp }
        signIns := .phone :: p.signIns }
  | codeSent {request : Verification} : request ∈ p.requests → Step p (.codeSent request)
      { p with verificationId := some request, requests := p.requests.erase request }
  | verificationFailed {request : Verification} : request ∈ p.requests →
    Step p (.verificationFailed request) { p with requests := p.requests.erase request }
  | signedIn {user : User} {mounted : Bool} : user.method ∈ p.signIns →
    Step p (.signedIn user mounted) (p.signedIn user mounted)
  | signInFailed {method : LoginMethod} : method ∈ p.signIns →
    Step p (.signInFailed method) { p with signIns := p.signIns.erase method }
  | badgeOntap {rest : List Route} : p.routes = .homePage :: rest →
    Step p .badgeOntap (p.push .checkoutPage)
  | placeOrder {rest : List Route} : p.routes = .checkoutPage :: rest →
    Step p .placeOrder (p.push .orderPlaced)
  | okInvalidNumber {rest : List Route} : p.routes = .invalidNumber :: rest →
    Step p .ok p.pop
  | okOrderPlaced {rest : List Route} : p.routes = .orderPlaced :: rest →
    Step p .ok p.pop.pop
  | back {top below : Route} {rest : List Route} : p.routes = top :: below :: rest →
    Step p .back p.pop
  | logout {rest : List Route} : p.routes = .homePage :: rest → Step p .logout p.logout
  | resumed {i serial : ℕ} {call : TokenCall} : p.calls[i]? = some call →
    call ≠ .clearUserToken → Step p (.resume i serial)
      { p with
        store := (call.resume serial p.store).1
        calls := (call.resume serial p.store).2.toList ++ p.calls.eraseIdx i }
  | cleared {i serial : ℕ} : p.calls[i]? = some .clearUserToken → Step p (.resume i serial)
      { p with
        routes := .loginPage :: p.routes.tail
        store.session.userToken := none
        calls := p.calls.eraseIdx i
        loggedOut := true }
  | threw {i : ℕ} {call : TokenCall} : p.calls[i]? = some call → Step p (.throws i)
      { p with
        store := if call = .clearUserToken then (call.resume 0 p.store).1 else p.store
        calls := p.calls.eraseIdx i }

theorem otpButtonPressed_sound {p : MockAPP} {page : OtpPage} {request : Option Verification}
    {rest : List Route} (hroutes : p.routes = .otpPage page request :: rest) :
    p.Step .otpButtonPressed (p.otpButtonPressed page request rest) := by
  cases hphase : page.noOtpYet with
  | true =>
    rw [otpButtonPressed, OtpPage.otpButtonPressed_of_noOtpYet hphase]
    by_cases hlength : dartLength page.phoneNumber = 10
    · rw [if_pos hlength]
      exact .registered hroutes hphase hlength
    · rw [if_neg hlength]
      exact .refused hroutes hphase hlength
  | false =>
    rw [otpButtonPressed, OtpPage.otpButtonPressed_of_not_noOtpYet hphase]
    dsimp only
    rw [← hroutes]
    exact .submitted hroutes hphase

theorem step_sound {p p' : MockAPP} {e : Event} (h : machine.step p e = some p') :
    p.Step e p' := by
  change p.step e = some p' at h
  unfold step at h
  split at h
  · cases h; exact .googleButtonAction ‹_›
  · cases h; exact .phoneButtonAction ‹_›
  · cases h; exact .editPhoneNumber ‹_›
  · cases h; exact .editOtp ‹_›
  · cases h; exact otpButtonPressed_sound ‹_›
  · obtain ⟨hmem, h⟩ := Option.ite_none_right_eq_some.mp h
    cases h
    exact .codeSent hmem
  · obtain ⟨hmem, h⟩ := Option.ite_none_right_eq_some.mp h
    cases h
    exact .verificationFailed hmem
  · obtain ⟨hmem, h⟩ := Option.ite_none_right_eq_some.mp h
    cases h
    exact .signedIn hmem
  · obtain ⟨hmem, h⟩ := Option.ite_none_right_eq_some.mp h
    cases h
    exact .signInFailed hmem
  · cases h; exact .badgeOntap ‹_›
  · cases h; exact .placeOrder ‹_›
  · cases h; exact .okInvalidNumber ‹_›
  · cases h; exact .okOrderPlaced ‹_›
  · cases h; exact .back ‹_›
  · cases h; exact .logout ‹_›
  · obtain ⟨call, hcall, rfl⟩ := resume_eq_some.mp h
    by_cases hclear : call = .clearUserToken
    · cases hclear
      exact .cleared hcall
    · rw [if_neg hclear]
      exact .resumed hcall hclear
  · obtain ⟨call, hcall, rfl⟩ := throws_eq_some.mp h
    exact .threw hcall
  · cases h

theorem step_complete {p p' : MockAPP} {e : Event} (h : p.Step e p') :
    machine.step p e = some p' := by
  change p.step e = some p'
  cases h with
  | googleButtonAction hroutes | phoneButtonAction hroutes | editPhoneNumber hroutes
  | editOtp hroutes | badgeOntap hroutes | placeOrder hroutes | okInvalidNumber hroutes
  | okOrderPlaced hroutes | back hroutes | logout hroutes =>
    unfold step
    rw [hroutes]
  | registered hroutes hphase hlength =>
    unfold step
    rw [hroutes]
    dsimp only
    rw [otpButtonPressed, OtpPage.otpButtonPressed_of_noOtpYet hphase, if_pos hlength]
  | refused hroutes hphase hlength =>
    unfold step
    rw [hroutes]
    dsimp only
    rw [otpButtonPressed, OtpPage.otpButtonPressed_of_noOtpYet hphase, if_neg hlength]
    rfl
  | submitted hroutes hphase =>
    unfold step
    rw [hroutes]
    dsimp only
    rw [otpButtonPressed, OtpPage.otpButtonPressed_of_not_noOtpYet hphase]
  | codeSent hmem | verificationFailed hmem | signedIn hmem | signInFailed hmem =>
    exact if_pos hmem
  | @resumed i serial call hcall hclear =>
    refine resume_eq_some.mpr ⟨call, hcall, ?_⟩
    rw [if_neg hclear]
  | cleared hcall => exact resume_eq_some.mpr ⟨_, hcall, rfl⟩
  | threw hcall => exact throws_eq_some.mpr ⟨_, hcall, rfl⟩

/-! ## The automatic retrieval of a code -/

/-- `verificationCompleted`, as the callback of a request whose code the phone reads by itself. No
page waits for the sign-in. -/
def verificationCompleted (user : User) (p : MockAPP) : Option MockAPP :=
  if p.requested ≠ 0 ∧ user.method = .phone then some { p with currentUser := some user } else none

theorem verificationCompleted_eq_some {user : User} {p p' : MockAPP} :
    p.verificationCompleted user = some p' ↔
      p.requested ≠ 0 ∧ user.method = .phone ∧ { p with currentUser := some user } = p' := by
  rw [verificationCompleted, Option.ite_none_right_eq_some, and_assoc, Option.some_inj]

/-! ## One process after another -/

/-- What happens to the app from its installation on. -/
inductive Life where
  | event (e : Event)
  | verificationCompleted (user : User)
  /-- The process is killed and the app started again. -/
  | restart
deriving DecidableEq

/-- The storage and Firebase's current user survive the process. -/
def live (p : MockAPP) : Life → Option MockAPP
  | .event e => p.step e
  | .verificationCompleted user => p.verificationCompleted user
  | .restart => some (runApp p.store.storage p.currentUser)

def lives : Machine MockAPP Life where
  step := live

end MockAPP
end MachineTest
