import MachineTest.Theory.Machine
import MachineTest.Model.SingleTonModel

/-! # The page that verifies a phone number

One button serves both phases of the page: while `noOtpYet` it requests a code for the number, and
afterwards it submits the code. What becomes of a request is decided later, by `codeSent`, by
`verificationFailed` or by an exception of `verifyPhoneNumber`, which `registerUser` does not wait
for. -/

namespace MachineTest

/-- `String.length`, which counts the UTF-16 code units. -/
def dartLength (str : String) : ℕ :=
  (str.toList.map fun c => if c.toNat < 0x10000 then 1 else 2).sum

/-- A call of `verifyPhoneNumber`. The id that its `codeSent` brings stands for the call itself. -/
structure Verification where
  mobile : String
  serial : ℕ
deriving DecidableEq

/-- `PhoneAuthProvider.credential`. The id is null if no code was ever sent. -/
structure PhoneAuthCredential where
  verificationId : Option Verification
  smsCode : String
deriving DecidableEq

/-- What a press of the button starts. -/
inductive OtpAction where
  /-- `service.registerUser(phoneNumber)` -/
  | registerUser (mobile : String)
  /-- An `AlertDialog` on top of the page. -/
  | showDialog (title content : String)
  /-- `service.verificationCompleted(credential)`, and the home page replaces the page on top. -/
  | verificationCompleted (credential : PhoneAuthCredential)
deriving DecidableEq

/-- The phase of the page and the texts of its two fields. -/
structure OtpPage where
  noOtpYet : Bool := true
  phoneNumber : String := ""
  otp : String := ""
deriving DecidableEq

namespace OtpPage

/-- `otpButtonPressed`, which reads `Singleton.verificationId`. The phase ends before the number is
looked at. -/
def otpButtonPressed (verificationId : Option Verification) (page : OtpPage) :
    OtpPage × OtpAction :=
  if page.noOtpYet then
    ({ page with noOtpYet := false },
      if dartLength page.phoneNumber = 10 then .registerUser ("+91" ++ page.phoneNumber)
      else .showDialog "Invalid Phone Number" "Please enter a valid phone number")
  else (page, .verificationCompleted { verificationId, smsCode := page.otp })

theorem otpButtonPressed_of_noOtpYet {page : OtpPage} (h : page.noOtpYet = true)
    (verificationId : Option Verification) : page.otpButtonPressed verificationId =
      ({ page with noOtpYet := false },
        if dartLength page.phoneNumber = 10 then .registerUser ("+91" ++ page.phoneNumber)
        else .showDialog "Invalid Phone Number" "Please enter a valid phone number") :=
  if_pos h

theorem otpButtonPressed_of_not_noOtpYet {page : OtpPage} (h : page.noOtpYet = false)
    (verificationId : Option Verification) : page.otpButtonPressed verificationId =
      (page, .verificationCompleted { verificationId, smsCode := page.otp }) :=
  if_neg (Bool.eq_false_iff.mp h)

end OtpPage

/-! ## One page and its requests -/

/-- A request of the page. It has failed once `verificationFailed` was called or
`verifyPhoneNumber` threw. -/
structure PageRequest where
  verification : Verification
  failed : Bool := false
deriving DecidableEq

/-- A page from its creation on, with its requests in their order. -/
structure OpenOtpPage where
  page : OtpPage := {}
  requests : List PageRequest := []
  verificationId : Option Verification := none
deriving DecidableEq

namespace OpenOtpPage

inductive Event where
  /-- The text that the field holds after an edit. -/
  | editPhoneNumber (text : String)
  | editOtp (text : String)
  | otpButtonPressed
  /-- The outcomes of the `i`-th request. -/
  | codeSent (i : ℕ)
  | verificationFailed (i : ℕ)
  | exception (i : ℕ)
deriving DecidableEq

/-- `registerUser` -/
def registerUser (mobile : String) (s : OpenOtpPage) : OpenOtpPage :=
  { s with requests := s.requests ++ [{ verification := ⟨mobile, s.requests.length⟩ }] }

def otpButtonPressed (s : OpenOtpPage) : OpenOtpPage :=
  let (page, action) := s.page.otpButtonPressed s.verificationId
  match action with
  | .registerUser mobile => { s with page }.registerUser mobile
  | .showDialog _ _ | .verificationCompleted _ => { s with page }

/-- The request has failed. Neither failure changes the page. -/
def fail (i : ℕ) (s : OpenOtpPage) : Option OpenOtpPage := do
  let request ← s.requests[i]?
  some { s with requests := s.requests.set i { request with failed := true } }

def step (s : OpenOtpPage) : Event → Option OpenOtpPage
  | .editPhoneNumber text => some { s with page.phoneNumber := text }
  | .editOtp text => some { s with page.otp := text }
  | .otpButtonPressed => some s.otpButtonPressed
  | .codeSent i => s.requests[i]?.map fun request =>
      { s with verificationId := some request.verification }
  | .verificationFailed i | .exception i => s.fail i

def machine : Machine OpenOtpPage Event where
  step := step

theorem fail_eq_some {i : ℕ} {s s' : OpenOtpPage} : s.fail i = some s' ↔
    ∃ request, s.requests[i]? = some request ∧
      s' = { s with requests := s.requests.set i { request with failed := true } } := by
  rw [fail, Option.bind_eq_bind, Option.bind_eq_some_iff]
  exact exists_congr fun request => and_congr_right fun _ => Option.some_inj.trans eq_comm

/-- The steps of a page, by what they do. -/
inductive Step (s : OpenOtpPage) : Event → OpenOtpPage → Prop
  | editPhoneNumber {text : String} :
    Step s (.editPhoneNumber text) { s with page.phoneNumber := text }
  | editOtp {text : String} : Step s (.editOtp text) { s with page.otp := text }
  | registered : s.page.noOtpYet = true → dartLength s.page.phoneNumber = 10 →
    Step s .otpButtonPressed
      ({ s with page.noOtpYet := false }.registerUser ("+91" ++ s.page.phoneNumber))
  | refused : s.page.noOtpYet = true → dartLength s.page.phoneNumber ≠ 10 →
    Step s .otpButtonPressed { s with page.noOtpYet := false }
  | submitted : s.page.noOtpYet = false → Step s .otpButtonPressed s
  | codeSent {i : ℕ} {request : PageRequest} : s.requests[i]? = some request →
    Step s (.codeSent i) { s with verificationId := some request.verification }
  | failed {e : Event} {i : ℕ} {request : PageRequest} :
    e = .verificationFailed i ∨ e = .exception i → s.requests[i]? = some request →
    Step s e { s with requests := s.requests.set i { request with failed := true } }

theorem step_sound {s s' : OpenOtpPage} {e : Event} (h : machine.step s e = some s') :
    s.Step e s' := by
  cases e with
  | editPhoneNumber text => cases h; exact .editPhoneNumber
  | editOtp text => cases h; exact .editOtp
  | otpButtonPressed =>
    obtain rfl : s.otpButtonPressed = s' := Option.some.inj h
    cases hphase : s.page.noOtpYet with
    | true =>
      rw [otpButtonPressed, OtpPage.otpButtonPressed_of_noOtpYet hphase]
      by_cases hlength : dartLength s.page.phoneNumber = 10
      · rw [if_pos hlength]
        exact .registered hphase hlength
      · rw [if_neg hlength]
        exact .refused hphase hlength
    | false =>
      rw [otpButtonPressed, OtpPage.otpButtonPressed_of_not_noOtpYet hphase]
      exact .submitted hphase
  | codeSent i =>
    obtain ⟨request, hrequest, rfl⟩ := Option.map_eq_some_iff.mp h
    exact .codeSent hrequest
  | verificationFailed i =>
    obtain ⟨request, hrequest, rfl⟩ := fail_eq_some.mp h
    exact .failed (.inl rfl) hrequest
  | exception i =>
    obtain ⟨request, hrequest, rfl⟩ := fail_eq_some.mp h
    exact .failed (.inr rfl) hrequest

end OpenOtpPage
end MachineTest
