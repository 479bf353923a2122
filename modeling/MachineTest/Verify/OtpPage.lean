import MachineTest.Pages.OtpPage

/-! # Correcting a phone number

The phase of the page ends with its first press, whatever comes of it. So a page can be used again
after a failure only if there is none: a run keeps the number correctable if and only if its first
press finds a number of length 10 and none of its requests fails. -/

namespace MachineTest.OpenOtpPage

/-- Every request that the page made has failed, if it made any. -/
def NonePending (s : OpenOtpPage) : Prop :=
  ∀ request ∈ s.requests, request.failed = true

/-- Unless a request may still be answered, the next press looks at the number. It requests a
verification or complains about the number, and does not submit a credential. -/
def Correctable (s : OpenOtpPage) : Prop :=
  s.NonePending → (s.page.otpButtonPressed s.verificationId).2 =
    if dartLength s.page.phoneNumber = 10 then .registerUser ("+91" ++ s.page.phoneNumber)
    else .showDialog "Invalid Phone Number" "Please enter a valid phone number"

/-- The event is not a failure: not the first press with a number of another length, and not the
failure of a request. -/
def Succeeds (s : OpenOtpPage) : Event → Prop
  | .otpButtonPressed => s.page.noOtpYet = true → dartLength s.page.phoneNumber = 10
  | .verificationFailed _ | .exception _ => False
  | .editPhoneNumber _ | .editOtp _ | .codeSent _ => True

/-- Before the first press, or after it with a request that has not failed. -/
inductive Unfailed (s : OpenOtpPage) : Prop
  | fresh : s.page.noOtpYet = true → s.requests = [] → Unfailed s
  | waiting {request : PageRequest} : s.page.noOtpYet = false → s.requests = [request] →
    request.failed = false → Unfailed s

theorem Unfailed.noOtpYet {s : OpenOtpPage} (h : s.Unfailed) (hnone : s.NonePending) :
    s.page.noOtpYet = true := by
  cases h with
  | fresh hphase _ => exact hphase
  | waiting _ hrequests hpending =>
    cases hpending.symm.trans (hnone _ (hrequests ▸ List.mem_singleton_self _))

theorem Unfailed.correctable {s : OpenOtpPage} (h : s.Unfailed) : s.Correctable := by
  intro hnone
  rw [OtpPage.otpButtonPressed_of_noOtpYet (h.noOtpYet hnone)]

/-- After the first press a credential is submitted. -/
theorem Correctable.noOtpYet {s : OpenOtpPage} (h : s.Correctable) (hnone : s.NonePending) :
    s.page.noOtpYet = true := by
  have haction := h hnone
  cases hphase : s.page.noOtpYet with
  | true => rfl
  | false =>
    rw [OtpPage.otpButtonPressed_of_not_noOtpYet hphase] at haction
    split at haction <;> cases haction

theorem Unfailed.step {s s' : OpenOtpPage} {e : Event} (h : s.Unfailed) (hsucceeds : s.Succeeds e)
    (hstep : s.Step e s') : s'.Unfailed := by
  cases hstep with
  | editPhoneNumber | editOtp | codeSent _ =>
    cases h with
    | fresh hphase hrequests => exact .fresh hphase hrequests
    | waiting hphase hrequests hpending => exact .waiting hphase hrequests hpending
  | registered hphase _ =>
    cases h with
    | fresh _ hrequests => exact .waiting rfl (congrArg (· ++ _) hrequests) rfl
    | waiting hphase' _ _ => cases hphase.symm.trans hphase'
  | refused hphase hlength => exact (hlength (hsucceeds hphase)).elim
  | submitted _ => exact h
  | failed hevent _ =>
    rcases hevent with rfl | rfl
    · exact hsucceeds.elim
    · exact hsucceeds.elim

/-- A failure leaves the page in its second phase with nothing to wait for. -/
theorem Unfailed.succeeds_of_correctable {s s' : OpenOtpPage} {e : Event} (h : s.Unfailed)
    (hstep : s.Step e s') (h' : s'.Correctable) : s.Succeeds e := by
  cases hstep with
  | editPhoneNumber | editOtp | codeSent _ => trivial
  | registered _ hlength => exact fun _ => hlength
  | refused hphase _ =>
    cases h with
    | fresh _ hrequests =>
      have hnone : NonePending { s with page.noOtpYet := false } := by
        intro request hmem
        cases hrequests ▸ hmem
      cases h'.noOtpYet hnone
    | waiting hphase' _ _ => cases hphase.symm.trans hphase'
  | submitted hphase =>
    intro hphase'
    cases hphase.symm.trans hphase'
  | @failed _ i failing _ hfailing =>
    cases h with
    | fresh _ hrequests =>
      rw [hrequests] at hfailing
      cases hfailing
    | @waiting request hphase hrequests _ =>
      rw [hrequests] at h' hfailing
      obtain ⟨rfl, rfl⟩ : i = 0 ∧ request = failing := by
        simpa [List.getElem?_singleton] using hfailing
      have hnone : NonePending { s with requests := [{ request with failed := true }] } := by
        intro _ hmem
        cases List.mem_singleton.mp hmem
        rfl
      cases hphase.symm.trans (h'.noOtpYet hnone)

/-- **Correcting the number.** In every state of a run on one page the number can be corrected
unless a request may still be answered, if and only if the first press finds a number of length 10
and no request fails. Other pages may have left an id. -/
theorem correctable_iff (verificationId : Option Verification) (events : List Event) :
    machine.AlongStates Correctable { verificationId } events ↔
      machine.AlongSteps Succeeds { verificationId } events :=
  Machine.alongStates_iff (I := Unfailed) (fun _ h => h.correctable)
    (fun _ _ _ h hsucceeds hstep => h.step hsucceeds (step_sound hstep))
    (fun _ _ _ h hstep h' => h.succeeds_of_correctable (step_sound hstep) h') (.fresh rfl rfl)

/-- A number of length 5 is refused. The next press submits a credential without an id, although the
number is right by then. -/
theorem corrected_number_not_verified : ∃ s, machine.run {}
      [.editPhoneNumber "12345", .otpButtonPressed, .editPhoneNumber "1234567890"] = some s ∧
    s.requests = [] ∧ dartLength s.page.phoneNumber = 10 ∧
    (s.page.otpButtonPressed s.verificationId).2 =
      .verificationCompleted { verificationId := none, smsCode := "" } ∧ ¬ s.Correctable := by
  refine ⟨_, rfl, rfl, rfl, rfl, fun h => ?_⟩
  cases h.noOtpYet fun _ hmem => nomatch hmem

end MachineTest.OpenOtpPage
