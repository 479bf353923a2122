import MachineTest.Pages.MockAPP

/-! # Codes and login methods

Two globals carry a fact about a login from the place that knows it to the place that uses it:
`verificationId` from the callback of a request to the page that submits the code, and
`isLoginUsingPhonenumber` from the button of the login page to the home page and its
`storeFirebaseToken`. Each holds what was written last. So the fact is right if and only if the last
write was for the login that uses it. -/

namespace MachineTest.MockAPP

/-! ## The id of a code -/

/-- The request whose id the event brings. -/
def Event.sent : Event → Option Verification
  | .codeSent request => some request
  | _ => none

theorem verificationId_step {p p' : MockAPP} {e : Event} (h : machine.step p e = some p') :
    p'.verificationId = e.sent.or p.verificationId := by
  cases step_sound h with
  | @signedIn _ mounted _ => cases mounted <;> rfl
  | _ => rfl

/-- The request of the `codeSent` that arrived last. -/
def lastSent (past : List Event) : Option Verification :=
  (past.filterMap Event.sent).getLast?

theorem verificationId_runApp (storage : FlutterSecureStorage) (currentUser : Option User) :
    (runApp storage currentUser).verificationId = none :=
  runApp_cases (P := fun p => p.verificationId = none) (fun _ => rfl) fun _ => rfl

theorem verificationId_run {storage : FlutterSecureStorage} {currentUser : Option User}
    {past : List Event} {p : MockAPP} (h : machine.run (runApp storage currentUser) past = some p) :
    p.verificationId = lastSent past := by
  have hlast := Machine.run_register (f := verificationId) (fun _ _ _ => verificationId_step) h
  rwa [verificationId_runApp, Option.or_none] at hlast

theorem codeSent_of_lastSent {past : List Event} {request : Verification}
    (h : lastSent past = some request) : .codeSent request ∈ past := by
  obtain ⟨e, hmem, hsent⟩ := List.mem_filterMap.mp (List.mem_of_getLast? h)
  cases e with
  | codeSent r =>
    cases hsent
    exact hmem
  | _ => cases hsent

/-- The requests under way are distinct, and numbered in the order in which they were made. -/
structure Numbered (p : MockAPP) : Prop where
  nodup : p.requests.Nodup
  serial_lt : ∀ request ∈ p.requests, request.serial < p.requested

theorem Numbered.erase {p : MockAPP} (h : p.Numbered) (request : Verification) :
    Numbered { p with requests := p.requests.erase request } where
  nodup := h.nodup.erase request
  serial_lt r hr := h.serial_lt r (List.mem_of_mem_erase hr)

theorem Numbered.step {p p' : MockAPP} {e : Event} (h : p.Numbered) (hstep : p.Step e p') :
    p'.Numbered := by
  cases hstep with
  | registered _ _ _ =>
    constructor
    · refine List.nodup_cons.mpr ⟨fun hmem => ?_, h.nodup⟩
      exact lt_irrefl _ (h.serial_lt _ hmem)
    · intro r hr
      rcases List.mem_cons.mp hr with rfl | hr
      · exact Nat.lt_succ_self _
      · exact Nat.lt_succ_of_lt (h.serial_lt r hr)
  | codeSent _ | verificationFailed _ => exact ⟨(h.erase _).nodup, (h.erase _).serial_lt⟩
  | @signedIn _ mounted _ => cases mounted <;> exact ⟨h.nodup, h.serial_lt⟩
  | _ => exact ⟨h.nodup, h.serial_lt⟩

/-- A request that may still bring a code is under way or has yet to be made. -/
def MayBring (p : MockAPP) (request : Verification) : Prop :=
  request ∈ p.requests ∨ p.requested ≤ request.serial

theorem MayBring.of_step {p p' : MockAPP} {e : Event} {request : Verification}
    (hstep : p.Step e p') (h : p'.MayBring request) : p.MayBring request := by
  cases hstep with
  | registered _ _ _ =>
    rcases h with hmem | hle
    · rcases List.mem_cons.mp hmem with rfl | hmem
      · exact .inr le_rfl
      · exact .inl hmem
    · exact .inr (Nat.le_of_succ_le hle)
  | codeSent _ | verificationFailed _ => exact h.imp_left List.mem_of_mem_erase
  | @signedIn _ mounted _ => cases mounted <;> exact h
  | _ => exact h

/-- Every request brings at most one code, under an id of its own. -/
theorem Numbered.nodup_sent {p p' : MockAPP} {past : List Event} (h : p.Numbered)
    (hrun : machine.run p past = some p') : (past.filterMap Event.sent).Nodup ∧
      ∀ request ∈ past.filterMap Event.sent, p.MayBring request := by
  induction past generalizing p with
  | nil => exact ⟨List.nodup_nil, fun _ hmem => nomatch hmem⟩
  | cons e past ih =>
    obtain ⟨t, ht, hrun⟩ := Machine.run_cons.mp hrun
    have hstep := step_sound ht
    obtain ⟨hnodup, hmay⟩ := ih (h.step hstep) hrun
    have hmay' : ∀ request ∈ past.filterMap Event.sent, p.MayBring request :=
      fun request hmem => (hmay request hmem).of_step hstep
    cases hsent : e.sent with
    | none =>
      rw [List.filterMap_cons_none hsent]
      exact ⟨hnodup, hmay'⟩
    | some request =>
      rw [List.filterMap_cons_some hsent]
      cases hstep with
      | codeSent hmem =>
        cases hsent
        refine ⟨List.nodup_cons.mpr ⟨fun hlater => ?_, hnodup⟩, List.forall_mem_cons.mpr
          ⟨.inl hmem, hmay'⟩⟩
        -- The request left the list with its code, and a new one has another number.
        rcases hmay request hlater with hmem' | hle
        · exact h.nodup.not_mem_erase hmem'
        · exact absurd (h.serial_lt request hmem) (not_lt.mpr hle)
      | _ => cases hsent

theorem numbered_runApp (storage : FlutterSecureStorage) (currentUser : Option User) :
    (runApp storage currentUser).Numbered :=
  runApp_cases (P := Numbered) (fun _ => ⟨List.nodup_nil, fun _ hmem => nomatch hmem⟩)
    fun _ => ⟨List.nodup_nil, fun _ hmem => nomatch hmem⟩

/-- What Firebase promises of its ids holds in every run of the app. -/
theorem nodup_sent {storage : FlutterSecureStorage} {currentUser : Option User} {past : List Event}
    {p : MockAPP} (h : machine.run (runApp storage currentUser) past = some p) :
    (past.filterMap Event.sent).Nodup :=
  ((numbered_runApp storage currentUser).nodup_sent h).1

/-- A page that requested a verification submits its credential under the id that the `codeSent` of
its own request brought. -/
def SubmitsOwnCode (past : List Event) (p : MockAPP) (e : Event) : Prop :=
  e = .otpButtonPressed → ∀ page request rest, p.routes = .otpPage page (some request) :: rest →
    ∀ credential, (page.otpButtonPressed p.verificationId).2 = .verificationCompleted credential →
      credential.verificationId = some request ∧ .codeSent request ∈ past

/-- When a page that requested a verification submits, the last `codeSent` was that of its own
request. -/
def OwnCodeLast (past : List Event) (p : MockAPP) (e : Event) : Prop :=
  e = .otpButtonPressed → ∀ page request rest, p.routes = .otpPage page (some request) :: rest →
    page.noOtpYet = false → lastSent past = some request

/-- **The code and its number.** In a run every page that requested a verification submits under the
id for its own number, if and only if whenever such a page submits the last of all the `codeSent`
callbacks was its own. -/
theorem submitsOwnCode_iff (storage : FlutterSecureStorage) (currentUser : Option User)
    (events : List Event) :
    machine.AlongPast SubmitsOwnCode (runApp storage currentUser) events ↔
      machine.AlongPast OwnCodeLast (runApp storage currentUser) events := by
  refine Machine.AlongPast.congr (fun past p e p' hrun _ => ?_) events
  refine forall_congr' fun _ => forall_congr' fun page => forall_congr' fun request =>
    forall_congr' fun rest => forall_congr' fun _ => ?_
  rw [verificationId_run hrun]
  cases hphase : page.noOtpYet with
  | true =>
    rw [OtpPage.otpButtonPressed_of_noOtpYet hphase]
    refine iff_of_true (fun credential hcredential => ?_) (fun h => nomatch h)
    dsimp only at hcredential
    split at hcredential <;> cases hcredential
  | false =>
    rw [OtpPage.otpButtonPressed_of_not_noOtpYet hphase]
    constructor
    · intro h _
      exact (h _ rfl).1
    · intro h credential hcredential
      cases hcredential
      exact ⟨h rfl, codeSent_of_lastSent (h rfl)⟩

/-- The first page submits without waiting for its code. On the second page the code for the first
number arrives after the code for its own. -/
theorem submitted_other_id :
    (∃ p, machine.run (runApp {} none) [.phoneButtonAction, .editPhoneNumber "1234567890",
        .otpButtonPressed, .otpButtonPressed] = some p ∧
      p.credential = some { verificationId := none, smsCode := "" }) ∧
    (∃ p, machine.run (runApp {} none) [.phoneButtonAction, .editPhoneNumber "1234567890",
        .otpButtonPressed, .back, .phoneButtonAction, .editPhoneNumber "0987654321",
        .otpButtonPressed, .codeSent ⟨"+910987654321", 1⟩, .codeSent ⟨"+911234567890", 0⟩,
        .editOtp "123456", .otpButtonPressed] = some p ∧
      p.credential =
        some { verificationId := some ⟨"+911234567890", 0⟩, smsCode := "123456" }) ∧
    ¬ machine.AlongPast SubmitsOwnCode (runApp {} none) [.phoneButtonAction,
        .editPhoneNumber "1234567890", .otpButtonPressed, .otpButtonPressed] := by
  refine ⟨⟨_, rfl, rfl⟩, ⟨_, rfl, rfl⟩, fun h => ?_⟩
  have hown := h [.phoneButtonAction, .editPhoneNumber "1234567890", .otpButtonPressed]
    .otpButtonPressed [] rfl _ _ rfl rfl rfl _ _ _ rfl _ rfl
  cases hown.1

/-! ## The method of a login -/

/-- The method whose button the event presses. -/
def Event.button : Event → Option LoginMethod
  | .googleButtonAction => some .google
  | .phoneButtonAction => some .phone
  | _ => none

/-- The method that `isLoginUsingPhonenumber` names. -/
def method (p : MockAPP) : LoginMethod :=
  if p.store.session.isLoginUsingPhonenumber then .phone else .google

theorem method_eq_iff {p : MockAPP} {m : LoginMethod} :
    p.method = m ↔ (p.store.session.isLoginUsingPhonenumber = true ↔ m = .phone) := by
  rw [method]
  cases p.store.session.isLoginUsingPhonenumber <;> cases m <;> simp

theorem isLoginUsingPhonenumber_resume (call : TokenCall) (serial : ℕ) (s : SessionStore) :
    (call.resume serial s).1.session.isLoginUsingPhonenumber =
      s.session.isLoginUsingPhonenumber := by
  cases call <;> rfl

/-- Only the buttons of the login page set the flag. -/
theorem method_step {p p' : MockAPP} {e : Event} (h : machine.step p e = some p') :
    some p'.method = e.button.or (some p.method) := by
  cases step_sound h with
  | @signedIn _ mounted _ => cases mounted <;> rfl
  | @resumed _ serial call _ _ =>
    exact congrArg (fun flag : Bool => some (if flag then LoginMethod.phone else .google))
      (isLoginUsingPhonenumber_resume call serial p.store)
  | @threw _ call _ =>
    refine congrArg (fun flag : Bool => some (if flag then LoginMethod.phone else .google)) ?_
    dsimp only
    split
    · exact isLoginUsingPhonenumber_resume call 0 p.store
    · rfl
  | _ => rfl

/-- The method that a restored session names. -/
def restoredMethod (storage : FlutterSecureStorage) : LoginMethod :=
  if storage.userToken ≠ none ∧ storage.isLoginUsingPhonenumber = some "true" then .phone
  else .google

/-- The method whose button was pressed last. Before the first press the restored session stands for
it. -/
def lastMethod (storage : FlutterSecureStorage) (past : List Event) : LoginMethod :=
  (past.filterMap Event.button).getLast?.getD (restoredMethod storage)

theorem method_runApp (storage : FlutterSecureStorage) (currentUser : Option User) :
    (runApp storage currentUser).method = restoredMethod storage := by
  by_cases htoken : storage.userToken = none
  · simp [runApp, checkIfLoggedIn, method, restoredMethod, htoken]
  · by_cases hflag : storage.isLoginUsingPhonenumber = some "true"
    · simp [runApp, checkIfLoggedIn, initHomePage, method, restoredMethod, htoken, hflag]
    · simp [runApp, checkIfLoggedIn, initHomePage, method, restoredMethod, htoken, hflag]

theorem method_run {storage : FlutterSecureStorage} {currentUser : Option User}
    {past : List Event} {p : MockAPP} (h : machine.run (runApp storage currentUser) past = some p) :
    p.method = lastMethod storage past := by
  have hlast := Machine.run_register (f := fun p => some p.method) (fun _ _ _ => method_step) h
  rw [method_runApp, Option.or_some] at hlast
  exact Option.some.inj hlast

theorem boolToString_inj : ∀ {b c : Bool}, boolToString b = boolToString c ↔ b = c := by
  decide

/-- The only value handed to the second write of `storeFirebaseToken` is the flag. -/
theorem resume_eq_writeIsLogin {call : TokenCall} {serial : ℕ} {s : SessionStore} {token : Token}
    {value : String} : (call.resume serial s).2 = some (.writeIsLogin token value) ↔
      call = .readIsLogin token ∧ value = boolToString s.session.isLoginUsingPhonenumber := by
  constructor
  · intro h
    cases call <;> cases h
    exact ⟨rfl, rfl⟩
  · intro h
    obtain ⟨rfl, rfl⟩ := h
    rfl

/-- A home page is created with the flag of the sign-in that it follows, and `storeFirebaseToken`
hands to its second write the method of the user it was called for. -/
def NamesMethod (_past : List Event) (p : MockAPP) : Event → Prop
  | .signedIn user true => p.store.session.isLoginUsingPhonenumber = true ↔ user.method = .phone
  | .resume i serial => ∀ call token value, p.calls[i]? = some call →
    (call.resume serial p.store).2 = some (.writeIsLogin token value) →
      value = boolToString (decide (token.user.method = .phone))
  | _ => True

/-- When a home page is created, and when `storeFirebaseToken` reads the flag, the button pressed
last was that of the sign-in, and that of the user of the call. -/
def OwnButtonLast (storage : FlutterSecureStorage) (past : List Event) (p : MockAPP) : Event → Prop
  | .signedIn user true => lastMethod storage past = user.method
  | .resume i _ => ∀ token, p.calls[i]? = some (.readIsLogin token) →
    lastMethod storage past = token.user.method
  | _ => True

theorem namesMethod_iff {storage : FlutterSecureStorage} {past : List Event} {p : MockAPP}
    (hmethod : p.method = lastMethod storage past) (e : Event) :
    NamesMethod past p e ↔ OwnButtonLast storage past p e := by
  cases e with
  | signedIn user mounted =>
    cases mounted with
    | true => exact method_eq_iff.symm.trans (hmethod ▸ Iff.rfl)
    | false => exact Iff.rfl
  | resume i serial =>
    have hvalue : ∀ token : Token, boolToString p.store.session.isLoginUsingPhonenumber =
        boolToString (decide (token.user.method = .phone)) ↔
          lastMethod storage past = token.user.method := by
      intro token
      rw [boolToString_inj, Bool.eq_iff_iff, decide_eq_true_iff, ← method_eq_iff, hmethod]
    constructor
    · intro h token hcall
      exact (hvalue token).mp (h _ token _ hcall rfl)
    · intro h call token value hcall hrest
      obtain ⟨rfl, rfl⟩ := resume_eq_writeIsLogin.mp hrest
      exact (hvalue token).mpr (h token hcall)
  | _ => exact Iff.rfl

/-- **The login method.** In a run the flag names the method of every sign-in that creates a home
page and of the user of every `storeFirebaseToken`, if and only if at those moments the button
pressed last was theirs. -/
theorem namesMethod_iff_ownButtonLast (storage : FlutterSecureStorage) (currentUser : Option User)
    (events : List Event) :
    machine.AlongPast NamesMethod (runApp storage currentUser) events ↔
      machine.AlongPast (OwnButtonLast storage) (runApp storage currentUser) events :=
  Machine.AlongPast.congr (fun _ _ e _ hrun _ => namesMethod_iff (method_run hrun) e) events

/-- A Google sign-in takes so long that the user tries the phone button. Another one is quick, but
its token is stored so slowly that the user has logged out by then, to use the phone. -/
theorem google_shown_as_phone :
    ¬ machine.AlongPast NamesMethod (runApp {} none)
      [.googleButtonAction, .phoneButtonAction, .signedIn ⟨"alice", .google⟩ true] ∧
    ∃ p, machine.run (runApp {} none) [.googleButtonAction, .signedIn ⟨"alice", .google⟩ true,
        .logout, .resume 0 0, .resume 0 0, .resume 0 0, .phoneButtonAction, .resume 0 0,
        .resume 0 0, .resume 0 0, .resume 0 0] = some p ∧
      p.store.storage.isLoginUsingPhonenumber = some "true" ∧
      p.calls = [.assignUserToken ⟨⟨"alice", .google⟩, 0⟩] := by
  refine ⟨fun h => ?_, _, rfl, rfl, rfl⟩
  have hnames := h [.googleButtonAction, .phoneButtonAction] _ [] rfl _ _ rfl rfl
  cases hnames.mp rfl

end MachineTest.MockAPP
