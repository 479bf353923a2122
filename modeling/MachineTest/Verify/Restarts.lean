import MachineTest.Verify.AppTokens
import MachineTest.Verify.Login

/-! # From process to process

The storage and Firebase's current user outlive the process, and neither is written in one step with
the other. A kill may fall anywhere, also between the steps of several token calls under way.

* `provenance`: a token, wherever it is, belongs to a user who signed in since the app was
  installed, and nobody is taken for a phone user before the button of the phone was pressed;
* `starts_with_user`: when no logout overlaps a call that has yet to store a token, and no process
  ends between a logout and its delete, a start on the home page finds a user. -/

namespace MachineTest

/-- The value that the call will write under `'isLoginUsingPhonenumber'`. -/
def TokenCall.flag : TokenCall → Option String
  | .writeIsLogin _ value => some value
  | _ => none

/-- A step of a call writes its own token, or none. -/
theorem TokenCall.token_resume {call : TokenCall} {serial : ℕ} {s : SessionStore} {x : Cell}
    {token : Token} (h : (call.resume serial s).1.token x = some token) :
    call.user = some token.user ∨ s.token x = some token := by
  cases hwrites : call.writes x with
  | true =>
    have hvalue := (TokenCall.resume_of_writes hwrites serial s).1
    rw [h] at hvalue
    exact .inl hvalue.symm
  | false => exact .inr ((TokenCall.resume_of_not_writes hwrites serial s).1 ▸ h)

/-- It writes the flag that it was handed, or none. -/
theorem TokenCall.flag_resume {call : TokenCall} {serial : ℕ} {s : SessionStore} {value : String}
    (h : (call.resume serial s).1.storage.isLoginUsingPhonenumber = some value) :
    call.flag = some value ∨ s.storage.isLoginUsingPhonenumber = some value := by
  cases call with
  | writeIsLogin => exact .inl h
  | deleteIsLogin => cases h
  | _ => exact .inr h

/-- What is left of a call hands on the flag of the singleton, or nothing. -/
theorem TokenCall.flag_rest {call rest : TokenCall} {serial : ℕ} {s : SessionStore}
    (h : (call.resume serial s).2 = some rest) (hflag : rest.flag = some "true") :
    s.session.isLoginUsingPhonenumber = true := by
  cases call with
  | readIsLogin token =>
    cases h
    exact MockAPP.boolToString_inj.mp (Option.some.inj hflag)
  | _ => cases h <;> cases hflag

/-- A call has yet to write a place only if it had before. -/
theorem TokenCall.pending_rest {call rest : TokenCall} {serial : ℕ} {s : SessionStore} {x : Cell}
    (h : rest ∈ (call.resume serial s).2.toList) (hpending : rest.pending x = true) :
    call.pending x = true ∧ call.writes x = false := by
  rw [Option.mem_toList] at h
  have hany : (call.resume serial s).2.any (·.pending x) = true := by
    rw [h]
    exact hpending
  cases hwrites : call.writes x with
  | true =>
    rw [(TokenCall.resume_of_writes hwrites serial s).2] at hany
    cases hany
  | false => exact ⟨(TokenCall.resume_of_not_writes hwrites serial s).2 ▸ hany, rfl⟩

namespace MockAPP

variable {p p' : MockAPP}

/-! ## Where tokens come from -/

/-- The user who signs in. -/
def Life.signsIn : Life → Option User
  | .event (.signedIn user _) | .verificationCompleted user => some user
  | _ => none

def signedInUsers (past : List Life) : List User := past.filterMap Life.signsIn

/-- Every trace of a user, and of a login by phone, has its origin in `past`. -/
structure Owned (past : List Life) (p : MockAPP) : Prop where
  currentUser : ∀ user, p.currentUser = some user → user ∈ signedInUsers past
  token : ∀ x token, p.store.token x = some token → token.user ∈ signedInUsers past
  calls : ∀ call ∈ p.calls, ∀ user, call.user = some user → user ∈ signedInUsers past
  assignedFlag : p.store.session.isLoginUsingPhonenumber = true →
    .event .phoneButtonAction ∈ past
  storedFlag : p.store.storage.isLoginUsingPhonenumber = some "true" →
    .event .phoneButtonAction ∈ past
  callFlag : ∀ call ∈ p.calls, call.flag = some "true" → .event .phoneButtonAction ∈ past

theorem mem_signedInUsers_append {past : List Life} {user : User}
    (h : user ∈ signedInUsers past) (e : Life) : user ∈ signedInUsers (past ++ [e]) := by
  rw [signedInUsers, List.filterMap_append]
  exact List.mem_append_left _ h

theorem mem_signedInUsers_self (past : List Life) {user : User} {e : Life}
    (h : e.signsIn = some user) : user ∈ signedInUsers (past ++ [e]) := by
  rw [signedInUsers, List.filterMap_append]
  exact List.mem_append_right _ (List.mem_filterMap.mpr ⟨e, List.mem_singleton_self e, h⟩)

/-- What has its origin in `past` has it in a longer past. -/
theorem Owned.mono {past : List Life} (h : p.Owned past) (e : Life)
    (huser : p'.currentUser = p.currentUser) (hstore : p'.store = p.store)
    (hcalls : p'.calls = p.calls) : p'.Owned (past ++ [e]) where
  currentUser user hp := mem_signedInUsers_append (h.currentUser user (huser ▸ hp)) e
  token x token hp := mem_signedInUsers_append (h.token x token (hstore ▸ hp)) e
  calls call hcall user hp := mem_signedInUsers_append (h.calls call (hcalls ▸ hcall) user hp) e
  assignedFlag hp := List.mem_append_left _ (h.assignedFlag (hstore ▸ hp))
  storedFlag hp := List.mem_append_left _ (h.storedFlag (hstore ▸ hp))
  callFlag call hcall hp := List.mem_append_left _ (h.callFlag call (hcalls ▸ hcall) hp)

/-- A token call hands on what it holds. -/
theorem Owned.resume {past : List Life} (h : p.Owned past) {i : ℕ} {call : TokenCall}
    (hcall : p.calls[i]? = some call) (serial : ℕ) :
    Owned past { p with
      store := (call.resume serial p.store).1
      calls := (call.resume serial p.store).2.toList ++ p.calls.eraseIdx i } := by
  have hmem : call ∈ p.calls := List.mem_of_getElem? hcall
  refine ⟨h.currentUser, fun x token htoken => ?_, fun c hc user huser => ?_, fun hflag => ?_,
    fun hflag => ?_, fun c hc hflag => ?_⟩
  · rcases TokenCall.token_resume htoken with howner | hold
    · exact h.calls call hmem _ howner
    · exact h.token x token hold
  · rcases List.mem_append.mp hc with hrest | hother
    · rw [TokenCall.user_resume (Option.mem_toList.mp hrest)] at huser
      exact h.calls call hmem user huser
    · exact h.calls c (List.mem_of_mem_eraseIdx hother) user huser
  · exact h.assignedFlag ((isLoginUsingPhonenumber_resume call serial p.store).symm.trans hflag)
  · rcases TokenCall.flag_resume hflag with hheld | hold
    · exact h.callFlag call hmem hheld
    · exact h.storedFlag hold
  · rcases List.mem_append.mp hc with hrest | hother
    · exact h.assignedFlag (TokenCall.flag_rest (Option.mem_toList.mp hrest) hflag)
    · exact h.callFlag c (List.mem_of_mem_eraseIdx hother) hflag

/-- So does one that ends with an exception. -/
theorem Owned.throws {past : List Life} (h : p.Owned past) {i : ℕ} {call : TokenCall}
    (hcall : p.calls[i]? = some call) :
    Owned past { p with
      store := if call = .clearUserToken then (call.resume 0 p.store).1 else p.store
      calls := p.calls.eraseIdx i } := by
  by_cases hclear : call = .clearUserToken
  · cases hclear
    exact h.resume hcall 0
  · rw [if_neg hclear]
    exact ⟨h.currentUser, h.token, fun c hc => h.calls c (List.mem_of_mem_eraseIdx hc),
      h.assignedFlag, h.storedFlag, fun c hc => h.callFlag c (List.mem_of_mem_eraseIdx hc)⟩

theorem Owned.signedIn {past : List Life} (h : p.Owned past) (user : User) (mounted : Bool) :
    (p.signedIn user mounted).Owned (past ++ [.event (.signedIn user mounted)]) := by
  have hself : user ∈ signedInUsers (past ++ [.event (.signedIn user mounted)]) :=
    mem_signedInUsers_self past rfl
  have hpast := h.mono (.event (.signedIn user mounted)) rfl rfl rfl
  cases mounted with
  | false =>
    refine { hpast with currentUser := fun u hu => ?_ }
    cases hu
    exact hself
  | true =>
    refine { hpast with currentUser := fun u hu => ?_, calls := ?_, callFlag := ?_ }
    · cases hu
      exact hself
    · refine List.forall_mem_cons.mpr ⟨fun u hu => ?_, hpast.calls⟩
      cases hu
      exact hself
    · exact List.forall_mem_cons.mpr ⟨nofun, hpast.callFlag⟩

theorem Owned.step {past : List Life} {e : Event} (h : p.Owned past) (hstep : p.Step e p') :
    p'.Owned (past ++ [.event e]) := by
  cases hstep with
  | googleButtonAction _ =>
    have hpast : p.Owned (past ++ [.event .googleButtonAction]) := h.mono _ rfl rfl rfl
    exact { hpast with assignedFlag := nofun }
  | phoneButtonAction _ =>
    have hpast : p.Owned (past ++ [.event .phoneButtonAction]) := h.mono _ rfl rfl rfl
    exact { hpast with assignedFlag := fun _ => List.mem_append_right _ List.mem_cons_self }
  | signedIn _ => exact h.signedIn _ _
  | logout _ =>
    have hpast : p.Owned (past ++ [.event .logout]) := h.mono _ rfl rfl rfl
    exact { hpast with
      currentUser := nofun
      calls := List.forall_mem_cons.mpr ⟨nofun, hpast.calls⟩
      callFlag := List.forall_mem_cons.mpr ⟨nofun, hpast.callFlag⟩ }
  | resumed hcall _ => exact (h.resume hcall _).mono _ rfl rfl rfl
  | @cleared i serial hcall => exact (h.resume hcall serial).mono _ rfl rfl rfl
  | threw hcall => exact (h.throws hcall).mono _ rfl rfl rfl
  | _ => exact h.mono _ rfl rfl rfl

/-- The callback of a request signs a user in, and nothing else. -/
theorem Owned.verificationCompleted {past : List Life} {user : User} (h : p.Owned past)
    (hstep : p.verificationCompleted user = some p') :
    p'.Owned (past ++ [.verificationCompleted user]) := by
  obtain ⟨_, _, rfl⟩ := verificationCompleted_eq_some.mp hstep
  have hpast : p.Owned (past ++ [.verificationCompleted user]) := h.mono _ rfl rfl rfl
  refine { hpast with currentUser := fun user' huser => ?_ }
  cases huser
  exact mem_signedInUsers_self past rfl

/-- What a start takes over. -/
structure StartedFrom (storage : FlutterSecureStorage) (currentUser : Option User) (p : MockAPP) :
    Prop where
  user : p.currentUser = currentUser
  stored : p.store.storage = storage
  assigned : p.store.session.userToken = storage.userToken
  flag : p.store.session.isLoginUsingPhonenumber = true →
    storage.isLoginUsingPhonenumber = some "true"
  calls : ∀ call ∈ p.calls, ∃ user, currentUser = some user ∧ call = .getIdToken user

theorem startedFrom_runApp (storage : FlutterSecureStorage) (currentUser : Option User) :
    (runApp storage currentUser).StartedFrom storage currentUser := by
  by_cases htoken : storage.userToken = none
  · have hrun : runApp storage currentUser =
        { routes := [.loginPage], store.storage := storage, currentUser } := by
      simp [runApp, checkIfLoggedIn, htoken]
    rw [hrun]
    exact ⟨rfl, rfl, htoken.symm, fun hflag => absurd hflag Bool.false_ne_true,
      List.forall_mem_nil _⟩
  · have hrun : runApp storage currentUser = initHomePage
        { routes := [.homePage], store := (checkIfLoggedIn { storage }).2, currentUser } := by
      simp [runApp, checkIfLoggedIn, htoken]
    rw [hrun, checkIfLoggedIn, if_pos htoken]
    refine ⟨rfl, rfl, rfl, fun hflag => ?_, fun call hcall => ?_⟩
    · by_contra hne
      exact Bool.false_ne_true ((if_neg hne).symm.trans hflag)
    · rw [initHomePage, List.append_nil, Option.mem_toList] at hcall
      obtain ⟨user, huser, hcall⟩ := Option.map_eq_some_iff.mp hcall
      exact ⟨user, huser, hcall.symm⟩

theorem Owned.restart {past : List Life} (h : p.Owned past) :
    (runApp p.store.storage p.currentUser).Owned (past ++ [.restart]) := by
  have hstart := startedFrom_runApp p.store.storage p.currentUser
  have hpast : p.Owned (past ++ [.restart]) := h.mono _ rfl rfl rfl
  refine ⟨fun user hu => hpast.currentUser user (hstart.user.symm.trans hu), fun x token hx => ?_,
    fun call hcall user hu => ?_, fun hflag => hpast.storedFlag (hstart.flag hflag),
    fun hflag => ?_, fun call hcall hflag => ?_⟩
  · refine hpast.token .stored token ?_
    cases x with
    | stored => exact (congrArg FlutterSecureStorage.userToken hstart.stored).symm.trans hx
    | assigned => exact hstart.assigned.symm.trans hx
  · obtain ⟨user', huser, rfl⟩ := hstart.calls call hcall
    cases hu
    exact hpast.currentUser user huser
  · rw [hstart.stored] at hflag
    exact hpast.storedFlag hflag
  · obtain ⟨user', _, rfl⟩ := hstart.calls call hcall
    cases hflag

theorem owned_run {events : List Life} (hrun : lives.run (runApp {} none) events = some p) :
    p.Owned events := by
  have hstart : (runApp {} none).Owned [] := by
    refine ⟨nofun, fun x token h => ?_, nofun, nofun, nofun, nofun⟩
    cases x <;> cases h
  refine Machine.run_history (I := Owned) (fun past q e q' h hstep => ?_) hstart hrun
  cases e with
  | event e => exact h.step (step_sound hstep)
  | verificationCompleted user => exact h.verificationCompleted hstep
  | restart =>
    cases hstep
    exact h.restart

/-- **Provenance of the session.** From the installation of the app on, over any number of
processes, killed anywhere and with their token calls in any order: a token in the storage, in the
singleton or in a call under way, and the current user of Firebase, belong to a user who signed in;
and the app takes nobody for a phone user, now or at the next start, before the button of the phone
was pressed. -/
theorem provenance {events : List Life} (hrun : lives.run (runApp {} none) events = some p) :
    (∀ x token, p.store.token x = some token → token.user ∈ signedInUsers events) ∧
      (∀ call ∈ p.calls, ∀ user, call.user = some user → user ∈ signedInUsers events) ∧
      (∀ user, p.currentUser = some user → user ∈ signedInUsers events) ∧
      (p.store.session.isLoginUsingPhonenumber = true ∨
          p.store.storage.isLoginUsingPhonenumber = some "true" →
        .event .phoneButtonAction ∈ events) := by
  have h := owned_run hrun
  exact ⟨h.token, h.calls, h.currentUser, fun hflag => hflag.elim h.assignedFlag h.storedFlag⟩

/-- The first login, up to the first write of its token call. -/
def aliceSignsIn : List Life :=
  [.event .googleButtonAction, .event (.signedIn ⟨"alice", .google⟩ true), .event (.resume 0 0),
    .event (.resume 0 0)]

theorem provenance_alice : ∃ p, lives.run (runApp {} none) (aliceSignsIn ++ [.restart]) = some p ∧
    p.calls ≠ [] ∧ ∀ call ∈ p.calls, ∀ user, call.user = some user →
      user ∈ signedInUsers (aliceSignsIn ++ [.restart]) := by
  have hrun : lives.run (runApp {} none) (aliceSignsIn ++ [.restart]) =
      some (runApp { userToken := some ⟨⟨"alice", .google⟩, 0⟩ } (some ⟨"alice", .google⟩)) := rfl
  exact ⟨_, hrun, by decide, (provenance hrun).2.1⟩

/-! ## Starts that find a user -/

/-- The step leaves no token behind a user who is gone: a logout overlaps no call that has yet to
store a token, and its delete is neither lost with the process nor by an exception. -/
def Harmless (p : MockAPP) : Life → Prop
  | .event .logout => ∀ call ∈ p.calls, call.pending .stored = true → call = .deleteUserToken
  | .event (.throws i) => p.calls[i]? ≠ some .deleteUserToken
  | .restart => .deleteUserToken ∉ p.calls
  | _ => True

/-- A stored token, and a call that will store one, have a user, or a delete is on its way. -/
structure Sound (p : MockAPP) : Prop where
  stored : p.store.storage.userToken ≠ none → p.currentUser ≠ none ∨ .deleteUserToken ∈ p.calls
  storing : ∀ call ∈ p.calls, call.pending .stored = true →
    p.currentUser ≠ none ∨ call = .deleteUserToken

theorem Sound.congr (h : p.Sound) (huser : p'.currentUser = p.currentUser)
    (hstore : p'.store.storage.userToken = p.store.storage.userToken)
    (hcalls : p'.calls = p.calls) : p'.Sound := by
  constructor
  · rw [hstore, huser, hcalls]
    exact h.stored
  · rw [huser, hcalls]
    exact h.storing

theorem Sound.of_user (huser : p.currentUser ≠ none) : p.Sound :=
  ⟨fun _ => .inl huser, fun _ _ _ => .inl huser⟩

/-- A call that does not delete the token leaves the calls that do. -/
theorem mem_eraseIdx_of_ne {calls : List TokenCall} {i : ℕ} {call c : TokenCall}
    (hcall : calls[i]? = some call) (hne : call ≠ c) (hmem : c ∈ calls) : c ∈ calls.eraseIdx i := by
  obtain ⟨hi, rfl⟩ := List.getElem?_eq_some_iff.mp hcall
  have hperm := (List.getElem_cons_eraseIdx_perm hi).mem_iff.mpr hmem
  exact (List.mem_cons.mp hperm).resolve_left (Ne.symm hne)

theorem Sound.erase (h : p.Sound) {i : ℕ} {call : TokenCall} (hcall : p.calls[i]? = some call)
    (hne : call ≠ .deleteUserToken) (huser : p'.currentUser = p.currentUser)
    (hstore : p'.store.storage.userToken = p.store.storage.userToken) (rest : List TokenCall)
    (hrest : ∀ c ∈ rest, c.pending .stored = true → p.currentUser ≠ none)
    (hcalls : p'.calls = rest ++ p.calls.eraseIdx i) : p'.Sound := by
  constructor
  · intro htoken
    rw [hstore] at htoken
    rw [huser, hcalls]
    refine (h.stored htoken).imp_right fun hmem => ?_
    exact List.mem_append_right _ (mem_eraseIdx_of_ne hcall hne hmem)
  · intro c hc hpending
    rw [hcalls] at hc
    rw [huser]
    rcases List.mem_append.mp hc with hc | hc
    · exact .inl (hrest c hc hpending)
    · exact h.storing c (List.mem_of_mem_eraseIdx hc) hpending

/-- A step of a token call. -/
theorem Sound.resume (h : p.Sound) {i : ℕ} {call : TokenCall} (hcall : p.calls[i]? = some call)
    (serial : ℕ) : Sound { p with
      store := (call.resume serial p.store).1
      calls := (call.resume serial p.store).2.toList ++ p.calls.eraseIdx i } := by
  have hmem : call ∈ p.calls := List.mem_of_getElem? hcall
  by_cases hdelete : call = .deleteUserToken
  · subst hdelete
    refine ⟨fun htoken => absurd rfl htoken, fun c hc hpending => ?_⟩
    rcases List.mem_append.mp hc with hc | hc
    · exact absurd (TokenCall.pending_rest hc hpending).2 (by decide)
    · exact h.storing c (List.mem_of_mem_eraseIdx hc) hpending
  · have huser (hpending : call.pending .stored = true) : p.currentUser ≠ none :=
      (h.storing call hmem hpending).resolve_right hdelete
    cases hwrites : call.writes .stored with
    | true => exact .of_user (huser (TokenCall.pending_of_writes hwrites))
    | false =>
      refine h.erase hcall hdelete rfl (TokenCall.resume_of_not_writes hwrites serial p.store).1
        _ (fun c hc hpending => ?_) rfl
      exact huser (TokenCall.pending_rest hc hpending).1

theorem Sound.step {e : Event} (h : p.Sound) (hharmless : p.Harmless (.event e))
    (hstep : p.Step e p') : p'.Sound := by
  cases hstep with
  | @signedIn user mounted _ =>
    refine .of_user ?_
    cases mounted <;> exact Option.some_ne_none user
  | logout _ =>
    refine ⟨fun _ => .inr List.mem_cons_self, fun call hcall hpending => .inr ?_⟩
    rcases List.mem_cons.mp hcall with rfl | hcall
    · rfl
    · exact hharmless call hcall hpending
  | resumed hcall _ => exact h.resume hcall _
  | @cleared i serial hcall => exact (h.resume hcall serial).congr rfl rfl rfl
  | @threw i call hcall =>
    have hne : call ≠ .deleteUserToken := fun heq => hharmless (heq ▸ hcall)
    refine h.erase hcall hne rfl ?_ [] (List.forall_mem_nil _) rfl
    split
    · rename_i hclear
      cases hclear
      rfl
    · rfl
  | _ => exact h.congr rfl rfl rfl

theorem Sound.restart (h : p.Sound) (hkill : .deleteUserToken ∉ p.calls) :
    (runApp p.store.storage p.currentUser).Sound := by
  have hstart := startedFrom_runApp p.store.storage p.currentUser
  refine ⟨fun htoken => ?_, fun call hcall _ => ?_⟩
  · rw [hstart.stored] at htoken
    rw [hstart.user]
    exact .inl ((h.stored htoken).resolve_right hkill)
  · obtain ⟨user, huser, _⟩ := hstart.calls call hcall
    rw [hstart.user, huser]
    exact .inl (Option.some_ne_none user)

/-- **Starts that find a user.** When in a life of the app no logout overlaps a call that has yet to
store a token, and no process ends between a logout and its delete of the token, then every start
either opens the login page, or opens the home page for the user that Firebase has. -/
theorem starts_with_user {events : List Life} (hrun : lives.run (runApp {} none) events = some p)
    (hharmless : lives.AlongSteps Harmless (runApp {} none) events)
    (hkill : .deleteUserToken ∉ p.calls) :
    (runApp p.store.storage p.currentUser).routes = [.loginPage] ∨
      ∃ user, p.currentUser = some user ∧
        (runApp p.store.storage p.currentUser).routes = [.homePage] ∧
        (runApp p.store.storage p.currentUser).calls =
          [HomePageController.storeFirebaseToken user] := by
  have hsound : p.Sound := by
    refine Machine.run_invariant_along (I := Sound) (fun q e q' h hC hstep => ?_) ?_ hharmless hrun
    · cases e with
      | event e => exact h.step hC (step_sound hstep)
      | verificationCompleted user =>
        obtain ⟨_, _, rfl⟩ := verificationCompleted_eq_some.mp hstep
        exact .of_user (Option.some_ne_none user)
      | restart =>
        cases hstep
        exact h.restart hC
    · exact ⟨fun h => absurd rfl h, nofun⟩
  by_cases htoken : p.store.storage.userToken = none
  · exact .inl (by simp [runApp, checkIfLoggedIn, htoken])
  · obtain ⟨user, huser⟩ := Option.ne_none_iff_exists'.mp
      ((hsound.stored htoken).resolve_right hkill)
    refine .inr ⟨user, huser, ?_⟩
    simp [runApp, checkIfLoggedIn, htoken, initHomePage, huser]

/-- Killed after the first write. -/
theorem starts_with_user_alice : ∃ p, lives.run (runApp {} none) aliceSignsIn = some p ∧
    ∃ user, p.currentUser = some user ∧
      (runApp p.store.storage p.currentUser).routes = [.homePage] ∧
      (runApp p.store.storage p.currentUser).calls = [.getIdToken user] := by
  have hharmless : lives.AlongSteps Harmless (runApp {} none) aliceSignsIn :=
    .cons rfl trivial (.cons rfl trivial (.cons rfl trivial (.cons rfl trivial trivial)))
  exact ⟨_, rfl, (starts_with_user rfl hharmless (by decide)).resolve_left (by decide)⟩

end MockAPP
end MachineTest
