import MachineTest.Pages.Main

/-! # The session after a restart

Every start that finds a token finds the user who signed in, and how, if and only if no kill falls
between the sign-out and the delete of the token, or where a token is stored beside a flag that is
not that of the user. -/

namespace MachineTest

/-- The stored flag says how the user signed in. -/
def SessionStore.FlagStored (s : SessionStore) (user : User) : Prop :=
  s.storage.isLoginUsingPhonenumber = some "true" ↔ user.method = .phone

/-- So does the flag of the singleton. -/
def SessionStore.FlagAssigned (s : SessionStore) (user : User) : Prop :=
  s.session.isLoginUsingPhonenumber = true ↔ user.method = .phone

theorem boolToString_eq_true_iff {b : Bool} : boolToString b = "true" ↔ b = true := by
  cases b <;> decide

namespace Device

/-- At a start on the home page Firebase has a user, and the flag says how the user signed in. -/
def StartsRight (d : Device) : Prop :=
  d.phase = .started true → ∃ user, d.currentUser = some user ∧ d.store.FlagAssigned user

/-- A kill is harmless here. -/
def Killable (d : Device) : Prop :=
  match d.phase with
  | .removing .deleteUserToken => False
  | .storing (.assignUserToken _) => True
  | .storing _ => d.store.storage.userToken = none ∨
    ∃ user, d.currentUser = some user ∧ d.store.FlagStored user
  | _ => True

/-- What holds in each phase. -/
inductive Inv : Device → Prop
  | loggedIn {store : SessionStore} {user : User} : store.storage.userToken ≠ none →
    store.FlagStored user → store.FlagAssigned user → Inv ⟨store, some user, .started true⟩
  | loggedOut {store : SessionStore} {currentUser : Option User} :
    store.storage.userToken = none → Inv ⟨store, currentUser, .started false⟩
  | loginPage {store : SessionStore} {currentUser : Option User} :
    store.storage.userToken = none → Inv ⟨store, currentUser, .loginPage⟩
  | homePage {store : SessionStore} {user : User} : store.storage.userToken ≠ none →
    store.FlagStored user → Inv ⟨store, some user, .homePage⟩
  | getIdToken {store : SessionStore} {user : User} : store.FlagAssigned user →
    Inv ⟨store, some user, .storing (.getIdToken user)⟩
  | writeUserToken {store : SessionStore} {user : User} {token : Token} :
    store.FlagAssigned user → Inv ⟨store, some user, .storing (.writeUserToken token)⟩
  | readIsLogin {store : SessionStore} {user : User} {token : Token} :
    store.storage.userToken ≠ none → store.FlagAssigned user →
    Inv ⟨store, some user, .storing (.readIsLogin token)⟩
  | writeIsLogin {store : SessionStore} {user : User} {token : Token} {value : String} :
    store.storage.userToken ≠ none → (value = "true" ↔ user.method = .phone) →
    Inv ⟨store, some user, .storing (.writeIsLogin token value)⟩
  | assignUserToken {store : SessionStore} {user : User} {token : Token} :
    store.storage.userToken ≠ none → store.FlagStored user →
    Inv ⟨store, some user, .storing (.assignUserToken token)⟩
  | deleteUserToken {store : SessionStore} : store.storage.userToken ≠ none →
    Inv ⟨store, none, .removing .deleteUserToken⟩
  | deleteIsLogin {store : SessionStore} : store.storage.userToken = none →
    Inv ⟨store, none, .removing .deleteIsLogin⟩
  | clearUserToken {store : SessionStore} : store.storage.userToken = none →
    Inv ⟨store, none, .removing .clearUserToken⟩

/-! ## The start -/

theorem restart_of_none {d : Device} (h : d.store.storage.userToken = none) :
    d.restart = ⟨{ d.store with session := {} }, d.currentUser, .started false⟩ := by
  simp [restart, checkIfLoggedIn, h]

theorem restart_of_ne_none {d : Device} (h : d.store.storage.userToken ≠ none) :
    ∃ session : Session,
      d.restart = ⟨{ d.store with session }, d.currentUser, .started true⟩ ∧
      (session.isLoginUsingPhonenumber = true ↔
        d.store.storage.isLoginUsingPhonenumber = some "true") :=
  ⟨{ userToken := d.store.storage.userToken
     isLoginUsingPhonenumber :=
      if d.store.storage.isLoginUsingPhonenumber = some "true" then true else false },
    by simp [restart, checkIfLoggedIn, h], by simp⟩

/-- A start is right exactly if it finds no token, or a user and a flag that says how the user
signed in. -/
theorem startsRight_restart_iff {d : Device} : d.restart.StartsRight ↔
    d.store.storage.userToken = none ∨
      ∃ user, d.currentUser = some user ∧ d.store.FlagStored user := by
  by_cases hnone : d.store.storage.userToken = none
  · rw [restart_of_none hnone]
    exact ⟨fun _ => .inl hnone, fun _ h => (by cases h)⟩
  · obtain ⟨session, hrestart, hsession⟩ := restart_of_ne_none hnone
    rw [hrestart]
    constructor
    · intro h
      obtain ⟨user, huser, hflag⟩ := h rfl
      exact .inr ⟨user, huser, hsession.symm.trans hflag⟩
    · intro h _
      obtain ⟨user, huser, hflag⟩ := h.resolve_left hnone
      exact ⟨user, huser, hsession.trans hflag⟩

theorem Inv.restart_of_startsRight {d : Device} (h : d.restart.StartsRight) : Inv d.restart := by
  by_cases hnone : d.store.storage.userToken = none
  · rw [restart_of_none hnone]
    exact .loggedOut hnone
  · obtain ⟨user, huser, hflag⟩ := (startsRight_restart_iff.mp h).resolve_left hnone
    obtain ⟨session, hrestart, hsession⟩ := restart_of_ne_none hnone
    rw [hrestart, huser]
    exact .loggedIn hnone hflag (hsession.trans hflag)

/-- Where the invariant holds, the harmless kills are those with a right start. -/
theorem Inv.killable_iff {d : Device} (h : Inv d) : d.Killable ↔ d.restart.StartsRight := by
  cases h with
  | loggedIn _ hflag _ | homePage _ hflag | assignUserToken _ hflag =>
    exact iff_of_true trivial (startsRight_restart_iff.mpr (.inr ⟨_, rfl, hflag⟩))
  | loggedOut hnone | loginPage hnone | deleteIsLogin hnone | clearUserToken hnone =>
    exact iff_of_true trivial (startsRight_restart_iff.mpr (.inl hnone))
  | getIdToken | writeUserToken | readIsLogin | writeIsLogin => exact startsRight_restart_iff.symm
  | deleteUserToken htoken =>
    refine ⟨False.elim, fun hright => ?_⟩
    rcases startsRight_restart_iff.mp hright with hnone | ⟨user, huser, _⟩
    · exact htoken hnone
    · cases huser

/-! ## The other steps -/

/-- Without a kill every step moves to a phase whose part of the invariant it establishes. -/
theorem Inv.step {d d' : Device} {e : Event} (h : Inv d) (hkill : e = .restart → d.Killable)
    (hstep : machine.step d e = some d') : Inv d' := by
  cases e with
  | runApp =>
    cases h with
    | loggedIn _ _ hassigned => cases hstep; exact .getIdToken hassigned
    | loggedOut hnone => cases hstep; exact .loginPage hnone
    | _ => cases hstep
  | login user =>
    have hlogin : ∀ d : Device, Inv (d.login user) := fun d => .getIdToken decide_eq_true_iff
    cases h with
    | loginPage | homePage => cases hstep; exact hlogin _
    | _ => cases hstep
  | logout =>
    cases h with
    | homePage htoken => cases hstep; exact .deleteUserToken htoken
    | _ => cases hstep
  | resume serial =>
    cases h with
    | loggedIn | loggedOut | loginPage | homePage => cases hstep
    | getIdToken hassigned => cases hstep; exact .writeUserToken hassigned
    | writeUserToken hassigned => cases hstep; exact .readIsLogin (Option.some_ne_none _) hassigned
    | readIsLogin htoken hassigned =>
      cases hstep
      exact .writeIsLogin htoken (boolToString_eq_true_iff.trans hassigned)
    | writeIsLogin htoken hvalue =>
      cases hstep
      exact .assignUserToken htoken (Option.some_inj.trans hvalue)
    | assignUserToken htoken hflag => cases hstep; exact .homePage htoken hflag
    | deleteUserToken => cases hstep; exact .deleteIsLogin rfl
    | deleteIsLogin hnone => cases hstep; exact .clearUserToken hnone
    | clearUserToken hnone => cases hstep; exact .loginPage hnone
  | restart =>
    cases hstep
    exact .restart_of_startsRight (h.killable_iff.mp (hkill rfl))

theorem Inv.startsRight {d : Device} (h : Inv d) : d.StartsRight := by
  intro hphase
  cases h with
  | loggedIn _ _ hassigned => exact ⟨_, rfl, hassigned⟩
  | _ => cases hphase

/-- **Kills.** From the first start of the app on, every start on the home page is right if and
only if every kill is harmless. -/
theorem startsRight_iff (es : List Event) : machine.AlongStates StartsRight {} es ↔
    machine.AlongSteps (fun d e => e = .restart → d.Killable) {} es := by
  refine Machine.alongStates_iff (I := Inv) (fun d h => h.startsRight)
    (fun d e d' h hkill hstep => h.step hkill hstep) ?_ (.loggedOut rfl)
  rintro d e d' h hstep hright rfl
  cases hstep
  exact h.killable_iff.mpr hright

/-- The first login by phone is killed between its two writes: the next start takes the user for
one who signed in with Google. -/
theorem flag_lost : ∃ d, machine.run {} [.runApp, .login ⟨"bob", .phone⟩, .resume 0, .resume 0,
      .restart] = some d ∧
    d.phase = .started true ∧ d.currentUser = some ⟨"bob", .phone⟩ ∧
    d.store.session.isLoginUsingPhonenumber = false ∧ ¬ d.StartsRight := by
  refine ⟨_, rfl, rfl, rfl, rfl, fun h => ?_⟩
  obtain ⟨user, huser, hflag⟩ := h rfl
  cases huser
  exact absurd (hflag.mpr rfl) Bool.false_ne_true

end Device
end MachineTest
