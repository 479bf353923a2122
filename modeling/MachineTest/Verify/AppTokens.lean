import MachineTest.Pages.MockAPP
import MachineTest.Verify.Tokens

/-! # The stored token in the app

Of the events of the app only the logins, the logouts and the steps of the token calls matter to the
two places of a token. So a run of the app is a run of `Process`, up to the value of the second
write of `storeFirebaseToken` (`MockAPP.run_tracks`), and the law of the stored token holds of the
app (`MockAPP.tokens_agree_iff`). -/

namespace MachineTest

theorem SessionStore.token_of_flag (s : SessionStore) (flag : Bool) (x : Cell) :
    { s with session.isLoginUsingPhonenumber := flag }.token x = s.token x := by
  cases x <;> rfl

/-- The call without the value of its second write. -/
def TokenCall.forget : TokenCall → TokenCall
  | .writeIsLogin token _ => .writeIsLogin token ""
  | call => call

/-- What a step does to the places of a token, and what is left of the call, does not depend on the
login method. -/
theorem TokenCall.resume_forget {c c' : TokenCall} {s s' : SessionStore}
    (hc : c.forget = c'.forget) (hs : ∀ x, s.token x = s'.token x) (serial : ℕ) :
    (∀ x, (c.resume serial s).1.token x = (c'.resume serial s').1.token x) ∧
      (c.resume serial s).2.map forget = (c'.resume serial s').2.map forget := by
  have hstored := hs .stored
  have hassigned := hs .assigned
  refine ⟨fun x => ?_, ?_⟩
  · cases c <;> cases c' <;> cases hc <;> cases x <;> first | rfl | exact hstored | exact hassigned
  · cases c <;> cases c' <;> cases hc <;> rfl

namespace MockAPP

/-- What an event of the app is to the token calls. -/
def Event.ofProcess : Event → List Process.Event
  | .signedIn user true => [.login user]
  | .logout => [.logout]
  | .resume i serial => [.resume i serial]
  | _ => []

/-- The same tokens, and the same calls under way. -/
structure Tracks (p : MockAPP) (q : Process) : Prop where
  token : ∀ x, p.store.token x = q.store.token x
  calls : p.calls.map TokenCall.forget = q.calls.map TokenCall.forget

theorem Tracks.resume {p : MockAPP} {q : Process} (h : p.Tracks q) {i : ℕ} {call : TokenCall}
    (hcall : p.calls[i]? = some call) (serial : ℕ) :
    ∃ q', q.resume i serial = some q' ∧
      (∀ x, (call.resume serial p.store).1.token x = q'.store.token x) ∧
      ((call.resume serial p.store).2.toList ++ p.calls.eraseIdx i).map TokenCall.forget =
        q'.calls.map TokenCall.forget := by
  have hcalls : (p.calls[i]?).map TokenCall.forget = (q.calls[i]?).map TokenCall.forget := by
    rw [← List.getElem?_map, h.calls, List.getElem?_map]
  rw [hcall] at hcalls
  obtain ⟨call', hcall', hforget⟩ := Option.map_eq_some_iff.mp hcalls.symm
  obtain ⟨htoken, hrest⟩ := TokenCall.resume_forget hforget.symm h.token serial
  refine ⟨_, Process.resume_eq_some.mpr ⟨call', hcall', rfl⟩, htoken, ?_⟩
  rw [List.map_append, List.map_append, ← List.eraseIdx_map, ← List.eraseIdx_map, h.calls,
    ← Option.toList_map, ← Option.toList_map, hrest]

/-- The event is not an exception of a token call. -/
def Event.returns : Event → Prop
  | .throws _ => False
  | _ => True

theorem Tracks.step {p p' : MockAPP} {e : Event} {q : Process} (h : p.Tracks q)
    (hreturns : e.returns) (hstep : p.Step e p') :
    ∃ q', Process.machine.run q e.ofProcess = some q' ∧ p'.Tracks q' := by
  cases hstep with
  | googleButtonAction _ | phoneButtonAction _ =>
    exact ⟨q, rfl, fun x => (p.store.token_of_flag _ x).trans (h.token x), h.calls⟩
  | @signedIn user mounted _ =>
    cases mounted with
    | true =>
      refine ⟨q.login user, rfl, fun x => ?_, ?_⟩
      · exact (h.token x).trans (q.store.token_of_flag _ x).symm
      · exact congrArg (HomePageController.storeFirebaseToken user :: ·) h.calls
    | false => exact ⟨q, rfl, h.token, h.calls⟩
  | logout _ =>
    refine ⟨q.logout, rfl, h.token, ?_⟩
    exact congrArg (HomePageController.removeFirebaseToken :: ·) h.calls
  | @resumed i serial _ hcall _ =>
    obtain ⟨q', hq', htoken, hcalls⟩ := h.resume hcall serial
    exact ⟨q', Machine.run_cons.mpr ⟨q', hq', rfl⟩, htoken, hcalls⟩
  | @cleared i serial hcall =>
    obtain ⟨q', hq', htoken, hcalls⟩ := h.resume hcall serial
    exact ⟨q', Machine.run_cons.mpr ⟨q', hq', rfl⟩, htoken, hcalls⟩
  | threw _ => exact hreturns.elim
  | _ => exact ⟨q, rfl, h.token, h.calls⟩

/-- A run of the app without a stored session, as the token calls see it. -/
theorem run_tracks {currentUser : Option User} {events : List Event} {p : MockAPP}
    (hrun : machine.run (runApp {} currentUser) events = some p)
    (hreturns : ∀ e ∈ events, e.returns) :
    ∃ q, Process.machine.run {} (events.flatMap Event.ofProcess) = some q ∧ p.Tracks q :=
  Machine.run_simulates (R := Tracks)
    (fun _ _ _ _ h hreturns hstep => h.step hreturns (step_sound hstep))
    ⟨fun x => (by cases x <;> rfl), rfl⟩ hreturns hrun

/-- **The stored token of the app.** In a run of the app none of whose token calls throws, when all
of them have returned, both places hold the token of the user of the last login, or none after a
logout, if and only if no step since it began was that of an overtaken call. -/
theorem tokens_agree_iff {currentUser : Option User} {events : List Event} {p : MockAPP}
    (hrun : machine.run (runApp {} currentUser) events = some p)
    (hreturns : ∀ e ∈ events, e.returns) (hsettled : p.calls = []) :
    (∀ x, (p.store.token x).map Token.user =
        Process.lastBegun (events.flatMap Event.ofProcess)) ↔
      Process.CurrentSince (events.flatMap Event.ofProcess) := by
  obtain ⟨q, hq, htracks⟩ := run_tracks hrun hreturns
  have hcalls : q.calls = [] := by
    have hmap := htracks.calls
    rw [hsettled] at hmap
    exact List.map_eq_nil_iff.mp hmap.symm
  rw [← Process.covered_iff_currentSince hq]
  refine forall_congr' fun x => ?_
  rw [Process.covered_of_settled hcalls, htracks.token, Process.begun_run hq]

/-- A login whose token call runs to its end. -/
def aliceLogsIn : List Event :=
  [.googleButtonAction, .signedIn ⟨"alice", .google⟩ true, .resume 0 0, .resume 0 0, .resume 0 0,
    .resume 0 0, .resume 0 0]

theorem tokens_agree_iff_alice : ∃ p, machine.run (runApp {} none) aliceLogsIn = some p ∧
    p.store.token .stored = some ⟨⟨"alice", .google⟩, 0⟩ ∧
    Process.CurrentSince (aliceLogsIn.flatMap Event.ofProcess) := by
  have hreturns : ∀ e ∈ aliceLogsIn, e.returns := by simp [aliceLogsIn, Event.returns]
  obtain ⟨p, hrun, hsettled, hstored, hassigned⟩ :
      ∃ p, machine.run (runApp {} none) aliceLogsIn = some p ∧ p.calls = [] ∧
        p.store.token .stored = some ⟨⟨"alice", .google⟩, 0⟩ ∧
        p.store.token .assigned = some ⟨⟨"alice", .google⟩, 0⟩ := ⟨_, rfl, rfl, rfl, rfl⟩
  refine ⟨p, hrun, hstored, (tokens_agree_iff hrun hreturns hsettled).mp fun x => ?_⟩
  cases x with
  | stored => rw [hstored]; rfl
  | assigned => rw [hassigned]; rfl

end MockAPP
end MachineTest
