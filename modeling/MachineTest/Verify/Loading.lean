import MachineTest.Pages.Fetching

/-! # The loading flag

`isLoading` is one flag for all the fetches. Of the ways a fetch can end only a `SocketException`
and a decoded body clear it, and they clear it even while another fetch is outstanding. So the flag
is right all along a run if and only if the responses that clear it are those to the last
outstanding fetch. -/

namespace MachineTest

variable {D : Type} [Zero D] [IntCast D]

namespace Phone

/-- `isLoading` is set exactly while a fetch is outstanding. -/
def LoadingTrue (p : Phone D) : Prop :=
  p.memory.isLoading = true ↔ 0 < p.outstanding

/-- A response clears the flag exactly if it is the response to the last outstanding fetch. -/
def ClearsLast (p : Phone D) : Event D → Prop
  | .respond response => response.clears = true ↔ p.outstanding = 1
  | _ => True

/-- The state after the first home page was created. -/
def firstFetch : Phone D where
  memory := HomePageController.fetchAPIData {}
  page := some .home
  outstanding := 1

variable [DecidableEq D] [DartDouble D] [Add D] [Sub D] [Mul D]

theorem isLoading_tap {app app' : App D} {tap : Tap} (h : app.Step tap app') :
    app'.memory.isLoading = app.memory.isLoading := by
  cases h <;> rfl

/-- From a state with a right flag an event leads to one if and only if it clears the flag with the
last fetch. -/
theorem loadingTrue_step {p p' : Phone D} {e : Event D} (h : p.LoadingTrue)
    (hstep : p.step e = some p') : p'.LoadingTrue ↔ p.ClearsLast e := by
  cases e with
  | createHomePage =>
    cases hstep
    exact iff_of_true (iff_of_true rfl (Nat.succ_pos _)) trivial
  | respond response =>
    obtain ⟨hne, hstep⟩ : p.outstanding ≠ 0 ∧ _ = p' := by
      simpa [step] using hstep
    have hloading : p.memory.isLoading = true := h.mpr (Nat.pos_of_ne_zero hne)
    subst hstep
    rw [LoadingTrue, ClearsLast, HomePageController.isLoading_fetchAPIDataResume, hloading]
    cases response.clears with
    | true => simp; omega
    | false => simp; omega
  | tap tap =>
    cases step_sound hstep with
    | tap _ happ =>
      refine iff_of_true ?_ trivial
      rw [LoadingTrue, isLoading_tap happ]
      exact h
  | leave =>
    cases step_sound hstep with
    | left => exact iff_of_true h trivial

/-- **The loading flag.** From the first fetch on, `isLoading` is set exactly while a fetch is
outstanding, in every state of a run, if and only if the responses that clear it are those to the
last outstanding fetch. -/
theorem loadingTrue_iff (events : List (Event D)) :
    (machine D).AlongStates LoadingTrue firstFetch events ↔
      (machine D).AlongSteps ClearsLast firstFetch events :=
  Machine.alongStates_iff (I := LoadingTrue) (fun _ h => h)
    (fun _ _ _ h hclears hstep => (loadingTrue_step h hstep).mpr hclears)
    (fun _ _ _ h hstep h' => (loadingTrue_step h hstep).mp h') (iff_of_true rfl Nat.one_pos)

/-- The only request fails with an exception that is not caught, and the page loads for ever. Of two
requests the first is refused, and the page stops loading with the second outstanding. -/
theorem loading_wrong :
    (∃ p, (machine ℚ).run firstFetch [.respond .otherException] = some p ∧
      p.memory.isLoading = true ∧ p.outstanding = 0) ∧
    ∃ p, (machine ℚ).run firstFetch [.leave, .createHomePage, .respond .socketException] = some p ∧
      p.memory.isLoading = false ∧ p.outstanding = 1 :=
  ⟨⟨_, rfl, rfl, rfl⟩, _, rfl, rfl, rfl⟩

end Phone
end MachineTest
