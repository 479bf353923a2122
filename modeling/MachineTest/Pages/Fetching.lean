import MachineTest.Pages.App
import MachineTest.Pages.HomePageController

/-! # Home pages that come and go

The app while fetches are outstanding. Every home page that is created starts a `fetchAPIData`, and
going back from it leaves the call waiting. What a call does when its response arrives does not
depend on the page or the call that made the request, so the state only counts the calls. -/

namespace MachineTest

/-- The singleton, the page on top (`none` on the login pages), and the number of outstanding
fetches. -/
structure Phone (D : Type) where
  memory : Memory D := {}
  page : Option (Page D) := none
  outstanding : ℕ := 0

namespace Phone

inductive Event (D : Type) where
  /-- A home page is created and replaces the page on top. -/
  | createHomePage
  /-- The response to an outstanding request arrives. -/
  | respond (response : Response D)
  | tap (tap : Tap)
  /-- Back from the home page to the login page. -/
  | leave

variable {D : Type} [DecidableEq D] [DartDouble D] [Zero D] [Add D] [Sub D] [Mul D] [IntCast D]

/-- `mainWidget` shows tabs only for `menuModel[0]`. Otherwise it shows a loading indicator, or
fails to build when the list is empty. In a release build a tab needs no name. -/
def showsTabs (s : Memory D) : Bool := (s.menuModel.bind List.head?).isSome

def step (p : Phone D) : Event D → Option (Phone D)
  | .createHomePage => some
      { memory := HomePageController.fetchAPIData p.memory
        page := some .home
        outstanding := p.outstanding + 1 }
  | .respond response =>
    if p.outstanding = 0 then none
    else some { p with
      memory := HomePageController.fetchAPIDataResume response p.memory
      outstanding := p.outstanding - 1 }
  | .tap tap =>
    match p.page with
    | none => none
    | some page =>
      if page = .home ∧ showsTabs p.memory = false then none
      else (App.step ⟨p.memory, page⟩ tap).map fun app =>
        { p with memory := app.memory, page := some app.page }
  | .leave => if p.page = some .home then some { p with page := none } else none

def machine (D : Type) [DecidableEq D] [DartDouble D] [Zero D] [Add D] [Sub D] [Mul D]
    [IntCast D] : Machine (Phone D) (Event D) where
  step := step

end Phone

/-! ## What an event does -/

section
variable {D : Type} [DecidableEq D] [DartDouble D] [Zero D] [Add D] [Sub D] [Mul D] [IntCast D]

omit [DecidableEq D] [DartDouble D] [Add D] [Sub D] [Mul D] in
/-- A response installs its menus, or changes nothing but `isLoading`. -/
theorem HomePageController.fetchAPIDataResume_cases (response : Response D) (s : Memory D) :
    (∃ tree menus, response = .body tree ∧ tree.bind menuModelOfTree = .ok menus ∧
      fetchAPIDataResume response s = { s.install menus with isLoading := false }) ∨
    ((∀ tree menus, response = .body tree → tree.bind menuModelOfTree ≠ .ok menus) ∧
      ∃ isLoading, fetchAPIDataResume response s = { s with isLoading }) := by
  cases response with
  | socketException => exact .inr ⟨fun _ _ h => (nomatch h), false, rfl⟩
  | otherException => exact .inr ⟨fun _ _ h => (nomatch h), s.isLoading, rfl⟩
  | body tree =>
    cases hmenus : tree.bind menuModelOfTree with
    | ok menus => exact .inl ⟨tree, menus, rfl, hmenus, fetchAPIDataResume_ok hmenus s⟩
    | error e =>
      refine .inr ⟨fun tree' menus h h' => ?_, s.isLoading, by rw [fetchAPIDataResume, hmenus]⟩
      cases h
      rw [hmenus] at h'
      cases h'

namespace Phone

/-- The events of the app, by what they do. -/
inductive Step : Phone D → Event D → Phone D → Prop
  | created {p : Phone D} : Step p .createHomePage
      { memory := HomePageController.fetchAPIData p.memory, page := some .home
        outstanding := p.outstanding + 1 }
  | installed {p : Phone D} {tree : Except DartError (Json D)}
    {menus : List (MenuModel (CategoryDish D))} {outstanding : ℕ} :
    tree.bind menuModelOfTree = .ok menus → Step p (.respond (.body tree))
      { p with memory := { p.memory.install menus with isLoading := false }, outstanding }
  | rejected {p : Phone D} {response : Response D} {isLoading : Bool} {outstanding : ℕ} :
    (∀ tree menus, response = .body tree → tree.bind menuModelOfTree ≠ .ok menus) →
    Step p (.respond response) { p with memory := { p.memory with isLoading }, outstanding }
  | tap {p : Phone D} {page : Page D} {tap : Tap} {app : App D} :
    (page = .home → showsTabs p.memory = true) → App.Step ⟨p.memory, page⟩ tap app →
    Step p (.tap tap) { p with memory := app.memory, page := some app.page }
  | left {p : Phone D} : Step p .leave { p with page := none }

theorem step_sound {p p' : Phone D} {e : Event D} (h : p.step e = some p') : Step p e p' := by
  cases e with
  | createHomePage => cases h; exact .created
  | respond response =>
    rw [step] at h
    split at h
    · cases h
    cases h
    rcases HomePageController.fetchAPIDataResume_cases response p.memory with
      ⟨tree, menus, rfl, hmenus, hs⟩ | ⟨hrejected, isLoading, hs⟩
    · rw [hs]
      exact .installed hmenus
    · rw [hs]
      exact .rejected hrejected
  | tap tap =>
    rw [step] at h
    split at h
    · cases h
    rename_i page _
    split at h
    · cases h
    rename_i hguard
    obtain ⟨app, happ, rfl⟩ := Option.map_eq_some_iff.mp h
    refine .tap (fun hhome => ?_) (App.step_sound happ)
    exact Bool.eq_true_of_not_eq_false fun hfalse => hguard ⟨hhome, hfalse⟩
  | leave =>
    rw [step] at h
    split at h
    · cases h; exact .left
    · cases h

end Phone
end
end MachineTest
