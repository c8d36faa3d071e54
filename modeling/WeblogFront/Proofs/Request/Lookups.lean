import WeblogFront.Request.Page

/-! The answers that a page request keeps. A cell is honest towards some lookups when it is empty or holds
what they answer for the name that the cell belongs to. Reading through an honest cell gives what a new
question would have given and leaves the cell honest; the question itself is put only by an empty cell,
and only when there is a name to ask for. -/
namespace WeblogFront

namespace Memo

section Cells

variable {α : Type} {answer : String → Site.Answer α} {name : Option String} {cell : Memo α}

def Honest (answer : String → Site.Answer α) (name : Option String) (cell : Memo α) : Prop :=
  cell = .unresolved ∨ ∃ given, name = some given ∧ cell = .ofAnswer (answer given)

/-- The record that is found under a name; without a name, or where the lookup fails, there is none. -/
def record (answer : String → Site.Answer α) (name : Option String) : Option α :=
  name.bind fun given => (ofAnswer (answer given)).value?

def ask (what : String) (question : String → Site.Question) (answer : String → Site.Answer α)
    (name : Option String) (cell : Memo α) : Step (Memo α) (Option α) :=
  match name with
  | none => ⟨cell, none, []⟩
  | some given => cell.resolve what given [.asked (question given)] (answer given)

theorem resolve_answered (what key : String) (asked : List Signal) (kept given : Site.Answer α) :
    (ofAnswer kept).resolve what key asked given = ⟨ofAnswer kept, (ofAnswer kept).value?, []⟩ := by
  match kept with
  | .ok (some _) => rfl
  | .ok none => rfl
  | .error _ => rfl

theorem Honest.ask_result (honest : cell.Honest answer name) (what : String)
    (question : String → Site.Question) :
    (cell.ask what question answer name).result = record answer name := by
  cases name with
  | none => rfl
  | some given =>
    rcases honest with rfl | ⟨_, same, rfl⟩
    · rfl
    · cases same
      exact congrArg Step.result (resolve_answered what given _ (answer given) (answer given))

theorem Honest.ask_state (honest : cell.Honest answer name) (what : String)
    (question : String → Site.Question) :
    (cell.ask what question answer name).state.Honest answer name := by
  cases name with
  | none => exact honest
  | some given =>
    refine .inr ⟨given, rfl, ?_⟩
    rcases honest with rfl | ⟨_, same, rfl⟩
    · rfl
    · cases same
      exact congrArg Step.state (resolve_answered what given _ (answer given) (answer given))

theorem ask_cases (what : String) (question : String → Site.Question)
    (answer : String → Site.Answer α) (name : Option String) (cell : Memo α) :
    ((cell.ask what question answer name).state = cell ∧
      (cell.ask what question answer name).signals = []) ∨
    (cell = .unresolved ∧ ∃ given, name = some given ∧
      (cell.ask what question answer name).state = ofAnswer (answer given) ∧
      (cell.ask what question answer name).signals =
        .asked (question given) :: report what given (answer given)) := by
  cases name with
  | none => exact .inl ⟨rfl, rfl⟩
  | some given =>
    cases cell with
    | unresolved => exact .inr ⟨rfl, given, rfl, rfl, rfl⟩
    | found value => exact .inl ⟨rfl, rfl⟩
    | missing => exact .inl ⟨rfl, rfl⟩
    | failed failure => exact .inl ⟨rfl, rfl⟩

end Cells

end Memo

namespace PageRequest

structure Honest (lookups : Site.Lookups) (request : PageRequest) : Prop where
  entry : request.entryCell.Honest (lookups.entry request.descriptor.handle)
    request.descriptor.entryAnchor
  category : request.categoryCell.Honest (lookups.category request.descriptor.handle)
    request.descriptor.category
  template : request.templateCell.Honest (lookups.template request.descriptor.handle)
    request.descriptor.customPage
  theme : request.themeCell.Honest lookups.theme request.descriptor.previewTheme

section Getters

variable {lookups : Site.Lookups} {request : PageRequest}

theorem fresh_honest (lookups : Site.Lookups) (descriptor : Descriptor) :
    (fresh descriptor).Honest lookups :=
  ⟨.inl rfl, .inl rfl, .inl rfl, .inl rfl⟩

theorem entry_found {value : Site.Entry} (kept : request.entryCell = .found value) :
    request.entry lookups = ⟨request, some value, []⟩ := by
  unfold entry
  rw [kept]

theorem entry_ask_unfound (unfound : ∀ value, request.entryCell ≠ .found value) :
    request.entry lookups =
      let step := request.entryCell.ask "entry" (.entry request.descriptor.handle)
        (lookups.entry request.descriptor.handle) request.descriptor.entryAnchor
      ⟨{ request with entryCell := step.state }, step.result, step.signals⟩ := by
  unfold entry Memo.ask
  split
  case h_1 value kept => exact absurd kept (unfound value)
  case h_2 => cases request.descriptor.entryAnchor <;> rfl

-- An entry may be given outright, for no name at all; only then is there a record without a question.
theorem entry_ask_named (named : ∀ value, request.entryCell = .found value →
      ∃ anchor, request.descriptor.entryAnchor = some anchor) :
    request.entry lookups =
      let step := request.entryCell.ask "entry" (.entry request.descriptor.handle)
        (lookups.entry request.descriptor.handle) request.descriptor.entryAnchor
      ⟨{ request with entryCell := step.state }, step.result, step.signals⟩ := by
  by_cases found : ∃ value, request.entryCell = .found value
  · obtain ⟨value, kept⟩ := found
    obtain ⟨anchor, given⟩ := named value kept
    simp only [entry_found kept, Memo.ask, given, kept, Memo.resolve, Memo.value?]
    rw [← kept]
  · exact entry_ask_unfound (not_exists.mp found)

theorem entry_ask (honest : request.Honest lookups) :
    request.entry lookups =
      let step := request.entryCell.ask "entry" (.entry request.descriptor.handle)
        (lookups.entry request.descriptor.handle) request.descriptor.entryAnchor
      ⟨{ request with entryCell := step.state }, step.result, step.signals⟩ := by
  apply entry_ask_named
  intro value kept
  rcases honest.entry with empty | ⟨anchor, named, _⟩
  · cases kept.symm.trans empty
  · exact ⟨anchor, named⟩

theorem category_ask (lookups : Site.Lookups) (request : PageRequest) :
    request.category lookups =
      let step := request.categoryCell.ask "category" (.category request.descriptor.handle)
        (lookups.category request.descriptor.handle) request.descriptor.category
      ⟨{ request with categoryCell := step.state }, step.result, step.signals⟩ := by
  unfold category Memo.ask
  cases request.descriptor.category <;> rfl

theorem template_ask (lookups : Site.Lookups) (request : PageRequest) :
    request.template lookups =
      let step := request.templateCell.ask "template" (.template request.descriptor.handle)
        (lookups.template request.descriptor.handle) request.descriptor.customPage
      ⟨{ request with templateCell := step.state }, step.result, step.signals⟩ := by
  unfold template Memo.ask
  cases request.descriptor.customPage <;> rfl

theorem theme_ask (lookups : Site.Lookups) (request : PageRequest) :
    request.theme lookups =
      let step := request.themeCell.ask "theme" .theme lookups.theme request.descriptor.previewTheme
      ⟨{ request with themeCell := step.state }, step.result, step.signals⟩ := by
  unfold theme Memo.ask
  cases request.descriptor.previewTheme <;> rfl

theorem Honest.entry_state (honest : request.Honest lookups) :
    (request.entry lookups).state.Honest lookups := by
  rw [entry_ask honest]
  exact { honest with entry := honest.entry.ask_state _ _ }

theorem Honest.category_state (honest : request.Honest lookups) :
    (request.category lookups).state.Honest lookups := by
  rw [category_ask]
  exact { honest with category := honest.category.ask_state _ _ }

theorem Honest.template_state (honest : request.Honest lookups) :
    (request.template lookups).state.Honest lookups := by
  rw [template_ask]
  exact { honest with template := honest.template.ask_state _ _ }

theorem Honest.theme_state (honest : request.Honest lookups) :
    (request.theme lookups).state.Honest lookups := by
  rw [theme_ask]
  exact { honest with theme := honest.theme.ask_state _ _ }

end Getters

end PageRequest

end WeblogFront
