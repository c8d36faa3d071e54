import WeblogFront.Proofs.Render.Build

/-! What a build says. The cells of a request tell which questions they put and which of them failed; a
build that comes to a page tells that it did, and nothing else is said on the way. -/
namespace WeblogFront

def Signal.FromLookup : Signal → Prop
  | .asked _ => True
  | .lookupFailed _ _ _ => True
  | _ => False

variable {lookups : Site.Lookups} {request : PageRequest}

theorem Memo.ask_from_lookup {α : Type} (what : String) (question : String → Site.Question)
    (answer : String → Site.Answer α) (name : Option String) (cell : Memo α) :
    ∀ signal ∈ (cell.ask what question answer name).signals, signal.FromLookup := by
  rcases Memo.ask_cases what question answer name cell with ⟨_, silent⟩ | ⟨_, given, _, _, asked⟩
  · rw [silent]
    exact List.forall_mem_nil _
  · rw [asked]
    refine List.forall_mem_cons.mpr ⟨trivial, ?_⟩
    cases answer given with
    | error failure => exact List.forall_mem_singleton.mpr trivial
    | ok value => exact List.forall_mem_nil _

theorem PageRequest.getters_from_lookup (lookups : Site.Lookups) (request : PageRequest) :
    (∀ signal ∈ (request.entry lookups).signals, signal.FromLookup) ∧
      (∀ signal ∈ (request.template lookups).signals, signal.FromLookup) ∧
      (∀ signal ∈ (request.category lookups).signals, signal.FromLookup) ∧
      ∀ signal ∈ (request.theme lookups).signals, signal.FromLookup := by
  rw [template_ask, category_ask, theme_ask]
  refine ⟨?_, Memo.ask_from_lookup _ _ _ _ _, Memo.ask_from_lookup _ _ _ _ _,
    Memo.ask_from_lookup _ _ _ _ _⟩
  by_cases found : ∃ value, request.entryCell = .found value
  · obtain ⟨value, kept⟩ := found
    rw [entry_found kept]
    exact List.forall_mem_nil _
  · rw [entry_ask_unfound (not_exists.mp found)]
    exact Memo.ask_from_lookup _ _ _ _ _

namespace Render

theorem cells_from_lookup (lookups : Site.Lookups) (request : PageRequest) :
    let entered := (request.entry lookups).state
    let designed := (entered.template lookups).state
    let sorted := (designed.category lookups).state
    (∀ signal ∈ (request.entry lookups).signals, signal.FromLookup) ∧
      (∀ signal ∈ (entered.template lookups).signals, signal.FromLookup) ∧
      (∀ signal ∈ (designed.category lookups).signals, signal.FromLookup) ∧
      ∀ signal ∈ (sorted.theme lookups).signals, signal.FromLookup := by
  intro entered designed sorted
  exact ⟨(PageRequest.getters_from_lookup lookups request).1,
    (PageRequest.getters_from_lookup lookups entered).2.1,
    (PageRequest.getters_from_lookup lookups designed).2.2.1,
    (PageRequest.getters_from_lookup lookups sorted).2.2.2⟩

theorem within_signals (weblog : Site.Weblog) (lookups : Site.Lookups) (request : PageRequest) :
    ∀ signal ∈ (buildWithin weblog lookups request).signals, signal.FromLookup ∨ signal = .rendered := by
  obtain ⟨entry, template, category, theme⟩ := cells_from_lookup lookups request
  intro signal said
  rcases within_cases weblog lookups request rfl rfl rfl rfl with
    ⟨_, outcome⟩ | ⟨_, outcome⟩ | ⟨_, outcome⟩
  · rw [outcome] at said
    exact .inl (entry signal said)
  · rw [outcome, List.mem_append] at said
    exact .inl (said.elim (entry signal) (template signal))
  · simp only [outcome, List.mem_append, List.mem_singleton] at said
    rcases said with (((first | second) | third) | fourth) | last
    · exact .inl (entry signal first)
    · exact .inl (template signal second)
    · exact .inl (category signal third)
    · exact .inl (theme signal fourth)
    · exact .inr last

theorem build_signals (lookups : Site.Lookups) (request : PageRequest) :
    ∀ signal ∈ (build lookups request).signals, signal.FromLookup ∨ signal = .rendered := by
  unfold build
  dsimp only
  split
  · exact List.forall_mem_singleton.mpr (.inl trivial)
  · exact List.forall_mem_singleton.mpr (.inl trivial)
  · exact List.forall_mem_cons.mpr ⟨.inl trivial, within_signals _ lookups request⟩

end Render

end WeblogFront
