import WeblogFront.Proofs.Cache.LockRecovery

/-! What a store says while it is used. It speaks of itself alone, by its own name; and while nobody has
broken off it has nothing to say to the log. -/
namespace WeblogFront

def Signal.FromStore (id : String) : Signal → Prop
  | .hit cache => cache = id
  | .miss cache => cache = id
  | .expired cache => cache = id
  | .evicted cache => cache = id
  | .lockRecovered cache _ => cache = id
  | _ => False

namespace Cache.Store

variable {α β : Type} {store : Store α}

section Voices

theorem id_locked (store : Store α) (operation : CacheOperation) (idle : β)
    (act : Shelf α → Step (Shelf α) β) :
    (store.locked operation idle act).state.id = store.id := by
  unfold Store.locked
  cases store.shelf <;> rfl

theorem locked_from_store (store : Store α) (operation : CacheOperation) (idle : β)
    {act : Shelf α → Step (Shelf α) β}
    (own : ∀ shelf, ∀ signal ∈ (act shelf).signals, signal.FromStore store.id) :
    ∀ signal ∈ (store.locked operation idle act).signals, signal.FromStore store.id := by
  unfold Store.locked
  cases store.shelf with
  | none => exact List.forall_mem_nil _
  | some shelf =>
    refine List.forall_mem_append.mpr ⟨?_, own shelf⟩
    unfold lockSignals
    split
    · exact List.forall_mem_singleton.mpr rfl
    · exact List.forall_mem_nil _

theorem get_from_store (store : Store α) (now : Nat) (key : String) :
    ∀ signal ∈ (store.get now key).signals, signal.FromStore store.id := by
  apply locked_from_store
  intro shelf
  split
  · exact List.forall_mem_singleton.mpr rfl
  · split <;> exact List.forall_mem_singleton.mpr rfl

theorem put_for_from_store (store : Store α) (now : Nat) (key : String) (value : α) (lifetime : Nat) :
    ∀ signal ∈ (store.putFor now key value lifetime).signals, signal.FromStore store.id := by
  apply locked_from_store
  intro shelf
  dsimp only
  split
  · exact List.forall_mem_singleton.mpr rfl
  · exact List.forall_mem_nil _

theorem take_with_from_store (store : Store α) (now : Nat) (key : String) (judge : α → Verdict) :
    ∀ signal ∈ (store.takeWith now key judge).signals, signal.FromStore store.id := by
  apply locked_from_store
  intro shelf
  split
  · exact List.forall_mem_singleton.mpr rfl
  · split
    · exact List.forall_mem_singleton.mpr rfl
    · split
      · exact List.forall_mem_singleton.mpr rfl
      · exact List.forall_mem_nil _
      · exact List.forall_mem_nil _

end Voices

section Sound

theorem sound_new (id : String) (settings : Settings) :
    (new id settings : Store α).isPoisoned = false := by
  unfold new isPoisoned
  split <;> rfl

theorem sound_visit (sound : store.isPoisoned = false) (visit : Visit α)
    (whole : (attend store visit).result.brokeOff = false) :
    events (attend store visit).signals = [] ∧ (attend store visit).state.isPoisoned = false ∧
      (attend store visit).state.timeout = store.timeout := by
  obtain ⟨id, timeout, shelf⟩ := store
  cases shelf with
  | none =>
    obtain ⟨now, deed | _⟩ := visit
    · cases deed <;> exact ⟨rfl, rfl, rfl⟩
    · exact ⟨rfl, rfl, rfl⟩
  | some shelf =>
    obtain ⟨capacity, poisoned, entries⟩ := shelf
    obtain rfl : poisoned = false := sound
    obtain ⟨left, answer, signals, comes⟩ := visit_comes_to id timeout capacity entries visit
    rw [comes.step] at whole ⊢
    exact ⟨comes.plain.1, whole, rfl⟩

end Sound

end Cache.Store

end WeblogFront
