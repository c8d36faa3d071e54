import WeblogFront.Proofs.Cache.Store
import Mathlib.Data.Finset.Card

/-! What a look-up leaves behind, and where an entry stands on a shelf. In front of it are only
entries that were stored or read after it was, each under a key of its own. So it is the last one on a
full shelf only when as many other keys were used since as the shelf has room for, and before that no
new key can cost it. -/
namespace WeblogFront.Cache

theorem Entry.alive_earlier {α : Type} {entry : Entry α} {now later : Nat} (before : now ≤ later)
    (alive : entry.isExpired later = false) : entry.isExpired now = false := by
  simp only [Entry.isExpired, decide_eq_false_iff_not, Nat.not_le] at alive ⊢
  omega

namespace Store

section Searches

variable {α : Type} {store : Store α} {shelf : Shelf α}

theorem get_cases (placed : store.shelf = some shelf) (now : Nat) (key : String)
    {step : Step (Store α) (Option α)} (looked : store.get now key = step) :
    (shelf.find? key = none ∧ step.state = { store with shelf := some shelf } ∧ step.result = none) ∨
    (∃ entry, shelf.find? key = some entry ∧ entry.isExpired now = true ∧
      step.state = { store with shelf := some (shelf.without key) } ∧ step.result = none) ∨
    (∃ entry, shelf.find? key = some entry ∧ entry.isExpired now = false ∧
      step.state = { store with shelf := some (shelf.placeFirst key entry) } ∧
      step.result = some entry.value) := by
  subst looked
  unfold Store.get Store.locked
  rw [placed]
  cases found : shelf.find? key with
  | none => exact .inl ⟨rfl, by simp [found]⟩
  | some entry =>
    refine .inr ?_
    cases expiry : entry.isExpired now with
    | true => exact .inl ⟨entry, rfl, expiry, by simp [found, Entry.value?, expiry]⟩
    | false => exact .inr ⟨entry, rfl, expiry, by simp [found, Entry.value?, expiry]⟩

end Searches

end Store

namespace Shelf

variable {α : Type} {shelf : Shelf α} {key : String} {entry : Entry α}

-- What is under the key of a new entry makes way for it.
theorem mem_put {stored : String × Entry α} (member : stored ∈ (shelf.put key entry).entries) :
    stored = (key, entry) ∨ stored.1 ≠ key ∧ stored ∈ shelf.entries := by
  have others : ∀ kept : Shelf α, kept.entries ⊆ shelf.entries →
      stored ∈ (kept.placeFirst key entry).entries →
        stored = (key, entry) ∨ stored.1 ≠ key ∧ stored ∈ shelf.entries := by
    intro kept subset placed
    rcases List.mem_cons.mp placed with same | older
    · exact .inl same
    · obtain ⟨member, different⟩ := List.mem_filter.mp older
      exact .inr ⟨bne_iff_ne.mp different, subset member⟩
  unfold put at member
  split at member
  · exact others shelf.dropLast (List.dropLast_subset shelf.entries) member
  · exact others shelf (List.Subset.refl _) member

theorem find_none_iff : shelf.find? key = none ↔ ∀ stored ∈ shelf.entries, stored.1 ≠ key := by
  rw [find?, List.lookup_eq_none_iff]
  refine forall₂_congr fun stored _ => ?_
  rw [bne_iff_ne]
  exact ne_comm

theorem find_without (shelf : Shelf α) (key : String) : (shelf.without key).find? key = none :=
  find_none_iff.mpr fun _ member => bne_iff_ne.mp (List.mem_filter.mp member).2

theorem capacity_put : (shelf.put key entry).capacity = shelf.capacity := by
  unfold put
  split <;> rfl

/-- The entry is on the shelf, and what stands in front of it is under keys out of some others. -/
def Stands (others : Finset String) (key : String) (entry : Entry α) (shelf : Shelf α) : Prop :=
  ∃ front back, shelf.entries = front ++ (key, entry) :: back ∧ (front.map (·.1)).Nodup ∧
    ∀ stored ∈ front, stored.1 ∈ others

section Standing

variable {others : Finset String} {used : String} {other : Entry α}

theorem stands_first (others : Finset String) (key : String) (entry : Entry α) (shelf : Shelf α) :
    (shelf.placeFirst key entry).Stands others key entry :=
  ⟨[], (shelf.without key).entries, rfl, List.nodup_nil, List.forall_mem_nil _⟩

theorem Stands.mono {more : Finset String} (stands : shelf.Stands others key entry)
    (subset : others ⊆ more) : shelf.Stands more key entry := by
  obtain ⟨front, back, whole, distinct, fresh⟩ := stands
  exact ⟨front, back, whole, distinct, fun stored member => subset (fresh stored member)⟩

theorem Stands.find (stands : shelf.Stands others key entry) (own : key ∉ others) :
    shelf.find? key = some entry := by
  obtain ⟨front, back, whole, _, fresh⟩ := stands
  rw [find?, List.lookup_eq_some_iff]
  refine ⟨front, back, whole, fun stored member => ?_⟩
  rw [bne_iff_ne]
  rintro rfl
  exact own (fresh stored member)

theorem Stands.without (stands : shelf.Stands others key entry) (different : used ≠ key) :
    (shelf.without used).Stands others key entry := by
  obtain ⟨front, back, whole, distinct, fresh⟩ := stands
  refine ⟨front.filter fun stored => stored.1 != used, back.filter fun stored => stored.1 != used,
    ?_, ?_, fun stored member => fresh stored (List.mem_of_mem_filter member)⟩
  · simp [Shelf.without, whole, Ne.symm different]
  · exact distinct.sublist (List.filter_sublist.map _)

theorem Stands.placeFirst (stands : shelf.Stands others key entry) (different : used ≠ key)
    (fresh : used ∈ others) : (shelf.placeFirst used other).Stands others key entry := by
  obtain ⟨front, back, whole, distinct, before⟩ := stands.without different
  have unused := find_none_iff.mp (shelf.find_without used)
  refine ⟨(used, other) :: front, back, ?_, ?_, List.forall_mem_cons.mpr ⟨fresh, before⟩⟩
  · rw [Shelf.placeFirst, whole]
    rfl
  · refine List.nodup_cons.mpr ⟨fun member => ?_, distinct⟩
    obtain ⟨stored, placed, same⟩ := List.mem_map.mp member
    refine unused stored ?_ same
    rw [whole]
    exact List.mem_append_left _ placed

-- Were the entry the last one, then the others would be as many as the shelf has room for.
theorem Stands.dropLast (stands : shelf.Stands others key entry) (evicts : shelf.evicts used = true)
    (fresh : used ∈ others) (room : others.card < shelf.capacity) :
    shelf.dropLast.Stands others key entry := by
  obtain ⟨front, back, whole, distinct, before⟩ := stands
  obtain ⟨absent, full⟩ := Bool.and_eq_true_iff.mp evicts
  have unused := find_none_iff.mp (Option.isNone_iff_eq_none.mp absent)
  have crowd : (used :: front.map (·.1)).length ≤ others.card := by
    have apart : (used :: front.map (·.1)).Nodup := by
      refine List.nodup_cons.mpr ⟨fun member => ?_, distinct⟩
      obtain ⟨stored, placed, same⟩ := List.mem_map.mp member
      refine unused stored ?_ same
      rw [whole]
      exact List.mem_append_left _ placed
    rw [← List.toFinset_card_of_nodup apart]
    apply Finset.card_le_card
    intro name member
    rcases List.mem_cons.mp (List.mem_toFinset.mp member) with rfl | earlier
    · exact fresh
    · obtain ⟨stored, placed, rfl⟩ := List.mem_map.mp earlier
      exact before stored placed
  cases back using List.reverseRecOn with
  | nil =>
    have length : shelf.entries.length = front.length + 1 := by rw [whole, List.length_append]; rfl
    have full := of_decide_eq_true full
    rw [List.length_cons, List.length_map] at crowd
    omega
  | append_singleton rest last =>
    refine ⟨front, rest, ?_, distinct, before⟩
    rw [Shelf.dropLast, whole, ← List.cons_append, ← List.append_assoc, List.dropLast_concat]

theorem Stands.put (stands : shelf.Stands others key entry) (different : used ≠ key)
    (fresh : used ∈ others) (room : others.card < shelf.capacity) :
    (shelf.put used other).Stands others key entry := by
  unfold Shelf.put
  split
  case isTrue evicts => exact (stands.dropLast evicts fresh room).placeFirst different fresh
  case isFalse => exact stands.placeFirst different fresh

end Standing

end Shelf

end WeblogFront.Cache
