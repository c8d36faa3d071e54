import WeblogFront.Cache.Store
import Mathlib.Data.List.Basic

/-! What holds of every entry of a store. A property of key and value is kept by an operation unless the
operation stores a new value, and then it is enough that the new value has it: a look-up only moves
or drops entries, and a full shelf makes room by dropping one. What a hit returns has the property,
for its key is the key that was asked for. -/
namespace WeblogFront.Cache

section Shelves

variable {α : Type} {holds : String → α → Prop} {shelf : Shelf α}

namespace Shelf

def Keeps (holds : String → α → Prop) (shelf : Shelf α) : Prop :=
  ∀ stored ∈ shelf.entries, holds stored.1 stored.2.value

theorem mem_of_find {key : String} {entry : Entry α} (found : shelf.find? key = some entry) :
    (key, entry) ∈ shelf.entries := by
  rw [find?, List.lookup_eq_some_iff] at found
  obtain ⟨before, after, whole, _⟩ := found
  rw [whole]
  exact List.mem_append_right before List.mem_cons_self

theorem Keeps.of_subset {other : Shelf α} (keeps : shelf.Keeps holds)
    (subset : other.entries ⊆ shelf.entries) : other.Keeps holds :=
  fun stored member => keeps stored (subset member)

theorem Keeps.without (keeps : shelf.Keeps holds) (key : String) : (shelf.without key).Keeps holds :=
  keeps.of_subset (List.filter_subset_self _)

theorem Keeps.dropLast (keeps : shelf.Keeps holds) : shelf.dropLast.Keeps holds :=
  keeps.of_subset (List.dropLast_subset shelf.entries)

theorem Keeps.placeFirst (keeps : shelf.Keeps holds) {key : String} {entry : Entry α}
    (new : holds key entry.value) : (shelf.placeFirst key entry).Keeps holds := by
  intro stored member
  rcases List.mem_cons.mp member with rfl | older
  · exact new
  · exact keeps.without key stored older

theorem Keeps.put (keeps : shelf.Keeps holds) {key : String} {entry : Entry α}
    (new : holds key entry.value) : (shelf.put key entry).Keeps holds := by
  unfold Shelf.put
  split
  · exact keeps.dropLast.placeFirst new
  · exact keeps.placeFirst new

theorem Keeps.find (keeps : shelf.Keeps holds) {key : String} {entry : Entry α}
    (found : shelf.find? key = some entry) : holds key entry.value :=
  keeps (key, entry) (mem_of_find found)

theorem find_put (shelf : Shelf α) (key : String) (entry : Entry α) :
    (shelf.put key entry).find? key = some entry := by
  unfold Shelf.put
  split <;> exact List.lookup_cons_self

end Shelf

end Shelves

section Stores

variable {α β : Type} {holds : String → α → Prop} {store : Store α}

theorem Entry.value_of_alive {entry : Entry α} {now : Nat} {value : α}
    (alive : entry.value? now = some value) : entry.value = value := by
  unfold Entry.value? at alive
  split at alive
  · cases alive
  · exact Option.some.inj alive

namespace Store

def Keeps (holds : String → α → Prop) (store : Store α) : Prop :=
  ∀ shelf, store.shelf = some shelf → shelf.Keeps holds

theorem keeps_new (holds : String → α → Prop) (id : String) (settings : Settings) :
    (new id settings).Keeps holds := by
  intro shelf placed
  unfold new at placed
  split at placed
  · cases placed
    exact fun stored member => absurd member List.not_mem_nil
  · cases placed

theorem Keeps.mono {weaker : String → α → Prop} (keeps : store.Keeps holds)
    (implies : ∀ key value, holds key value → weaker key value) : store.Keeps weaker :=
  fun shelf placed stored member => implies stored.1 stored.2.value (keeps shelf placed stored member)

theorem Keeps.locked (keeps : store.Keeps holds) {operation : CacheOperation} {idle : β}
    {act : Shelf α → Step (Shelf α) β}
    (acts : ∀ shelf, shelf.Keeps holds → (act shelf).state.Keeps holds) :
    (store.locked operation idle act).state.Keeps holds := by
  intro shelf placed
  unfold Store.locked at placed
  cases present : store.shelf with
  | none =>
    rw [present] at placed
    exact keeps shelf placed
  | some before =>
    rw [present] at placed
    cases placed
    exact acts before (keeps before present)

theorem Keeps.get (keeps : store.Keeps holds) (now : Nat) (key : String) :
    (store.get now key).state.Keeps holds := by
  apply keeps.locked
  intro shelf kept
  cases found : shelf.find? key with
  | none => exact kept
  | some entry =>
    dsimp only
    cases entry.value? now with
    | none => exact kept.without key
    | some value => exact kept.placeFirst (kept.find found)

theorem Keeps.putFor (keeps : store.Keeps holds) {now : Nat} {key : String} {value : α}
    {lifetime : Nat} (new : holds key value) :
    (store.putFor now key value lifetime).state.Keeps holds :=
  keeps.locked fun _ kept => kept.put new

theorem Keeps.put (keeps : store.Keeps holds) {now : Nat} {key : String} {value : α}
    (new : holds key value) : (store.put now key value).state.Keeps holds :=
  keeps.putFor new

theorem Keeps.remove (keeps : store.Keeps holds) (key : String) :
    (store.remove key).state.Keeps holds :=
  keeps.locked fun _ kept => kept.without key

theorem Keeps.clear (keeps : store.Keeps holds) : store.clear.state.Keeps holds :=
  keeps.locked fun _ kept => kept.of_subset (List.nil_subset _)

-- The entry is found under the key that was asked for, so the property holds of this very key.
theorem Keeps.hit (keeps : store.Keeps holds) {now : Nat} {key : String} {value : α}
    (hit : (store.get now key).result = some value) : holds key value := by
  unfold Store.get Store.locked at hit
  cases placed : store.shelf with
  | none => simp [placed] at hit
  | some shelf =>
    cases found : shelf.find? key with
    | none => simp [placed, found] at hit
    | some entry =>
      cases alive : entry.value? now with
      | none => simp [placed, found, alive] at hit
      | some held =>
        simp only [placed, found, alive, Option.some.injEq] at hit
        rw [← hit, ← Entry.value_of_alive alive]
        exact (keeps shelf placed).find found

theorem enabled_locked (store : Store α) (operation : CacheOperation) (idle : β)
    (act : Shelf α → Step (Shelf α) β) :
    (store.locked operation idle act).state.isEnabled = store.isEnabled := by
  unfold Store.locked isEnabled
  cases placed : store.shelf with
  | none => rw [placed]
  | some shelf => rfl

theorem timeout_locked (store : Store α) (operation : CacheOperation) (idle : β)
    (act : Shelf α → Step (Shelf α) β) :
    (store.locked operation idle act).state.timeout = store.timeout := by
  unfold Store.locked
  cases store.shelf <;> rfl

theorem get_put {now later : Nat} {key : String} {value : α} (enabled : store.isEnabled = true)
    (alive : later - now < store.timeout) :
    ((store.put now key value).state.get later key).result = some value := by
  obtain ⟨shelf, placed⟩ := Option.isSome_iff_exists.mp enabled
  have unexpired : (Entry.mk value now store.timeout).value? later = some value := by
    simp [Entry.value?, Entry.isExpired, alive]
  simp [Store.get, Store.put, Store.putFor, Store.locked, placed, Shelf.find_put, unexpired]

end Store

end Stores

end WeblogFront.Cache
