import WeblogFront.Cache.Settings
import WeblogFront.Signal

/-! An expiring store of bounded size. Its entries stand in the order of their last use, the most recent
first, each under a key of its own; when a new key finds the store full, the last entry makes room.
An entry lives for its lifetime from the moment it was stored, and reading does not prolong it. A
disabled store keeps nothing and says nothing.

All operations go through one lock. When a caller breaks off while it holds the lock, the lock is
poisoned for good: the entries are as they were, and every later operation reports the recovery. -/
namespace WeblogFront.Cache

structure Entry (α : Type) where
  value : α
  storedAt : Nat
  lifetime : Nat
  deriving DecidableEq

namespace Entry

def isExpired (now : Nat) (entry : Entry α) : Bool :=
  entry.lifetime ≤ now - entry.storedAt

def value? (now : Nat) (entry : Entry α) : Option α :=
  if entry.isExpired now then none else some entry.value

end Entry

structure Shelf (α : Type) where
  capacity : Nat
  poisoned : Bool
  entries : List (String × Entry α)
  deriving DecidableEq

namespace Shelf

def find? (shelf : Shelf α) (key : String) : Option (Entry α) :=
  shelf.entries.lookup key

def without (shelf : Shelf α) (key : String) : Shelf α :=
  { shelf with entries := shelf.entries.filter fun stored => stored.1 != key }

def placeFirst (shelf : Shelf α) (key : String) (entry : Entry α) : Shelf α :=
  { shelf with entries := (key, entry) :: (shelf.without key).entries }

def dropLast (shelf : Shelf α) : Shelf α :=
  { shelf with entries := shelf.entries.dropLast }

/-- A new key on a full shelf costs the least recently used entry. -/
def evicts (shelf : Shelf α) (key : String) : Bool :=
  (shelf.find? key).isNone && shelf.capacity ≤ shelf.entries.length

def put (shelf : Shelf α) (key : String) (entry : Entry α) : Shelf α :=
  if shelf.evicts key then shelf.dropLast.placeFirst key entry else shelf.placeFirst key entry

end Shelf

structure Store (α : Type) where
  id : String
  timeout : Nat
  shelf : Option (Shelf α)
  deriving DecidableEq

inductive Verdict where
  | accepted
  | rejected
  | brokeOff
  deriving DecidableEq

inductive Taking (α : Type) where
  | nothing
  | taken (value : α)
  | brokeOff
  deriving DecidableEq

def Taking.value? : Taking α → Option α
  | .taken value => some value
  | _ => none

namespace Store

def new (id : String) (settings : Settings) : Store α where
  id := id
  timeout := settings.timeout
  shelf := if settings.enabled then some ⟨settings.capacity, false, []⟩ else none

def openingSignals (id : String) (settings : Settings) : List Signal :=
  if settings.enabled then [] else [.cachingDisabled id]

def isEnabled (store : Store α) : Bool :=
  store.shelf.isSome

/-- The report that a poisoned lock makes each time it is taken. -/
def lockSignals (id : String) (shelf : Shelf α) (operation : CacheOperation) : List Signal :=
  if shelf.poisoned then [.lockRecovered id operation] else []

def locked (store : Store α) (operation : CacheOperation) (idle : β)
    (act : Shelf α → Step (Shelf α) β) : Step (Store α) β :=
  match store.shelf with
  | none => ⟨store, idle, []⟩
  | some shelf =>
    let step := act shelf
    ⟨{ store with shelf := some step.state }, step.result,
      lockSignals store.id shelf operation ++ step.signals⟩

/-- A hit makes the entry the most recent one; an expired entry is dropped when it is touched. -/
def get (store : Store α) (now : Nat) (key : String) : Step (Store α) (Option α) :=
  store.locked .get none fun shelf =>
    match shelf.find? key with
    | none => ⟨shelf, none, [.miss store.id]⟩
    | some entry =>
      match entry.value? now with
      | none => ⟨shelf.without key, none, [.expired store.id]⟩
      | some value => ⟨shelf.placeFirst key entry, some value, [.hit store.id]⟩

/-- The lifetime asked for counts only below the timeout of the store. -/
def putFor (store : Store α) (now : Nat) (key : String) (value : α) (lifetime : Nat) :
    Step (Store α) Unit :=
  store.locked .put () fun shelf =>
    ⟨shelf.put key ⟨value, now, min lifetime store.timeout⟩, (),
      if shelf.evicts key then [.evicted store.id] else []⟩

def put (store : Store α) (now : Nat) (key : String) (value : α) : Step (Store α) Unit :=
  store.putFor now key value store.timeout

/-- Look, judge and remove under one lock. A rejected value stays where it is, recency included. -/
def takeWith (store : Store α) (now : Nat) (key : String) (judge : α → Verdict) :
    Step (Store α) (Taking α) :=
  store.locked .take .nothing fun shelf =>
    match shelf.find? key with
    | none => ⟨shelf, .nothing, [.miss store.id]⟩
    | some entry =>
      match entry.value? now with
      | none => ⟨shelf.without key, .nothing, [.expired store.id]⟩
      | some value =>
        match judge value with
        | .accepted => ⟨shelf.without key, .taken value, [.hit store.id]⟩
        | .rejected => ⟨shelf, .nothing, []⟩
        | .brokeOff => ⟨{ shelf with poisoned := true }, .brokeOff, []⟩

def takeIf (store : Store α) (now : Nat) (key : String) (accepts : α → Bool) :
    Step (Store α) (Taking α) :=
  store.takeWith now key fun value => if accepts value then .accepted else .rejected

def take (store : Store α) (now : Nat) (key : String) : Step (Store α) (Taking α) :=
  store.takeIf now key fun _ => true

def remove (store : Store α) (key : String) : Step (Store α) Unit :=
  store.locked .remove () fun shelf => ⟨shelf.without key, (), []⟩

def clear (store : Store α) : Step (Store α) Unit :=
  store.locked .clear () fun shelf => ⟨{ shelf with entries := [] }, (), []⟩

/-- Expired entries count until they are touched. -/
def size (store : Store α) : Nat :=
  match store.shelf with
  | none => 0
  | some shelf => shelf.entries.length

def len (store : Store α) : Step (Store α) Nat :=
  store.locked .len 0 fun shelf => ⟨shelf, shelf.entries.length, []⟩

def isEmpty (store : Store α) : Step (Store α) Bool :=
  store.locked .len true fun shelf => ⟨shelf, shelf.entries.isEmpty, []⟩

end Store

end WeblogFront.Cache
