import WeblogFront.Proofs.Cache.LockRecovery
import WeblogFront.Proofs.Cache.StoreSizes

/-! What the counters of a cache add up to. Each search that is not declined by its own caller is a hit, a
miss or an expiry. Each entry that was added is still there or has left by one door: evicted, expired,
taken, removed or cleared. One visit keeps both accounts, whatever it finds, and so does a run. -/
namespace WeblogFront.Cache.Store

variable {α : Type}

section Counts

structure Counters where
  hits : Nat
  misses : Nat
  expiries : Nat
  evictions : Nat
  deriving DecidableEq

def counters (id : String) (signals : List Signal) : Counters where
  hits := growth ⟨"roller_cache_hit_total", some ("cache", id)⟩ signals
  misses := growth ⟨"roller_cache_miss_total", some ("cache", id)⟩ signals
  expiries := growth ⟨"roller_cache_expired_total", some ("cache", id)⟩ signals
  evictions := growth ⟨"roller_cache_evict_total", some ("cache", id)⟩ signals

@[simp]
def searched (_ : Store α) (visit : Visit α) : Nat :=
  match visit.errand with
  | .deed (.get _) | .deed (.takeWith _ _) => 1
  | _ => 0

def entry? (store : Store α) (key : String) : Option (Entry α) :=
  store.contents.lookup key

/-- A taker was shown a live value and did not want it, or broke off. -/
@[simp]
def declined (store : Store α) (visit : Visit α) : Nat :=
  match visit.errand with
  | .deed (.takeWith key judge) =>
    ((store.entry? key).any fun entry =>
      !entry.isExpired visit.now && (judge entry.value ≠ .accepted : Bool)).toNat
  | _ => 0

@[simp]
def added (store : Store α) (visit : Visit α) : Nat :=
  match visit.errand with
  | .deed (.put key _) | .deed (.putFor key _ _) => (store.entry? key).isNone.toNat
  | _ => 0

@[simp]
def taken (store : Store α) (visit : Visit α) : Nat :=
  match (attend store visit).result with
  | .reply (.taking (.taken _)) => 1
  | _ => 0

@[simp]
def removed (store : Store α) (visit : Visit α) : Nat :=
  match visit.errand with
  | .deed (.remove key) => (store.entry? key).isSome.toNat
  | _ => 0

@[simp]
def cleared (store : Store α) (visit : Visit α) : Nat :=
  match visit.errand with
  | .deed .clear => store.contents.length
  | _ => 0

def signalled (start : Store α) : List (Visit α) → List Signal
  | [] => []
  | visit :: rest =>
    let step := attend start visit
    step.signals ++ signalled step.state rest

/-- The sum of what is counted at each visit of a run, in the store as the visit finds it. -/
def tally (count : Store α → Visit α → Nat) (start : Store α) : List (Visit α) → Nat
  | [] => 0
  | visit :: rest => count start visit + tally count (attend start visit).state rest

@[simp]
theorem signalled_nil (start : Store α) : signalled start [] = [] := rfl

@[simp]
theorem signalled_cons (start : Store α) (visit : Visit α) (rest : List (Visit α)) :
    signalled start (visit :: rest) =
      (attend start visit).signals ++ signalled (attend start visit).state rest := rfl

@[simp]
theorem tally_nil (count : Store α → Visit α → Nat) (start : Store α) : tally count start [] = 0 := rfl

@[simp]
theorem tally_cons (count : Store α → Visit α → Nat) (start : Store α) (visit : Visit α)
    (rest : List (Visit α)) :
    tally count start (visit :: rest) =
      count start visit + tally count (attend start visit).state rest := rfl

structure Balances (start : Store α) (visits : List (Visit α)) : Prop where
  searches :
    let counted := counters start.id (signalled start visits)
    counted.hits + counted.misses + counted.expiries + tally declined start visits =
      tally searched start visits
  entries :
    let counted := counters start.id (signalled start visits)
    (attended start visits).size + counted.evictions + counted.expiries + tally taken start visits +
        tally removed start visits + tally cleared start visits =
      start.size + tally added start visits

end Counts

section Signals

theorem counters_append (id : String) (before after : List Signal) :
    counters id (before ++ after) =
      ⟨(counters id before).hits + (counters id after).hits,
        (counters id before).misses + (counters id after).misses,
        (counters id before).expiries + (counters id after).expiries,
        (counters id before).evictions + (counters id after).evictions⟩ := by
  simp [counters, growth]

@[simp]
theorem counters_locked (id : String) (shelf : Shelf α) (operation : CacheOperation)
    (signals : List Signal) :
    counters id (lockSignals id shelf operation ++ signals) = counters id signals := by
  unfold lockSignals
  split <;> simp [counters, growth, Signal.series?, Signal.ofCache]

@[simp]
theorem counters_lock (id : String) (shelf : Shelf α) (operation : CacheOperation) :
    counters id (lockSignals id shelf operation) = ⟨0, 0, 0, 0⟩ := by
  have quiet := counters_locked id shelf operation []
  rwa [List.append_nil] at quiet

@[simp]
theorem counters_hit (id : String) : counters id [.hit id] = ⟨1, 0, 0, 0⟩ := by
  simp [counters, growth, Signal.series?, Signal.ofCache]

@[simp]
theorem counters_miss (id : String) : counters id [.miss id] = ⟨0, 1, 0, 0⟩ := by
  simp [counters, growth, Signal.series?, Signal.ofCache]

@[simp]
theorem counters_expired (id : String) : counters id [.expired id] = ⟨0, 0, 1, 0⟩ := by
  simp [counters, growth, Signal.series?, Signal.ofCache]

@[simp]
theorem counters_evicted (id : String) : counters id [.evicted id] = ⟨0, 0, 0, 1⟩ := by
  simp [counters, growth, Signal.series?, Signal.ofCache]

end Signals

section Visits

variable {id : String} {timeout : Nat} {shelf : Shelf α}

@[simp]
theorem entry_on_shelf (id : String) (timeout : Nat) (shelf : Shelf α) (key : String) :
    entry? ⟨id, timeout, some shelf⟩ key = shelf.find? key := rfl

@[simp]
theorem contents_on_shelf (id : String) (timeout : Nat) (shelf : Shelf α) :
    contents ⟨id, timeout, some shelf⟩ = shelf.entries := rfl

theorem get_balances (distinct : shelf.Distinct) (now : Nat) (key : String) :
    Balances ⟨id, timeout, some shelf⟩ [⟨now, .deed (.get key)⟩] := by
  cases found : shelf.find? key with
  | none => constructor <;> simp [perform, get, locked, size, found]
  | some entry =>
    have length := distinct.length_without found
    cases lapsed : entry.isExpired now with
    | true => constructor <;> simp [perform, get, locked, size, found, Entry.value?, lapsed, length]
    | false =>
      constructor <;>
        simp [perform, get, locked, size, found, Entry.value?, lapsed, Shelf.placeFirst, length]

theorem taker_balances (distinct : shelf.Distinct) (now : Nat) (key : String) (judge : α → Verdict) :
    Balances ⟨id, timeout, some shelf⟩ [⟨now, .deed (.takeWith key judge)⟩] := by
  cases found : shelf.find? key with
  | none => constructor <;> simp [perform, takeWith, locked, size, found]
  | some entry =>
    have length := distinct.length_without found
    cases lapsed : entry.isExpired now with
    | true => constructor <;> simp [perform, takeWith, locked, size, found, Entry.value?, lapsed, length]
    | false =>
      cases judged : judge entry.value with
      | accepted =>
        constructor <;>
          simp [perform, takeWith, locked, size, found, Entry.value?, lapsed, judged, length]
      | rejected | brokeOff =>
        constructor <;> simp [perform, takeWith, locked, size, found, Entry.value?, lapsed, judged]

/-- A new key takes a place or the place of the last entry; a key that is there already keeps its own. -/
theorem length_put_add_evicted (distinct : shelf.Distinct) (positive : 0 < shelf.capacity) (key : String)
    (entry : Entry α) :
    (shelf.put key entry).entries.length + (shelf.evicts key).toNat =
      shelf.entries.length + (shelf.find? key).isNone.toNat := by
  rw [Shelf.entries_put, List.length_cons]
  by_cases evicts : shelf.evicts key = true
  · obtain ⟨absent, full⟩ := Shelf.evicts_iff.mp evicts
    rw [if_pos evicts, evicts, Shelf.find_none_iff.mpr absent, List.length_dropLast]
    simp only [Bool.toNat_true, Option.isNone_none]
    omega
  · rw [if_neg evicts, eq_false_of_ne_true evicts]
    cases found : shelf.find? key with
    | none => simp [Shelf.without_absent found]
    | some held => simp [distinct.length_without found]

theorem put_for_balances (distinct : shelf.Distinct) (positive : 0 < shelf.capacity) (now : Nat)
    (key : String) (value : α) (lifetime : Nat) :
    Balances ⟨id, timeout, some shelf⟩ [⟨now, .deed (.putFor key value lifetime)⟩] := by
  have length := length_put_add_evicted distinct positive key ⟨value, now, min lifetime timeout⟩
  cases evicts : shelf.evicts key with
  | true | false =>
    rw [evicts] at length
    constructor
    · simp [perform, putFor, locked, evicts]
    · simpa [perform, putFor, locked, size, evicts] using length

theorem remove_balances (distinct : shelf.Distinct) (now : Nat) (key : String) :
    Balances ⟨id, timeout, some shelf⟩ [⟨now, .deed (.remove key)⟩] := by
  cases found : shelf.find? key with
  | none => constructor <;> simp [perform, remove, locked, size, found, Shelf.without_absent found]
  | some entry =>
    have length := distinct.length_without found
    constructor <;> simp [perform, remove, locked, size, found, length]

variable (id timeout)

theorem visit_balances (distinct : shelf.Distinct) (positive : 0 < shelf.capacity) (visit : Visit α) :
    Balances ⟨id, timeout, some shelf⟩ [visit] := by
  obtain ⟨now, errand⟩ := visit
  cases errand with
  | isEmpty => constructor <;> simp [isEmpty, locked, size]
  | deed deed =>
    cases deed with
    | get key => exact get_balances distinct now key
    | takeWith key judge => exact taker_balances distinct now key judge
    | putFor key value lifetime => exact put_for_balances distinct positive now key value lifetime
    | put key value =>
      have balances : Balances ⟨id, timeout, some shelf⟩ [⟨now, .deed (.putFor key value timeout)⟩] :=
        put_for_balances distinct positive now key value timeout
      exact ⟨balances.searches, balances.entries⟩
    | remove key => exact remove_balances distinct now key
    | clear => constructor <;> simp [perform, clear, locked, size]
    | len => constructor <;> simp [perform, len, locked, size]

theorem visit_keeps (distinct : shelf.Distinct) (positive : 0 < shelf.capacity) (visit : Visit α) :
    ∃ next : Shelf α, (attend ⟨id, timeout, some shelf⟩ visit).state = ⟨id, timeout, some next⟩ ∧
      next.Distinct ∧ 0 < next.capacity := by
  obtain ⟨now, errand⟩ := visit
  cases errand with
  | isEmpty => exact ⟨shelf, rfl, distinct, positive⟩
  | deed deed =>
    have placed : (⟨id, timeout, some shelf⟩ : Store α).shelf = some shelf := rfl
    obtain ⟨next, state, turns⟩ := perform_turns placed now deed
    have itself : shelf.Within shelf := ⟨.refl _, distinct, positive, Nat.le_of_eq (Nat.add_comm _ _)⟩
    have kept := (turns_within itself turns turns).1
    exact ⟨next, state, kept.distinct, kept.positive⟩

end Visits

section Runs

theorem Balances.cons {start : Store α} {visit : Visit α} {rest : List (Visit α)}
    (named : (attend start visit).state.id = start.id) (first : Balances start [visit])
    (later : Balances (attend start visit).state rest) : Balances start (visit :: rest) := by
  obtain ⟨searches, entries⟩ := first
  obtain ⟨laterSearches, laterEntries⟩ := later
  rw [named] at laterSearches laterEntries
  simp only [signalled_cons, signalled_nil, List.append_nil, attended_cons, attended_nil, tally_cons,
    tally_nil, Nat.add_zero] at searches entries
  constructor
  · simp only [signalled_cons, counters_append, tally_cons]
    omega
  · simp only [signalled_cons, counters_append, tally_cons, attended_cons]
    omega

theorem run_balances (id : String) (timeout : Nat) {shelf : Shelf α} (distinct : shelf.Distinct)
    (positive : 0 < shelf.capacity) (visits : List (Visit α)) :
    Balances ⟨id, timeout, some shelf⟩ visits := by
  induction visits generalizing shelf with
  | nil => constructor <;> simp [counters, growth]
  | cons visit rest ih =>
    obtain ⟨next, left, alsoDistinct, alsoPositive⟩ := visit_keeps id timeout distinct positive visit
    have later := ih alsoDistinct alsoPositive
    rw [← left] at later
    exact .cons (by rw [left]) (visit_balances id timeout distinct positive visit) later

theorem idle_signalled (id : String) (timeout : Nat) (visits : List (Visit α)) :
    signalled (⟨id, timeout, none⟩ : Store α) visits = [] := by
  induction visits with
  | nil => rfl
  | cons visit rest ih =>
    obtain ⟨now, errand⟩ := visit
    cases errand with
    | isEmpty => exact ih
    | deed deed => cases deed <;> exact ih

/-- The counters of a cache, from its construction on. Of a cache that is open, every search that its taker
did not decline is counted as a hit, a miss or an expiry, and every entry that was added under a key of
its own is stored still, or was counted as evicted or expired, or went to a taker, or was removed or
cleared away. A cache that is disabled counts nothing. -/
theorem counters_balance (id : String) (settings : Settings) (visits : List (Visit α)) :
    let start : Store α := new id settings
    let signals := openingSignals id settings ++ signalled start visits
    let counted := counters id signals
    (settings.enabled = true →
      counted.hits + counted.misses + counted.expiries + tally declined start visits =
          tally searched start visits ∧
        (attended start visits).size + counted.evictions + counted.expiries + tally taken start visits +
            tally removed start visits + tally cleared start visits =
          tally added start visits) ∧
    (settings.enabled = false → ∀ series, growth series signals = 0) := by
  intro start signals counted
  constructor
  · intro enabled
    have opened : start = ⟨id, settings.timeout, some ⟨settings.capacity, false, []⟩⟩ := by
      simp [start, new, enabled]
    have plain : signals = signalled start visits := by simp [signals, openingSignals, enabled]
    have distinct : (⟨settings.capacity, false, []⟩ : Shelf α).Distinct := List.nodup_nil
    have balances : Balances start visits := by
      rw [opened]
      exact run_balances id settings.timeout distinct settings.capacity_positive visits
    have named : start.id = id := rfl
    have nothing : start.size = 0 := by rw [opened]; rfl
    obtain ⟨searches, entries⟩ := balances
    rw [named, ← plain] at searches entries
    rw [nothing, Nat.zero_add] at entries
    exact ⟨searches, entries⟩
  · intro disabled series
    have idle : start = ⟨id, settings.timeout, none⟩ := by simp [start, new, disabled]
    have silent : signals = [.cachingDisabled id] := by
      simp only [signals, idle, idle_signalled, openingSignals, disabled]
      rfl
    rw [silent]
    rfl

-- Every way in and every way out: the second put of the first key replaces, the third key drives out the
-- second one, and the last put stays.
theorem crowded_cache_balances :
    let settings : Settings := ⟨true, 2, 60⟩
    let visits : List (Visit Nat) := [⟨0, .deed (.put "first" 1)⟩, ⟨1, .deed (.put "second" 2)⟩,
      ⟨2, .deed (.get "first")⟩, ⟨3, .deed (.put "first" 3)⟩, ⟨4, .deed (.put "third" 4)⟩,
      ⟨5, .deed (.get "second")⟩, ⟨6, .deed (.takeIf "first" fun _ => false)⟩,
      ⟨7, .deed (.takeWith "first" fun _ => .brokeOff)⟩, ⟨8, .deed (.take "third")⟩,
      ⟨63, .deed (.get "first")⟩, ⟨64, .deed (.put "fourth" 5)⟩, ⟨65, .deed (.remove "fourth")⟩,
      ⟨66, .deed (.putFor "fifth" 6 1)⟩, ⟨67, .deed .clear⟩, ⟨68, .deed (.put "sixth" 7)⟩]
    let start : Store Nat := new "pages" settings
    let counted := counters "pages" (openingSignals "pages" settings ++ signalled start visits)
    settings.enabled = true ∧ counted = ⟨2, 1, 1, 1⟩ ∧ tally declined start visits = 2 ∧
      (attended start visits).size = 1 ∧ tally added start visits = 6 ∧
      counted.hits + counted.misses + counted.expiries + tally declined start visits =
        tally searched start visits ∧
      (attended start visits).size + counted.evictions + counted.expiries + tally taken start visits +
          tally removed start visits + tally cleared start visits =
        tally added start visits ∧
      ∀ series, growth series (openingSignals "pages" settings.disabled ++
        signalled (new "pages" settings.disabled : Store Nat) visits) = 0 := by
  intro settings visits start counted
  obtain ⟨searches, entries⟩ := (counters_balance "pages" settings visits).1 rfl
  exact ⟨rfl, by decide +kernel, by decide +kernel, by decide +kernel, by decide +kernel, searches, entries,
    (counters_balance "pages" settings.disabled visits).2 rfl⟩

end Runs

end WeblogFront.Cache.Store
