import WeblogFront.Proofs.Cache.StoreTurns
import Mathlib.Data.List.DropRight
import Mathlib.Data.List.Induction

/-! An enabled store is a map that forgets. Its callers take turns, one operation at a time, and time passes
between them; a log says what was done, when, and what was replied. What the store holds is read off
the log: under each key the entry that was put last, in the order in which the keys were put or found
last. It forgets an entry that is over when somebody touches it, and the entry whose key was used least
recently when a new key finds no room. All else that was not taken, removed or cleared is still there. -/
namespace WeblogFront

section Last

variable {ε γ : Type} {gives : ε → Option γ} {spares : ε → Bool} {log : List ε} {event : ε} {given : γ}

/-- What an event of the log gave, while every later one spared it. -/
def Latest (gives : ε → Option γ) (spares : ε → Bool) (log : List ε) (given : γ) : Prop :=
  ∃ before event later, log = before ++ event :: later ∧ gives event = some given ∧
    ∀ event ∈ later, spares event = true

theorem not_latest_nil (gives : ε → Option γ) (spares : ε → Bool) (given : γ) :
    ¬ Latest gives spares [] given := by
  rintro ⟨before, _, _, whole, _⟩
  cases before <;> cases whole

theorem latest_concat : Latest gives spares (log ++ [event]) given ↔
    gives event = some given ∨ spares event = true ∧ Latest gives spares log given := by
  constructor
  · rintro ⟨before, giving, later, whole, gave, spared⟩
    cases later using List.reverseRecOn with
    | nil =>
      obtain ⟨_, same⟩ := List.append_inj' whole rfl
      cases same
      exact .inl gave
    | append_singleton later last =>
      rw [← List.cons_append, ← List.append_assoc] at whole
      obtain ⟨same, final⟩ := List.append_inj' whole rfl
      cases final
      obtain ⟨earlier, now⟩ := List.forall_mem_append.mp spared
      exact .inr ⟨now event List.mem_cons_self, before, giving, later, same, gave, earlier⟩
  · rintro (gave | ⟨now, before, giving, later, rfl, gave, spared⟩)
    · exact ⟨log, event, [], rfl, gave, List.forall_mem_nil _⟩
    · refine ⟨before, giving, later ++ [event], by simp, gave, ?_⟩
      exact List.forall_mem_append.mpr ⟨spared, List.forall_mem_singleton.mpr now⟩

end Last

end WeblogFront

namespace WeblogFront.Cache

/-- A deed, and for how long nothing was done before it. -/
structure Act (δ : Type) where
  wait : Nat
  deed : δ
  deriving DecidableEq

namespace Store

variable {α : Type}

abbrev Act (α : Type) := Cache.Act (Deed α)

structure Event (α : Type) where
  time : Nat
  deed : Deed α
  reply : Reply α

namespace Event

def used? (event : Event α) : Option String :=
  Store.used? event.deed event.reply

def spares (key : String) (event : Event α) : Bool :=
  Store.spares key event.deed event.reply

def deposit? (timeout : Nat) (event : Event α) : Option (String × Entry α) :=
  event.deed.deposit? event.time timeout

end Event

structure Session (α : Type) where
  clock : Nat
  store : Store α
  log : List (Event α)

namespace Session

def entries (session : Session α) : List (String × Entry α) :=
  match session.store.shelf with
  | none => []
  | some shelf => shelf.entries

def step (session : Session α) (act : Act α) : Step (Store α) (Reply α) :=
  perform session.store (session.clock + act.wait) act.deed

def reply (session : Session α) (act : Act α) : Reply α :=
  (session.step act).result

def event (session : Session α) (act : Act α) : Event α :=
  ⟨session.clock + act.wait, act.deed, session.reply act⟩

def next (session : Session α) (act : Act α) : Session α :=
  ⟨session.clock + act.wait, (session.step act).state, session.log ++ [session.event act]⟩

end Session

def after (id : String) (settings : Settings) (acts : List (Act α)) : Session α :=
  acts.foldl Session.next ⟨0, new id settings, []⟩

section Logs

variable {timeout : Nat} {key : String} {entry : Entry α} {log : List (Event α)} {event : Event α}

/-- The position in the log of the last put or hit of a key, counted from one; it is zero when there is
none. -/
def lastUse (key : String) (log : List (Event α)) : Nat :=
  (log.rdropWhile fun event => event.used? ≠ some key).length

/-- The distinct keys that were put or hit since the key itself was. -/
def usedSince (key : String) (log : List (Event α)) : Finset String :=
  ((log.rtakeWhile fun event => event.used? ≠ some key).filterMap Event.used?).toFinset

/-- The entry is from the last put of its key, and was not taken, removed or cleared since. -/
def LatestPut (timeout : Nat) (log : List (Event α)) (key : String) (entry : Entry α) : Prop :=
  ∃ before event later, log = before ++ event :: later ∧ event.deposit? timeout = some (key, entry) ∧
    ∀ event ∈ later, event.spares key = true

theorem last_use_concat (key : String) (log : List (Event α)) (event : Event α) :
    lastUse key (log ++ [event]) =
      if event.used? = some key then log.length + 1 else lastUse key log := by
  by_cases uses : event.used? = some key
  · simp [lastUse, uses]
  · simp [lastUse, uses]

theorem last_use_le (key : String) (log : List (Event α)) : lastUse key log ≤ log.length :=
  (List.rdropWhile_prefix _ log).length_le

theorem mem_used_since (others : event.used? ≠ some key) {used : String} :
    used ∈ usedSince key (log ++ [event]) ↔
      event.used? = some used ∨ used ∈ usedSince key log := by
  simp [usedSince, others, or_comm]

theorem used_since_own (uses : event.used? = some key) : usedSince key (log ++ [event]) = ∅ := by
  simp [usedSince, uses]

theorem not_used_since_itself (key : String) (log : List (Event α)) : key ∉ usedSince key log := by
  intro member
  obtain ⟨event, happened, uses⟩ := List.mem_filterMap.mp (List.mem_toFinset.mp member)
  have others := List.mem_rtakeWhile_imp happened
  exact of_decide_eq_true others uses

theorem event_deposit_used (deposits : event.deposit? timeout = some (key, entry)) :
    event.used? = some key :=
  deposit_used deposits event.reply

theorem event_deposit_unspared (deposits : event.deposit? timeout = some (key, entry)) :
    event.spares key = false :=
  (deposit_spares deposits event.reply key).trans (bne_self_eq_false key)

theorem latest_put_concat : LatestPut timeout (log ++ [event]) key entry ↔
    event.deposit? timeout = some (key, entry) ∨
      event.spares key = true ∧ LatestPut timeout log key entry :=
  latest_concat

theorem latest_put_unique {other : Entry α} (latest : LatestPut timeout log key entry)
    (also : LatestPut timeout log key other) : entry = other := by
  induction log using List.reverseRecOn with
  | nil => exact absurd latest (not_latest_nil _ _ _)
  | append_singleton log event ih =>
    rcases latest_put_concat.mp latest with deposits | ⟨spared, earlier⟩
    · rcases latest_put_concat.mp also with alsoDeposits | ⟨spared, _⟩
      · cases deposits.symm.trans alsoDeposits
        rfl
      · cases (event_deposit_unspared deposits).symm.trans spared
    · rcases latest_put_concat.mp also with deposits | ⟨_, alsoEarlier⟩
      · cases (event_deposit_unspared deposits).symm.trans spared
      · exact ih earlier alsoEarlier

end Logs

section Runs

variable {id : String} {settings : Settings} {session : Session α} {shelf next : Shelf α} {act : Act α}
  {key : String} {entry : Entry α}

/-- What the log says of an open shelf. An entry that is over may be there or not. -/
structure Session.Mirrors (settings : Settings) (session : Session α) (shelf : Shelf α) : Prop where
  placed : session.store.shelf = some shelf
  timeout : session.store.timeout = settings.timeout
  capacity : shelf.capacity = settings.capacity
  bounded : shelf.entries.length ≤ shelf.capacity
  recency : shelf.entries.Pairwise fun newer older =>
    lastUse older.1 session.log < lastUse newer.1 session.log
  used : ∀ stored ∈ shelf.entries, 0 < lastUse stored.1 session.log
  latest : ∀ stored ∈ shelf.entries, LatestPut settings.timeout session.log stored.1 stored.2
  stands : ∀ key entry, LatestPut settings.timeout session.log key entry →
    entry.isExpired session.clock = false →
    (usedSince key session.log).card < settings.capacity →
    shelf.Stands (usedSince key session.log) key entry

namespace Session.Mirrors

theorem turns (mirrors : session.Mirrors settings shelf) (act : Act α) :
    ∃ next, (session.next act).store = { session.store with shelf := some next } ∧
      Turns (session.clock + act.wait) settings.timeout shelf act.deed (session.reply act) next := by
  rw [← mirrors.timeout]
  exact perform_turns mirrors.placed (session.clock + act.wait) act.deed

theorem recency_next (mirrors : session.Mirrors settings shelf)
    (turns : Turns (session.clock + act.wait) settings.timeout shelf act.deed (session.reply act) next) :
    (next.entries.Pairwise fun newer older =>
      lastUse older.1 (session.next act).log < lastUse newer.1 (session.next act).log) ∧
    ∀ stored ∈ next.entries, 0 < lastUse stored.1 (session.next act).log := by
  -- without a use no position changes; with one, its key moves behind all that the log knew so far
  rcases turns_order turns with ⟨unused, order⟩ | ⟨key, entry, kept, uses, whole, order⟩
  · have same (name : String) : lastUse name (session.next act).log = lastUse name session.log := by
      refine (last_use_concat name session.log _).trans (if_neg ?_)
      exact fun uses => Option.some_ne_none name (uses.symm.trans unused)
    simp only [same]
    exact ⟨mirrors.recency.sublist order, fun stored member => mirrors.used stored (order.subset member)⟩
  · have first : lastUse key (session.next act).log = session.log.length + 1 :=
      (last_use_concat key session.log _).trans (if_pos uses)
    have same : ∀ stored ∈ kept,
        lastUse stored.1 (session.next act).log = lastUse stored.1 session.log := by
      intro stored member
      have different := bne_iff_ne.mp (List.mem_filter.mp (order.subset member)).2
      refine (last_use_concat stored.1 session.log _).trans (if_neg ?_)
      exact fun alsoUses => different (Option.some.inj (alsoUses.symm.trans uses))
    have older := order.trans List.filter_sublist
    rw [whole]
    constructor
    · refine List.pairwise_cons.mpr ⟨fun stored member => ?_, ?_⟩
      · rw [first, same stored member]
        exact Nat.lt_succ_of_le (last_use_le stored.1 session.log)
      · refine (mirrors.recency.sublist older).imp_of_mem fun newer later ordered => ?_
        rw [same _ newer, same _ later]
        exact ordered
    · refine List.forall_mem_cons.mpr ⟨?_, fun stored member => ?_⟩
      · rw [first]
        exact Nat.succ_pos _
      · rw [same stored member]
        exact mirrors.used stored (older.subset member)

theorem latest_next (mirrors : session.Mirrors settings shelf)
    (turns : Turns (session.clock + act.wait) settings.timeout shelf act.deed (session.reply act) next)
    (stored : String × Entry α) (member : stored ∈ next.entries) :
    LatestPut settings.timeout (session.next act).log stored.1 stored.2 := by
  apply latest_put_concat.mpr
  rcases turns_origin turns member with deposits | ⟨spared, older⟩
  · exact .inl deposits
  · exact .inr ⟨spared, mirrors.latest stored older⟩

theorem stands_next (mirrors : session.Mirrors settings shelf)
    (turns : Turns (session.clock + act.wait) settings.timeout shelf act.deed (session.reply act) next)
    (latest : LatestPut settings.timeout (session.next act).log key entry)
    (alive : entry.isExpired (session.clock + act.wait) = false)
    (room : (usedSince key (session.next act).log).card < settings.capacity) :
    next.Stands (usedSince key (session.next act).log) key entry := by
  by_cases uses : (session.event act).used? = some key
  · rcases turns_order turns with ⟨unused, _⟩ | ⟨_, first, kept, alsoUses, whole, _⟩
    · cases uses.symm.trans unused
    · cases uses.symm.trans alsoUses
      -- a put brings its own entry to the front, a hit the one that was there
      have firstLatest := mirrors.latest_next turns (key, first) (whole ▸ List.mem_cons_self)
      cases latest_put_unique firstLatest latest
      exact ⟨[], kept, whole, List.nodup_nil, List.forall_mem_nil _⟩
  · rcases latest_put_concat.mp latest with deposits | ⟨spared, earlier⟩
    · exact absurd (event_deposit_used deposits) uses
    · have grows : usedSince key session.log ⊆ usedSince key (session.next act).log :=
        fun used since => (mem_used_since uses).mpr (.inr since)
      have before := mirrors.stands key entry earlier
        (Entry.alive_earlier (Nat.le_add_right _ _) alive)
        (Nat.lt_of_le_of_lt (Finset.card_le_card grows) room)
      refine turns_stands turns (before.mono grows) (not_used_since_itself _ _) alive spared ?_ ?_
      · exact fun used found _ => (mem_used_since uses).mpr (.inl found)
      · exact mirrors.capacity ▸ room

theorem step (mirrors : session.Mirrors settings shelf) (act : Act α) :
    ∃ next, (session.next act).Mirrors settings next := by
  obtain ⟨next, state, turns⟩ := mirrors.turns act
  have capacity := (turns_capacity turns).trans mirrors.capacity
  obtain ⟨recency, used⟩ := mirrors.recency_next turns
  refine ⟨next, ?_, ?_, capacity, ?_, recency, used, mirrors.latest_next turns, ?_⟩
  · exact congrArg Store.shelf state
  · exact (congrArg Store.timeout state).trans mirrors.timeout
  · rw [capacity, ← mirrors.capacity]
    apply turns_bounded turns mirrors.bounded
    rw [mirrors.capacity]
    exact settings.capacity_positive
  · exact fun key entry latest alive room => mirrors.stands_next turns latest alive room

theorem find_of_mem (mirrors : session.Mirrors settings shelf)
    (member : (key, entry) ∈ shelf.entries) : shelf.find? key = some entry := by
  cases found : shelf.find? key with
  | none => exact absurd rfl (Shelf.find_none_iff.mp found _ member)
  | some other =>
    have alsoLatest := mirrors.latest _ (Shelf.mem_of_find found)
    exact congrArg some (latest_put_unique alsoLatest (mirrors.latest _ member))

theorem entries_eq (mirrors : session.Mirrors settings shelf) : session.entries = shelf.entries := by
  rw [Session.entries, mirrors.placed]

end Session.Mirrors

theorem after_mirrors (id : String) (settings : Settings) (enabled : settings.enabled = true)
    (acts : List (Act α)) : ∃ shelf, (after id settings acts).Mirrors settings shelf := by
  induction acts using List.reverseRecOn with
  | nil =>
    refine ⟨⟨settings.capacity, false, []⟩, if_pos enabled, rfl, rfl, Nat.zero_le _, List.Pairwise.nil,
      List.forall_mem_nil _, List.forall_mem_nil _, ?_⟩
    exact fun key entry latest => absurd latest (not_latest_nil _ _ _)
  | append_singleton acts act ih =>
    obtain ⟨shelf, mirrors⟩ := ih
    rw [after, List.foldl_append]
    exact mirrors.step act

end Runs

section Promises

variable {settings : Settings} {session : Session α} {shelf : Shelf α} {act : Act α} {key : String}
  {entry : Entry α}

/-- What a store with these settings keeps and returns, whatever is done to it next. -/
structure Session.Exact (settings : Settings) (session : Session α) : Prop where
  distinct : (session.entries.map (·.1)).Nodup
  bounded : session.entries.length ≤ max settings.size 1
  counted : ∀ wait, session.reply ⟨wait, .len⟩ = .counted session.entries.length
  /-- The entries stand in the order in which their keys were put or hit last, the newest first. -/
  recency : session.entries.Pairwise fun newer older =>
    lastUse older.1 session.log < lastUse newer.1 session.log
  used : ∀ stored ∈ session.entries, 0 < lastUse stored.1 session.log
  latest : ∀ stored ∈ session.entries,
    LatestPut settings.timeout session.log stored.1 stored.2
  /-- Who gets or takes a value gets the one that was put last, and within its lifetime. -/
  returned : ∀ act key value, act.deed.sought? = some key → (session.reply act).value? = some value →
    ∃ entry, LatestPut settings.timeout session.log key entry ∧ entry.value = value ∧
      session.clock + act.wait - entry.storedAt < entry.lifetime
  /-- Who touches an entry that is over is refused, and the entry is removed. -/
  touched : ∀ act key entry, act.deed.sought? = some key → (key, entry) ∈ session.entries →
    entry.lifetime ≤ session.clock + act.wait - entry.storedAt →
    session.reply act = act.deed.refusal ∧
      (session.next act).entries = session.entries.filter fun stored => stored.1 != key
  /-- A put leads the entries; of the others one goes if the key is new and there is no room for it. -/
  stored : ∀ act key entry,
    act.deed.deposit? (session.clock + act.wait) settings.timeout = some (key, entry) →
    (session.next act).entries = (key, entry) ::
      if (∀ stored ∈ session.entries, stored.1 ≠ key) ∧ session.entries.length = max settings.size 1
      then session.entries.dropLast
      else session.entries.filter fun stored => stored.1 != key
  /-- The one that goes is the one whose key was used least recently. -/
  dropped : ∀ act key entry,
    act.deed.deposit? (session.clock + act.wait) settings.timeout = some (key, entry) →
    ∀ other ∈ session.entries, other.1 ≠ key →
      (other ∉ (session.next act).entries ↔
        (∀ stored ∈ session.entries, stored.1 ≠ key) ∧
          session.entries.length = max settings.size 1 ∧
          ∀ stored ∈ session.entries, lastUse other.1 session.log ≤ lastUse stored.1 session.log)
  /-- The entry that was put last, unless it was taken, removed or cleared since, is returned within its
  lifetime while fewer other keys were used since its own than there is room for. -/
  honoured : ∀ act key entry, act.deed.sought? = some key →
    LatestPut settings.timeout session.log key entry →
    session.clock + act.wait - entry.storedAt < entry.lifetime →
    (usedSince key session.log).card < max settings.size 1 →
    session.reply act = act.deed.answer entry.value

theorem not_mem_drop_last_iff {β : Type} {rank : β → Nat} {items : List β} {item : β}
    (ordered : items.Pairwise fun newer older => rank older < rank newer) (member : item ∈ items) :
    item ∉ items.dropLast ↔ ∀ other ∈ items, rank item ≤ rank other := by
  cases items using List.reverseRecOn with
  | nil => cases member
  | append_singleton others last =>
    have before : ∀ other ∈ others, rank last < rank other := by
      intro other earlier
      exact (List.pairwise_append.mp ordered).2.2 other earlier last List.mem_cons_self
    rw [List.dropLast_concat]
    rcases List.mem_append.mp member with earlier | final
    · refine iff_of_false (not_not_intro earlier) fun least => ?_
      have notAfter := least last (List.mem_append_right _ List.mem_cons_self)
      exact Nat.not_lt_of_le notAfter (before item earlier)
    · cases List.mem_singleton.mp final
      refine iff_of_true (fun earlier => Nat.lt_irrefl _ (before _ earlier)) fun other among => ?_
      rcases List.mem_append.mp among with earlier | same
      · exact Nat.le_of_lt (before other earlier)
      · rw [List.mem_singleton.mp same]

namespace Session.Mirrors

theorem entries_stored (mirrors : session.Mirrors settings shelf)
    (deposits : act.deed.deposit? (session.clock + act.wait) settings.timeout = some (key, entry)) :
    (session.next act).entries = (key, entry) ::
      if (∀ stored ∈ session.entries, stored.1 ≠ key) ∧ session.entries.length = max settings.size 1
      then session.entries.dropLast
      else session.entries.filter fun stored => stored.1 != key := by
  obtain ⟨next, state, turns⟩ := mirrors.turns act
  have placed : (session.next act).entries = next.entries := by rw [Session.entries, state]
  have full : shelf.capacity ≤ shelf.entries.length ↔ shelf.entries.length = max settings.size 1 := by
    have capacity : shelf.capacity = max settings.size 1 := mirrors.capacity
    have bounded := mirrors.bounded
    omega
  rw [placed, turns_deposit turns deposits, Shelf.entries_put, mirrors.entries_eq]
  simp only [Shelf.evicts_iff, full]
  rfl

theorem dropped_iff (mirrors : session.Mirrors settings shelf)
    (deposits : act.deed.deposit? (session.clock + act.wait) settings.timeout = some (key, entry))
    {other : String × Entry α} (member : other ∈ session.entries) (different : other.1 ≠ key) :
    other ∉ (session.next act).entries ↔
      (∀ stored ∈ session.entries, stored.1 ≠ key) ∧ session.entries.length = max settings.size 1 ∧
        ∀ stored ∈ session.entries, lastUse other.1 session.log ≤ lastUse stored.1 session.log := by
  have behind (kept : List (String × Entry α)) : other ∉ (key, entry) :: kept ↔ other ∉ kept := by
    rw [List.mem_cons, or_iff_right]
    rintro rfl
    exact different rfl
  have least := not_mem_drop_last_iff (mirrors.entries_eq ▸ mirrors.recency) member
  rw [mirrors.entries_stored deposits, behind, ← and_assoc]
  split
  case isTrue full => rw [least, and_iff_right full]
  case isFalse room =>
    have stays : other ∈ session.entries.filter fun stored => stored.1 != key :=
      List.mem_filter.mpr ⟨member, bne_iff_ne.mpr different⟩
    exact iff_of_false (not_not_intro stays) fun drops => room drops.1

theorem touched_lapsed (mirrors : session.Mirrors settings shelf) (seeks : act.deed.sought? = some key)
    (member : (key, entry) ∈ session.entries)
    (lapsed : entry.lifetime ≤ session.clock + act.wait - entry.storedAt) :
    session.reply act = act.deed.refusal ∧
      (session.next act).entries = session.entries.filter fun stored => stored.1 != key := by
  obtain ⟨next, state, turns⟩ := mirrors.turns act
  rw [mirrors.entries_eq] at member ⊢
  obtain ⟨refused, rfl⟩ :=
    turns_lapsed turns seeks (mirrors.find_of_mem member) (decide_eq_true lapsed)
  refine ⟨refused, ?_⟩
  rw [Session.entries, state]
  rfl

theorem returned_latest (mirrors : session.Mirrors settings shelf)
    (seeks : act.deed.sought? = some key) {value : α} (returned : (session.reply act).value? = some value) :
    ∃ entry, LatestPut settings.timeout session.log key entry ∧ entry.value = value ∧
      session.clock + act.wait - entry.storedAt < entry.lifetime := by
  obtain ⟨next, _, turns⟩ := mirrors.turns act
  obtain ⟨entry, found, alive, same⟩ := turns_returned turns seeks returned
  refine ⟨entry, mirrors.latest _ (Shelf.mem_of_find found), same, ?_⟩
  exact Nat.lt_of_not_le (of_decide_eq_false alive)

theorem latest_honoured (mirrors : session.Mirrors settings shelf)
    (seeks : act.deed.sought? = some key) (latest : LatestPut settings.timeout session.log key entry)
    (young : session.clock + act.wait - entry.storedAt < entry.lifetime)
    (room : (usedSince key session.log).card < max settings.size 1) :
    session.reply act = act.deed.answer entry.value := by
  obtain ⟨next, _, turns⟩ := mirrors.turns act
  have alive : entry.isExpired (session.clock + act.wait) = false :=
    decide_eq_false (Nat.not_le_of_lt young)
  have earlier := Entry.alive_earlier (Nat.le_add_right session.clock act.wait) alive
  have stands := mirrors.stands key entry latest earlier room
  exact turns_alive turns seeks (stands.find (not_used_since_itself key session.log)) alive

theorem promises (mirrors : session.Mirrors settings shelf) : session.Exact settings where
  distinct := by
    rw [mirrors.entries_eq]
    refine List.pairwise_map.mpr (mirrors.recency.imp fun {newer older} ordered same => ?_)
    rw [same] at ordered
    exact Nat.lt_irrefl _ ordered
  bounded := by
    rw [mirrors.entries_eq]
    exact Nat.le_trans mirrors.bounded (Nat.le_of_eq mirrors.capacity)
  counted wait := by
    obtain ⟨next, _, turns⟩ := mirrors.turns ⟨wait, .len⟩
    rw [mirrors.entries_eq]
    exact turns_counted turns
  recency := mirrors.entries_eq ▸ mirrors.recency
  used := mirrors.entries_eq ▸ mirrors.used
  latest := mirrors.entries_eq ▸ mirrors.latest
  returned _ _ _ seeks returned := mirrors.returned_latest seeks returned
  touched _ _ _ seeks member lapsed := mirrors.touched_lapsed seeks member lapsed
  stored _ _ _ deposits := mirrors.entries_stored deposits
  dropped _ _ _ deposits _ member different := mirrors.dropped_iff deposits member different
  honoured _ _ _ seeks latest young room := mirrors.latest_honoured seeks latest young room

end Session.Mirrors

theorem enabled_store_exact (id : String) (settings : Settings) (enabled : settings.enabled = true)
    (acts : List (Act α)) : (after id settings acts).Exact settings := by
  obtain ⟨shelf, mirrors⟩ := after_mirrors id settings enabled acts
  exact mirrors.promises

-- There is room for two: the reader of the first saves it from the third, and the second has to go.
theorem crowded_store_exact :
    let settings : Settings := ⟨true, 2, 60⟩
    let acts : List (Act Nat) := [⟨0, .put "first" 1⟩, ⟨5, .putFor "second" 2 30⟩, ⟨5, .get "first"⟩,
      ⟨5, .takeIf "first" fun value => value == 2⟩, ⟨5, .put "third" 3⟩]
    let session := after "pages" settings acts
    session.entries.map (·.1) = ["third", "first"] ∧ usedSince "first" session.log = {"third"} ∧
      session.reply ⟨39, .get "first"⟩ = .found (some 1) ∧
      session.reply ⟨39, .take "first"⟩ = .taking (.taken 1) ∧
      session.reply ⟨40, .get "first"⟩ = .found none := by
  intro settings acts session
  have promises : session.Exact settings := enabled_store_exact "pages" settings rfl acts
  have member : ("first", ⟨1, 0, 60⟩) ∈ session.entries := by decide +kernel
  have since : usedSince "first" session.log = {"third"} := by decide +kernel
  have latest := promises.latest _ member
  have room : (usedSince "first" session.log).card < 2 := by
    rw [since]
    decide
  refine ⟨by decide +kernel, since, ?_, ?_, ?_⟩
  · exact promises.honoured ⟨39, .get "first"⟩ "first" ⟨1, 0, 60⟩ rfl latest (by decide +kernel) room
  · exact promises.honoured ⟨39, .take "first"⟩ "first" ⟨1, 0, 60⟩ rfl latest (by decide +kernel) room
  · exact (promises.touched ⟨40, .get "first"⟩ "first" ⟨1, 0, 60⟩ rfl member (by decide +kernel)).1

end Promises

end Store

end WeblogFront.Cache
