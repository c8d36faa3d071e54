import WeblogFront.Proofs.Cache.StoreTurns

/-! A taker that breaks off while it is shown a value poisons the lock and changes nothing else: it is shown
the value before anything is moved. From then on each visit recovers the lock and says so, once; what it
finds, what it is told and what it leaves behind does not depend on the state of the lock. So a run can
be told from the same run without those takers by its warnings alone. -/
namespace WeblogFront.Cache.Store

variable {α : Type}

section Visits

inductive Errand (α : Type) where
  | deed (deed : Deed α)
  | isEmpty

inductive Answer (α : Type) where
  | reply (reply : Reply α)
  | emptiness (empty : Bool)

/-- The clock is read anew for each visit, so that a visit can be left out and the others keep their
times. -/
structure Visit (α : Type) where
  now : Nat
  errand : Errand α

@[simp]
def Deed.operation : Deed α → CacheOperation
  | .put _ _ => .put
  | .putFor _ _ _ => .put
  | .get _ => .get
  | .takeWith _ _ => .take
  | .remove _ => .remove
  | .clear => .clear
  | .len => .len

@[simp]
def Visit.operation (visit : Visit α) : CacheOperation :=
  match visit.errand with
  | .deed deed => deed.operation
  | .isEmpty => .len

def Answer.brokeOff : Answer α → Bool
  | .reply (.taking .brokeOff) => true
  | _ => false

def attend (store : Store α) (visit : Visit α) : Step (Store α) (Answer α) :=
  match visit.errand with
  | .deed deed =>
    let step := perform store visit.now deed
    ⟨step.state, .reply step.result, step.signals⟩
  | .isEmpty =>
    let step := store.isEmpty
    ⟨step.state, .emptiness step.result, step.signals⟩

@[simp]
theorem attend_deed (store : Store α) (now : Nat) (deed : Deed α) :
    attend store ⟨now, .deed deed⟩ =
      ⟨(perform store now deed).state, .reply (perform store now deed).result,
        (perform store now deed).signals⟩ :=
  rfl

@[simp]
theorem attend_is_empty (store : Store α) (now : Nat) :
    attend store ⟨now, .isEmpty⟩ =
      ⟨store.isEmpty.state, .emptiness store.isEmpty.result, store.isEmpty.signals⟩ :=
  rfl

def attended (start : Store α) (visits : List (Visit α)) : Store α :=
  visits.foldl (fun store visit => (attend store visit).state) start

@[simp]
theorem attended_nil (start : Store α) : attended start [] = start :=
  rfl

@[simp]
theorem attended_cons (start : Store α) (visit : Visit α) (rest : List (Visit α)) :
    attended start (visit :: rest) = attended (attend start visit).state rest :=
  rfl

def answers (start : Store α) : List (Visit α) → List (Answer α)
  | [] => []
  | visit :: rest =>
    let step := attend start visit
    step.result :: answers step.state rest

def unbroken (start : Store α) : List (Visit α) → List (Visit α)
  | [] => []
  | visit :: rest =>
    let step := attend start visit
    if step.result.brokeOff then unbroken step.state rest
    else visit :: unbroken step.state rest

def isPoisoned (store : Store α) : Bool :=
  store.shelf.any (·.poisoned)

def contents (store : Store α) : List (String × Entry α) :=
  match store.shelf with
  | none => []
  | some shelf => shelf.entries

def troubled (start : Store α) (past : List (Visit α)) : Bool :=
  start.isPoisoned || (answers start past).any (·.brokeOff)

end Visits

section Reports

def recoveryEvent (id : String) (operation : CacheOperation) : WeblogFront.Event :=
  ⟨.warn, "cache lock poisoned by a panicking holder, continuing with current entries",
    [("cache", .text id), ("op", .text operation.name)]⟩

def recoverySeries (id : String) : Signal.Series :=
  ⟨"roller_cache_lock_poisoned_total", some ("cache", id)⟩

def growth (series : Signal.Series) (signals : List Signal) : Nat :=
  (signals.filterMap Signal.series?).count series

/-- Nothing that an operation itself has to say is an event, or counts as a recovery. -/
def Plain (id : String) (signals : List Signal) : Prop :=
  events signals = [] ∧ growth (recoverySeries id) signals = 0

theorem plain_nil (id : String) : Plain id [] :=
  ⟨rfl, rfl⟩

theorem plain_found (id : String) :
    Plain id [.hit id] ∧ Plain id [.miss id] ∧ Plain id [.expired id] ∧ Plain id [.evicted id] := by
  simp [Plain, events, growth, Signal.event?, Signal.series?, Signal.ofCache, recoverySeries]

theorem recovery_reported {id : String} {signals : List Signal} (plain : Plain id signals)
    (operation : CacheOperation) :
    events (.lockRecovered id operation :: signals) = [recoveryEvent id operation] ∧
      growth (recoverySeries id) (.lockRecovered id operation :: signals) = 1 := by
  obtain ⟨silent, uncounted⟩ := plain
  constructor
  · simpa [events, Signal.event?, recoveryEvent] using silent
  · simpa [growth, Signal.series?, Signal.ofCache, recoverySeries] using uncounted

end Reports

section Locks

def apart (key : String) (entries : List (String × Entry α)) : List (String × Entry α) :=
  entries.filter fun stored => stored.1 != key

-- What a shelf holds and what an operation makes of it have nothing to do with the lock.
@[simp]
theorem find_on (capacity : Nat) (poisoned : Bool) (entries : List (String × Entry α)) (key : String) :
    Shelf.find? ⟨capacity, poisoned, entries⟩ key = entries.lookup key :=
  rfl

@[simp]
theorem without_on (capacity : Nat) (poisoned : Bool) (entries : List (String × Entry α))
    (key : String) :
    Shelf.without ⟨capacity, poisoned, entries⟩ key = ⟨capacity, poisoned, apart key entries⟩ :=
  rfl

@[simp]
theorem place_first_on (capacity : Nat) (poisoned : Bool) (entries : List (String × Entry α))
    (key : String) (entry : Entry α) :
    Shelf.placeFirst ⟨capacity, poisoned, entries⟩ key entry =
      ⟨capacity, poisoned, (key, entry) :: apart key entries⟩ :=
  rfl

@[simp]
theorem lock_signals_on (id : String) (capacity : Nat) (poisoned : Bool)
    (entries : List (String × Entry α)) (operation : CacheOperation) :
    lockSignals id ⟨capacity, poisoned, entries⟩ operation =
      if poisoned then [.lockRecovered id operation] else [] :=
  rfl

/-- What a visit to a shelf with these entries comes to, in either state of the lock. -/
structure ComesTo (id : String) (timeout capacity : Nat) (entries : List (String × Entry α))
    (visit : Visit α) (left : List (String × Entry α)) (answer : Answer α) (signals : List Signal) :
    Prop where
  step : ∀ poisoned, attend ⟨id, timeout, some ⟨capacity, poisoned, entries⟩⟩ visit =
    ⟨⟨id, timeout, some ⟨capacity, poisoned || answer.brokeOff, left⟩⟩, answer,
      (if poisoned then [.lockRecovered id visit.operation] else []) ++ signals⟩
  untouched : answer.brokeOff = true → left = entries
  plain : Plain id signals

variable {id : String} {timeout capacity : Nat} {entries : List (String × Entry α)}

theorem whole_comes_to {visit : Visit α} {left : List (String × Entry α)} {answer : Answer α}
    {signals : List Signal} (whole : answer.brokeOff = false) (plain : Plain id signals)
    (step : ∀ poisoned, attend ⟨id, timeout, some ⟨capacity, poisoned, entries⟩⟩ visit =
      ⟨⟨id, timeout, some ⟨capacity, poisoned || answer.brokeOff, left⟩⟩, answer,
        (if poisoned then [.lockRecovered id visit.operation] else []) ++ signals⟩) :
    ComesTo id timeout capacity entries visit left answer signals where
  step := step
  untouched broke := absurd (whole.symm.trans broke) Bool.false_ne_true
  plain := plain

variable (id timeout capacity entries)

theorem get_comes_to (now : Nat) (key : String) : ∃ left answer signals,
    ComesTo id timeout capacity entries ⟨now, .deed (.get key)⟩ left answer signals := by
  obtain ⟨hit, miss, expired, _⟩ := plain_found id
  cases found : entries.lookup key with
  | none =>
    refine ⟨entries, .reply (.found none), [.miss id], ?_, fun _ => rfl, miss⟩
    intro poisoned
    simp [Answer.brokeOff, perform, get, locked, found]
  | some entry =>
    cases lapsed : entry.isExpired now with
    | true =>
      refine ⟨apart key entries, .reply (.found none), [.expired id], whole_comes_to rfl expired ?_⟩
      intro poisoned
      simp [Answer.brokeOff, perform, get, locked, found, Entry.value?, lapsed]
    | false =>
      refine ⟨(key, entry) :: apart key entries, .reply (.found (some entry.value)), [.hit id],
        whole_comes_to rfl hit ?_⟩
      intro poisoned
      simp [Answer.brokeOff, perform, get, locked, found, Entry.value?, lapsed]

-- The judge is shown the value before anything is moved; if it breaks off, all is as it was.
theorem taker_comes_to (now : Nat) (key : String) (judge : α → Verdict) : ∃ left answer signals,
    ComesTo id timeout capacity entries ⟨now, .deed (.takeWith key judge)⟩ left answer signals := by
  obtain ⟨hit, miss, expired, _⟩ := plain_found id
  cases found : entries.lookup key with
  | none =>
    refine ⟨entries, .reply (.taking .nothing), [.miss id], ?_, fun _ => rfl, miss⟩
    intro poisoned
    simp [Answer.brokeOff, perform, takeWith, locked, found]
  | some entry =>
    cases lapsed : entry.isExpired now with
    | true =>
      refine ⟨apart key entries, .reply (.taking .nothing), [.expired id], whole_comes_to rfl expired ?_⟩
      intro poisoned
      simp [Answer.brokeOff, perform, takeWith, locked, found, Entry.value?, lapsed]
    | false =>
      cases judged : judge entry.value with
      | accepted =>
        refine ⟨apart key entries, .reply (.taking (.taken entry.value)), [.hit id],
          whole_comes_to rfl hit ?_⟩
        intro poisoned
        simp [Answer.brokeOff, perform, takeWith, locked, found, Entry.value?, lapsed, judged]
      | rejected =>
        refine ⟨entries, .reply (.taking .nothing), [], ?_, fun _ => rfl, plain_nil id⟩
        intro poisoned
        simp [Answer.brokeOff, perform, takeWith, locked, found, Entry.value?, lapsed, judged]
      | brokeOff =>
        refine ⟨entries, .reply (.taking .brokeOff), [], ?_, fun _ => rfl, plain_nil id⟩
        intro poisoned
        simp [Answer.brokeOff, perform, takeWith, locked, found, Entry.value?, lapsed, judged]

theorem put_for_comes_to (now lifetime : Nat) (key : String) (value : α) : ∃ left answer signals,
    ComesTo id timeout capacity entries ⟨now, .deed (.putFor key value lifetime)⟩ left answer signals := by
  obtain ⟨_, _, _, evicted⟩ := plain_found id
  let entry : Entry α := ⟨value, now, min lifetime timeout⟩
  by_cases evicts : Shelf.evicts ⟨capacity, false, entries⟩ key = true
  · refine ⟨(key, entry) :: apart key entries.dropLast, .reply .done, [.evicted id],
      whole_comes_to rfl evicted ?_⟩
    intro poisoned
    have alike : Shelf.evicts ⟨capacity, poisoned, entries⟩ key = true := evicts
    simp [Answer.brokeOff, perform, putFor, locked, alike, Shelf.put, Shelf.dropLast, entry]
  · refine ⟨(key, entry) :: apart key entries, .reply .done, [], whole_comes_to rfl (plain_nil id) ?_⟩
    intro poisoned
    have alike : ¬ Shelf.evicts ⟨capacity, poisoned, entries⟩ key = true := evicts
    simp [Answer.brokeOff, perform, putFor, locked, alike, Shelf.put, entry]

theorem visit_comes_to (visit : Visit α) : ∃ left answer signals,
    ComesTo id timeout capacity entries visit left answer signals := by
  obtain ⟨now, errand⟩ := visit
  cases errand with
  | isEmpty =>
    refine ⟨entries, .emptiness entries.isEmpty, [], whole_comes_to rfl (plain_nil id) ?_⟩
    intro poisoned
    simp [Answer.brokeOff, isEmpty, locked]
  | deed deed =>
    cases deed with
    | get key => exact get_comes_to id timeout capacity entries now key
    | takeWith key judge => exact taker_comes_to id timeout capacity entries now key judge
    | putFor key value lifetime => exact put_for_comes_to id timeout capacity entries now lifetime key value
    | put key value =>
      obtain ⟨left, answer, signals, comes⟩ :=
        put_for_comes_to id timeout capacity entries now timeout key value
      exact ⟨left, answer, signals, comes.step, comes.untouched, comes.plain⟩
    | remove key =>
      refine ⟨apart key entries, .reply .done, [], whole_comes_to rfl (plain_nil id) ?_⟩
      intro poisoned
      simp [Answer.brokeOff, perform, remove, locked]
    | clear =>
      refine ⟨[], .reply .done, [], whole_comes_to rfl (plain_nil id) ?_⟩
      intro poisoned
      simp [Answer.brokeOff, perform, clear, locked]
    | len =>
      refine ⟨entries, .reply (.counted entries.length), [], whole_comes_to rfl (plain_nil id) ?_⟩
      intro poisoned
      simp [Answer.brokeOff, perform, len, locked]

end Locks

section Runs

/-- The run that meets takers who break off, on a lock in one state, beside the run without them, on a lock
in any other state: what is on the shelf is the same, and only the first run poisons its lock. -/
theorem run_unbroken (id : String) (timeout capacity : Nat) (entries : List (String × Entry α))
    (poisoned other : Bool) (past : List (Visit α)) :
    let start : Store α := ⟨id, timeout, some ⟨capacity, poisoned, entries⟩⟩
    ∃ left,
      attended start past = ⟨id, timeout, some ⟨capacity, start.troubled past, left⟩⟩ ∧
      attended ⟨id, timeout, some ⟨capacity, other, entries⟩⟩ (unbroken start past) =
        ⟨id, timeout, some ⟨capacity, other, left⟩⟩ := by
  induction past generalizing entries poisoned with
  | nil => exact ⟨entries, by simp [attended, troubled, answers, isPoisoned], rfl⟩
  | cons visit rest ih =>
    obtain ⟨left, answer, signals, comes⟩ := visit_comes_to id timeout capacity entries visit
    obtain ⟨final, loud, quiet⟩ := ih left (poisoned || answer.brokeOff)
    refine ⟨final, ?_, ?_⟩
    · rw [attended_cons, comes.step, loud]
      simp [troubled, answers, comes.step, isPoisoned, Bool.or_assoc]
    · cases broke : answer.brokeOff with
      | true =>
        -- the visit is left out, and it had left the shelf as it was
        have same := comes.untouched broke
        subst same
        simpa [unbroken, comes.step, broke] using quiet
      | false => simpa [unbroken, comes.step, broke] using quiet

/-- How a visit fares after a run in which some takers broke off, beside the same visit after the run in
which they never came. -/
structure Unnoticed (start : Store α) (past : List (Visit α)) (visit : Visit α) : Prop where
  untouched : (attend (attended start past) visit).result.brokeOff = true →
    (attend (attended start past) visit).state.contents = (attended start past).contents
  contents : (attended start past).contents = (attended start (unbroken start past)).contents
  result : (attend (attended start past) visit).result =
    (attend (attended start (unbroken start past)) visit).result
  left : (attend (attended start past) visit).state.contents =
    (attend (attended start (unbroken start past)) visit).state.contents
  /-- The recovery is all that is signalled beyond what is signalled where nobody broke off. -/
  signals : (attend (attended start past) visit).signals =
    (if start.troubled past && !start.isPoisoned then [.lockRecovered start.id visit.operation]
      else []) ++ (attend (attended start (unbroken start past)) visit).signals
  warned : events (attend (attended start past) visit).signals =
    if start.troubled past then [recoveryEvent start.id visit.operation] else []
  counted : growth (recoverySeries start.id) (attend (attended start past) visit).signals =
    if start.troubled past then 1 else 0
  /-- Where no live entry is found the judge has no say, and the lock stays as it is. -/
  unreached : ∀ now key judge,
    (∀ entry, (key, entry) ∈ (attended start past).contents → entry.isExpired now = true) →
    (attend (attended start past) ⟨now, .deed (.takeWith key judge)⟩).result =
        .reply (.taking .nothing) ∧
      (attend (attended start past) ⟨now, .deed (.takeWith key judge)⟩).state.isPoisoned =
        (attended start past).isPoisoned ∧
      ∀ other, attend (attended start past) ⟨now, .deed (.takeWith key judge)⟩ =
        attend (attended start past) ⟨now, .deed (.takeWith key other)⟩

theorem unreached_judge (id : String) (timeout capacity : Nat) (poisoned : Bool)
    {entries : List (String × Entry α)} {now : Nat} {key : String}
    (overdue : ∀ entry, (key, entry) ∈ entries → entry.isExpired now = true) (judge : α → Verdict) :
    let store : Store α := ⟨id, timeout, some ⟨capacity, poisoned, entries⟩⟩
    (attend store ⟨now, .deed (.takeWith key judge)⟩).result = .reply (.taking .nothing) ∧
      (attend store ⟨now, .deed (.takeWith key judge)⟩).state.isPoisoned = poisoned ∧
      ∀ other, attend store ⟨now, .deed (.takeWith key judge)⟩ =
        attend store ⟨now, .deed (.takeWith key other)⟩ := by
  intro store
  cases found : entries.lookup key with
  | none => simp [store, perform, takeWith, locked, found, isPoisoned]
  | some entry =>
    let shelf : Shelf α := ⟨capacity, poisoned, entries⟩
    have member : (key, entry) ∈ shelf.entries := Shelf.mem_of_find found
    have lapsed := overdue entry member
    simp [store, perform, takeWith, locked, found, Entry.value?, lapsed, isPoisoned]

/-- In every state of an open store, takers that break off are noticed by their warnings alone. -/
theorem broken_takers_unnoticed (id : String) (timeout : Nat) (shelf : Shelf α)
    (past : List (Visit α)) (visit : Visit α) :
    Unnoticed ⟨id, timeout, some shelf⟩ past visit := by
  obtain ⟨capacity, poisoned, entries⟩ := shelf
  obtain ⟨left, loud, quiet⟩ := run_unbroken id timeout capacity entries poisoned poisoned past
  obtain ⟨next, answer, signals, comes⟩ := visit_comes_to id timeout capacity left visit
  constructor
  · rw [loud, comes.step]
    exact comes.untouched
  · rw [loud, quiet]
    rfl
  · rw [loud, quiet, comes.step, comes.step]
  · rw [loud, quiet, comes.step, comes.step]
    rfl
  · rw [loud, quiet, comes.step, comes.step]
    cases poisoned <;> simp [troubled, isPoisoned]
  · rw [loud, comes.step]
    split
    case isTrue => exact (recovery_reported comes.plain _).1
    case isFalse => exact comes.plain.1
  · rw [loud, comes.step]
    split
    case isTrue => exact (recovery_reported comes.plain _).2
    case isFalse => exact comes.plain.2
  · intro now key judge overdue
    rw [loud] at overdue ⊢
    exact unreached_judge id timeout capacity _ overdue judge

-- The first taker is shown the value and breaks off; the second one looks for a key that nobody has stored.
theorem broken_taker_warned :
    let start : Store Nat := ⟨"pages", 60, some ⟨2, false, [("first", ⟨1, 0, 60⟩)]⟩⟩
    let past : List (Visit Nat) := [⟨1, .deed (.takeWith "first" fun _ => .brokeOff)⟩,
      ⟨2, .deed (.takeWith "second" fun _ => .brokeOff)⟩, ⟨3, .deed (.put "second" 2)⟩]
    let visit : Visit Nat := ⟨4, .deed (.get "first")⟩
    start.troubled past = true ∧ (unbroken start past).length = 2 ∧
      (attend (attended start past) visit).result = .reply (.found (some 1)) ∧
      (attend (attended start past) visit).signals = [.lockRecovered "pages" .get, .hit "pages"] ∧
      events (attend (attended start past) visit).signals = [recoveryEvent "pages" .get] := by
  intro start past visit
  have unnoticed := broken_takers_unnoticed "pages" 60 ⟨2, false, [("first", ⟨1, 0, 60⟩)]⟩ past visit
  have troubled : start.troubled past = true := by decide +kernel
  have warned := unnoticed.warned
  rw [if_pos troubled] at warned
  have signals := unnoticed.signals
  rw [troubled] at signals
  refine ⟨troubled, by decide +kernel, unnoticed.result.trans (by rfl), signals.trans (by rfl), warned⟩

end Runs

end WeblogFront.Cache.Store
