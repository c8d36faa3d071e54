import WeblogFront.Proofs.Cache.Recency

/-! What one operation on a store can do to its shelf, and what its caller is told. This is said once, and
what holds after any operations is a case analysis over it. Only a put and a hit use a key: it comes
first then. Whatever else is done, the entries that stay keep their order. -/
namespace WeblogFront.Cache

namespace Shelf

variable {α : Type} {shelf : Shelf α} {key : String} {entry : Entry α}

theorem evicts_iff : shelf.evicts key = true ↔
    (∀ stored ∈ shelf.entries, stored.1 ≠ key) ∧ shelf.capacity ≤ shelf.entries.length := by
  rw [evicts, Bool.and_eq_true, Option.isNone_iff_eq_none, find_none_iff, decide_eq_true_iff]

theorem put_order (shelf : Shelf α) (key : String) (entry : Entry α) :
    ∃ kept, (shelf.put key entry).entries = (key, entry) :: kept ∧
      kept.Sublist (shelf.without key).entries := by
  unfold put
  split
  · exact ⟨_, rfl, (List.dropLast_sublist _).filter _⟩
  · exact ⟨_, rfl, List.Sublist.refl _⟩

theorem entries_put (shelf : Shelf α) (key : String) (entry : Entry α) :
    (shelf.put key entry).entries =
      (key, entry) ::
        if shelf.evicts key then shelf.entries.dropLast else (shelf.without key).entries := by
  unfold put
  split
  case isTrue evicts =>
    have absent := (evicts_iff.mp evicts).1
    have others : shelf.entries.dropLast.filter (fun stored => stored.1 != key) =
        shelf.entries.dropLast := by
      refine List.filter_eq_self.mpr fun stored member => bne_iff_ne.mpr ?_
      exact absent stored (List.dropLast_subset _ member)
    exact congrArg _ others
  case isFalse => rfl

theorem length_without (found : shelf.find? key = some entry) :
    (shelf.without key).entries.length < shelf.entries.length := by
  refine List.length_filter_lt_length_iff_exists.mpr ⟨(key, entry), mem_of_find found, ?_⟩
  simp

theorem length_put (bounded : shelf.entries.length ≤ shelf.capacity) (positive : 0 < shelf.capacity) :
    (shelf.put key entry).entries.length ≤ shelf.capacity := by
  rw [entries_put, List.length_cons]
  by_cases evicts : shelf.evicts key = true
  · rw [if_pos evicts, List.length_dropLast]
    omega
  · rw [if_neg evicts]
    cases found : shelf.find? key with
    | some held => exact Nat.le_trans (length_without found) bounded
    | none =>
      have room : shelf.entries.length < shelf.capacity := by
        simpa [Shelf.evicts, found] using evicts
      exact Nat.lt_of_le_of_lt (List.length_filter_le _ _) room

end Shelf

namespace Store

section Deeds

/-- What a caller asks of the store. A judge that breaks off takes nothing. -/
inductive Deed (α : Type) where
  | put (key : String) (value : α)
  | putFor (key : String) (value : α) (lifetime : Nat)
  | get (key : String)
  | takeWith (key : String) (judge : α → Verdict)
  | remove (key : String)
  | clear
  | len

inductive Reply (α : Type) where
  | done
  | found (value : Option α)
  | taking (outcome : Taking α)
  | counted (length : Nat)

variable {α : Type}

abbrev Deed.takeIf (key : String) (accepts : α → Bool) : Deed α :=
  .takeWith key fun value => if accepts value then .accepted else .rejected

abbrev Deed.take (key : String) : Deed α :=
  .takeIf key fun _ => true

def perform (store : Store α) (now : Nat) : Deed α → Step (Store α) (Reply α)
  | .put key value =>
    let step := store.put now key value
    ⟨step.state, .done, step.signals⟩
  | .putFor key value lifetime =>
    let step := store.putFor now key value lifetime
    ⟨step.state, .done, step.signals⟩
  | .get key =>
    let step := store.get now key
    ⟨step.state, .found step.result, step.signals⟩
  | .takeWith key judge =>
    let step := store.takeWith now key judge
    ⟨step.state, .taking step.result, step.signals⟩
  | .remove key =>
    let step := store.remove key
    ⟨step.state, .done, step.signals⟩
  | .clear =>
    let step := store.clear
    ⟨step.state, .done, step.signals⟩
  | .len =>
    let step := store.len
    ⟨step.state, .counted step.result, step.signals⟩

/-- The entry that a deed stores, and its key. No entry outlives the timeout of the store. -/
def Deed.deposit? (now timeout : Nat) : Deed α → Option (String × Entry α)
  | .put key value => some (key, ⟨value, now, timeout⟩)
  | .putFor key value lifetime => some (key, ⟨value, now, min lifetime timeout⟩)
  | _ => none

def Deed.sought? : Deed α → Option String
  | .get key => some key
  | .takeWith key _ => some key
  | _ => none

def Deed.refusal : Deed α → Reply α
  | .takeWith _ _ => .taking .nothing
  | _ => .found none

def Deed.answer (value : α) : Deed α → Reply α
  | .takeWith _ judge =>
    match judge value with
    | .accepted => .taking (.taken value)
    | .rejected => .taking .nothing
    | .brokeOff => .taking .brokeOff
  | _ => .found (some value)

def Reply.found? : Reply α → Option α
  | .found value => value
  | _ => none

def Reply.taken? : Reply α → Option α
  | .taking outcome => outcome.value?
  | _ => none

def Reply.value? : Reply α → Option α
  | .found value => value
  | .taking outcome => outcome.value?
  | _ => none

/-- The key that was stored, or found by a reader. -/
def used? : Deed α → Reply α → Option String
  | .put key _, _ => some key
  | .putFor key _ _, _ => some key
  | .get key, .found (some _) => some key
  | _, _ => none

/-- The deed neither stores the key anew nor takes it nor drops it. -/
def spares (key : String) : Deed α → Reply α → Bool
  | .put other _, _ => other != key
  | .putFor other _ _, _ => other != key
  | .takeWith other _, .taking (.taken _) => other != key
  | .remove other, _ => other != key
  | .clear, _ => false
  | _, _ => true

/-- All that a deed can do to the shelf, with what it is told. -/
inductive Turns (now timeout : Nat) (shelf : Shelf α) : Deed α → Reply α → Shelf α → Prop where
  | stored {deed : Deed α} {key : String} {entry : Entry α}
      (deposits : deed.deposit? now timeout = some (key, entry)) :
      Turns now timeout shelf deed .done (shelf.put key entry)
  | missed {deed : Deed α} {key : String} (seeks : deed.sought? = some key)
      (absent : shelf.find? key = none) : Turns now timeout shelf deed deed.refusal shelf
  | expired {deed : Deed α} {key : String} {entry : Entry α} (seeks : deed.sought? = some key)
      (found : shelf.find? key = some entry) (lapsed : entry.isExpired now = true) :
      Turns now timeout shelf deed deed.refusal (shelf.without key)
  | hit {key : String} {entry : Entry α} (found : shelf.find? key = some entry)
      (alive : entry.isExpired now = false) :
      Turns now timeout shelf (.get key) (.found (some entry.value)) (shelf.placeFirst key entry)
  | taken {key : String} {judge : α → Verdict} {entry : Entry α}
      (found : shelf.find? key = some entry) (alive : entry.isExpired now = false)
      (accepts : judge entry.value = .accepted) :
      Turns now timeout shelf (.takeWith key judge) (.taking (.taken entry.value)) (shelf.without key)
  | rejected {key : String} {judge : α → Verdict} {entry : Entry α}
      (found : shelf.find? key = some entry) (alive : entry.isExpired now = false)
      (rejects : judge entry.value = .rejected) :
      Turns now timeout shelf (.takeWith key judge) (.taking .nothing) shelf
  | brokeOff {key : String} {judge : α → Verdict} {entry : Entry α}
      (found : shelf.find? key = some entry) (alive : entry.isExpired now = false)
      (breaks : judge entry.value = .brokeOff) :
      Turns now timeout shelf (.takeWith key judge) (.taking .brokeOff) { shelf with poisoned := true }
  | removed (key : String) : Turns now timeout shelf (.remove key) .done (shelf.without key)
  | cleared : Turns now timeout shelf .clear .done { shelf with entries := [] }
  | counted : Turns now timeout shelf .len (.counted shelf.entries.length) shelf

variable {store : Store α} {shelf : Shelf α}

theorem get_turns (placed : store.shelf = some shelf) (now : Nat) (key : String) :
    ∃ next, (store.get now key).state = { store with shelf := some next } ∧
      Turns now store.timeout shelf (.get key) (.found (store.get now key).result) next := by
  rcases get_cases placed now key rfl with
    ⟨absent, state, result⟩ | ⟨entry, found, lapsed, state, result⟩ | ⟨entry, found, alive, state, result⟩
  · rw [state, result]
    exact ⟨_, rfl, .missed rfl absent⟩
  · rw [state, result]
    exact ⟨_, rfl, .expired rfl found lapsed⟩
  · rw [state, result]
    exact ⟨_, rfl, .hit found alive⟩

theorem take_with_turns (placed : store.shelf = some shelf) (now : Nat) (key : String)
    (judge : α → Verdict) :
    ∃ next, (store.takeWith now key judge).state = { store with shelf := some next } ∧
      Turns now store.timeout shelf (.takeWith key judge)
        (.taking (store.takeWith now key judge).result) next := by
  unfold takeWith locked
  rw [placed]
  cases found : shelf.find? key with
  | none => exact ⟨shelf, by simp [found], by simpa [found] using .missed rfl found⟩
  | some entry =>
    cases expiry : entry.isExpired now with
    | true =>
      refine ⟨shelf.without key, by simp [found, Entry.value?, expiry], ?_⟩
      simpa [found, Entry.value?, expiry] using .expired rfl found expiry
    | false =>
      cases judged : judge entry.value with
      | accepted =>
        refine ⟨shelf.without key, by simp [found, Entry.value?, expiry, judged], ?_⟩
        simpa [found, Entry.value?, expiry, judged] using .taken found expiry judged
      | rejected =>
        refine ⟨shelf, by simp [found, Entry.value?, expiry, judged], ?_⟩
        simpa [found, Entry.value?, expiry, judged] using .rejected found expiry judged
      | brokeOff =>
        refine ⟨{ shelf with poisoned := true }, by simp [found, Entry.value?, expiry, judged], ?_⟩
        simpa [found, Entry.value?, expiry, judged] using .brokeOff found expiry judged

theorem perform_turns (placed : store.shelf = some shelf) (now : Nat) (deed : Deed α) :
    ∃ next, (perform store now deed).state = { store with shelf := some next } ∧
      Turns now store.timeout shelf deed (perform store now deed).result next := by
  cases deed with
  | get key => exact get_turns placed now key
  | takeWith key judge => exact take_with_turns placed now key judge
  | put key value =>
    obtain ⟨id, timeout, _⟩ := store
    cases placed
    refine ⟨_, rfl, .stored ?_⟩
    rw [Deed.deposit?, Nat.min_self]
  | putFor key value lifetime =>
    obtain ⟨id, timeout, _⟩ := store
    cases placed
    exact ⟨_, rfl, .stored rfl⟩
  | remove key =>
    obtain ⟨id, timeout, _⟩ := store
    cases placed
    exact ⟨_, rfl, .removed key⟩
  | clear =>
    obtain ⟨id, timeout, _⟩ := store
    cases placed
    exact ⟨_, rfl, .cleared⟩
  | len =>
    obtain ⟨id, timeout, _⟩ := store
    cases placed
    exact ⟨_, rfl, .counted⟩

end Deeds

section Shelves

variable {α : Type} {now timeout : Nat} {shelf next : Shelf α} {deed : Deed α} {reply : Reply α}
  {key : String} {entry : Entry α}

theorem deposit_used (deposits : deed.deposit? now timeout = some (key, entry)) (reply : Reply α) :
    used? deed reply = some key := by
  cases deed with
  | put | putFor =>
    cases deposits
    rfl
  | _ => cases deposits

theorem deposit_spares (deposits : deed.deposit? now timeout = some (key, entry)) (reply : Reply α)
    (other : String) : spares other deed reply = (key != other) := by
  cases deed with
  | put | putFor =>
    cases deposits
    rfl
  | _ => cases deposits

theorem sought_stores_none (seeks : deed.sought? = some key) (now timeout : Nat) :
    deed.deposit? now timeout = none := by
  cases deed with
  | get | takeWith => rfl
  | _ => cases seeks

theorem refusal_unused (seeks : deed.sought? = some key) : used? deed deed.refusal = none := by
  cases deed with
  | get | takeWith => rfl
  | _ => cases seeks

theorem refusal_spares (seeks : deed.sought? = some key) (other : String) :
    spares other deed deed.refusal = true := by
  cases deed with
  | get | takeWith => rfl
  | _ => cases seeks

theorem refusal_empty (seeks : deed.sought? = some key) : deed.refusal.value? = none := by
  cases deed with
  | get | takeWith => rfl
  | _ => cases seeks

theorem turns_capacity (turns : Turns now timeout shelf deed reply next) :
    next.capacity = shelf.capacity := by
  cases turns with
  | stored => exact Shelf.capacity_put
  | _ => rfl

theorem turns_bounded (turns : Turns now timeout shelf deed reply next)
    (bounded : shelf.entries.length ≤ shelf.capacity) (positive : 0 < shelf.capacity) :
    next.entries.length ≤ shelf.capacity := by
  have fewer (name : String) : (shelf.without name).entries.length ≤ shelf.capacity :=
    Nat.le_trans (List.length_filter_le _ _) bounded
  cases turns with
  | stored => exact Shelf.length_put bounded positive
  | expired => exact fewer _
  | hit found => exact Nat.le_trans (Shelf.length_without found) bounded
  | taken => exact fewer _
  | removed => exact fewer _
  | cleared => exact Nat.zero_le _
  | missed | rejected | brokeOff | counted => exact bounded

theorem turns_order (turns : Turns now timeout shelf deed reply next) :
    (used? deed reply = none ∧ next.entries.Sublist shelf.entries) ∨
      ∃ key entry kept, used? deed reply = some key ∧ next.entries = (key, entry) :: kept ∧
        kept.Sublist (shelf.without key).entries := by
  have fewer (name : String) : (shelf.without name).entries.Sublist shelf.entries :=
    List.filter_sublist
  cases turns with
  | @stored _ key entry deposits =>
    obtain ⟨kept, placed, order⟩ := shelf.put_order key entry
    exact .inr ⟨key, entry, kept, deposit_used deposits _, placed, order⟩
  | @hit key entry => exact .inr ⟨key, entry, _, rfl, rfl, List.Sublist.refl _⟩
  | missed seeks => exact .inl ⟨refusal_unused seeks, List.Sublist.refl _⟩
  | expired seeks => exact .inl ⟨refusal_unused seeks, fewer _⟩
  | taken => exact .inl ⟨rfl, fewer _⟩
  | removed => exact .inl ⟨rfl, fewer _⟩
  | cleared => exact .inl ⟨rfl, List.nil_sublist _⟩
  | rejected | brokeOff | counted => exact .inl ⟨rfl, List.Sublist.refl _⟩

theorem turns_origin (turns : Turns now timeout shelf deed reply next) {stored : String × Entry α}
    (member : stored ∈ next.entries) :
    deed.deposit? now timeout = some stored ∨
      spares stored.1 deed reply = true ∧ stored ∈ shelf.entries := by
  have left {name : String} (member : stored ∈ (shelf.without name).entries) :
      (name != stored.1) = true ∧ stored ∈ shelf.entries := by
    obtain ⟨older, different⟩ := List.mem_filter.mp member
    exact ⟨bne_iff_ne.mpr (Ne.symm (bne_iff_ne.mp different)), older⟩
  cases turns with
  | stored deposits =>
    rcases Shelf.mem_put member with rfl | ⟨different, older⟩
    · exact .inl deposits
    · exact .inr ⟨(deposit_spares deposits _ _).trans (bne_iff_ne.mpr (Ne.symm different)), older⟩
  | hit found =>
    rcases List.mem_cons.mp member with rfl | older
    · exact .inr ⟨rfl, Shelf.mem_of_find found⟩
    · exact .inr ⟨rfl, (left older).2⟩
  | missed seeks => exact .inr ⟨refusal_spares seeks _, member⟩
  | expired seeks => exact .inr ⟨refusal_spares seeks _, (left member).2⟩
  | taken => exact .inr (left member)
  | removed => exact .inr (left member)
  | cleared => exact absurd member List.not_mem_nil
  | rejected | brokeOff | counted => exact .inr ⟨rfl, member⟩

theorem turns_deposit (turns : Turns now timeout shelf deed reply next)
    (deposits : deed.deposit? now timeout = some (key, entry)) : next = shelf.put key entry := by
  cases turns with
  | stored alsoDeposits =>
    cases deposits.symm.trans alsoDeposits
    rfl
  | missed seeks => cases deposits.symm.trans (sought_stores_none seeks now timeout)
  | expired seeks => cases deposits.symm.trans (sought_stores_none seeks now timeout)
  | _ => cases deposits

theorem turns_lapsed (turns : Turns now timeout shelf deed reply next)
    (seeks : deed.sought? = some key) (found : shelf.find? key = some entry)
    (lapsed : entry.isExpired now = true) : reply = deed.refusal ∧ next = shelf.without key := by
  cases turns with
  | stored deposits => cases deposits.symm.trans (sought_stores_none seeks now timeout)
  | missed alsoSeeks absent =>
    cases seeks.symm.trans alsoSeeks
    cases found.symm.trans absent
  | expired alsoSeeks =>
    cases seeks.symm.trans alsoSeeks
    exact ⟨rfl, rfl⟩
  | hit alsoFound alive | taken alsoFound alive | rejected alsoFound alive | brokeOff alsoFound alive =>
    cases seeks
    cases found.symm.trans alsoFound
    cases lapsed.symm.trans alive
  | _ => cases seeks

theorem turns_alive (turns : Turns now timeout shelf deed reply next)
    (seeks : deed.sought? = some key) (found : shelf.find? key = some entry)
    (alive : entry.isExpired now = false) : reply = deed.answer entry.value := by
  cases turns with
  | stored deposits => cases deposits.symm.trans (sought_stores_none seeks now timeout)
  | missed alsoSeeks absent =>
    cases seeks.symm.trans alsoSeeks
    cases found.symm.trans absent
  | expired alsoSeeks alsoFound lapsed =>
    cases seeks.symm.trans alsoSeeks
    cases found.symm.trans alsoFound
    cases lapsed.symm.trans alive
  | hit alsoFound =>
    cases seeks
    cases found.symm.trans alsoFound
    rfl
  | taken alsoFound _ judged | rejected alsoFound _ judged | brokeOff alsoFound _ judged =>
    cases seeks
    cases found.symm.trans alsoFound
    rw [Deed.answer, judged]
  | _ => cases seeks

theorem turns_returned (turns : Turns now timeout shelf deed reply next)
    (seeks : deed.sought? = some key) {value : α} (returned : reply.value? = some value) :
    ∃ entry, shelf.find? key = some entry ∧ entry.isExpired now = false ∧ entry.value = value := by
  cases turns with
  | hit found alive | taken found alive =>
    cases seeks
    cases returned
    exact ⟨_, found, alive, rfl⟩
  | missed => cases returned.symm.trans (refusal_empty seeks)
  | expired => cases returned.symm.trans (refusal_empty seeks)
  | stored | rejected | brokeOff => cases returned
  | _ => cases seeks

theorem take_if_cases {accepts : α → Bool}
    (turns : Turns now timeout shelf (.takeIf key accepts) reply next) :
    (reply = .taking .nothing ∧ next = shelf) ∨
    (reply = .taking .nothing ∧ next = shelf.without key ∧
      ∃ entry, shelf.find? key = some entry ∧ entry.isExpired now = true) ∨
    ∃ entry, shelf.find? key = some entry ∧ accepts entry.value = true ∧
      reply = .taking (.taken entry.value) ∧ next = shelf.without key := by
  cases turns with
  | stored deposits => cases deposits
  | missed => exact .inl ⟨rfl, rfl⟩
  | expired seeks found lapsed =>
    cases seeks
    exact .inr (.inl ⟨rfl, rfl, _, found, lapsed⟩)
  | taken found _ judged => exact .inr (.inr ⟨_, found, by simpa using judged, rfl, rfl⟩)
  | rejected => exact .inl ⟨rfl, rfl⟩
  | brokeOff _ _ judged =>
    dsimp only at judged
    split at judged <;> cases judged

theorem turns_counted (turns : Turns now timeout shelf .len reply next) :
    reply = .counted shelf.entries.length := by
  cases turns with
  | counted => rfl
  | stored deposits => cases deposits
  | missed seeks | expired seeks => cases seeks

theorem turns_stands {others : Finset String} (turns : Turns now timeout shelf deed reply next)
    (stands : shelf.Stands others key entry) (own : key ∉ others)
    (alive : entry.isExpired now = false) (spared : spares key deed reply = true)
    (fresh : ∀ used, used? deed reply = some used → used ≠ key → used ∈ others)
    (room : others.card < shelf.capacity) : next.Stands others key entry := by
  have kept := stands.find own
  cases turns with
  | @stored _ other _ deposits =>
    have different : other ≠ key := bne_iff_ne.mp ((deposit_spares deposits _ _).symm.trans spared)
    exact stands.put different (fresh other (deposit_used deposits _) different) room
  | expired _ found lapsed =>
    apply stands.without
    rintro rfl
    cases kept.symm.trans found
    cases alive.symm.trans lapsed
  | @hit other _ found _ =>
    by_cases same : other = key
    · subst same
      cases kept.symm.trans found
      exact Shelf.stands_first others other entry shelf
    · exact stands.placeFirst same (fresh other rfl same)
  | taken => exact stands.without (bne_iff_ne.mp spared)
  | removed => exact stands.without (bne_iff_ne.mp spared)
  | cleared => cases spared
  | missed | rejected | brokeOff | counted => exact stands

end Shelves

end Store

end WeblogFront.Cache
