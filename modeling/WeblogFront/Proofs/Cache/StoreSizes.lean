import WeblogFront.Proofs.Cache.StoreRuns
import Mathlib.Data.List.Nodup

/-! Two stores of different size that are asked the same at the same times. Recency alone does not carry the
argument: an entry that only the larger store still has can be removed there, so that the two grow
apart and come together again. What is kept is an order and a slack. The entries of the smaller store are
entries of the larger one in the same order, and the larger one is never nearer to its capacity than
the smaller one is to its own. So the larger store never drops an entry while the smaller one has room. -/
namespace WeblogFront.Cache

namespace Shelf

variable {α : Type} {narrow wide : Shelf α} {key : String} {entry : Entry α}

def Distinct (shelf : Shelf α) : Prop :=
  (shelf.entries.map (·.1)).Nodup

theorem Distinct.without {shelf : Shelf α} (distinct : shelf.Distinct) (key : String) :
    (shelf.without key).Distinct :=
  distinct.sublist (List.filter_sublist.map _)

theorem Distinct.find {shelf : Shelf α} (distinct : shelf.Distinct)
    (member : (key, entry) ∈ shelf.entries) : shelf.find? key = some entry := by
  cases found : shelf.find? key with
  | none => exact absurd rfl (find_none_iff.mp found _ member)
  | some other =>
    have same := List.inj_on_of_nodup_map distinct (mem_of_find found) member rfl
    exact congrArg some (congrArg Prod.snd same)

theorem without_absent {shelf : Shelf α} (absent : shelf.find? key = none) :
    shelf.without key = shelf := by
  have others := find_none_iff.mp absent
  have kept : (shelf.without key).entries = shelf.entries :=
    List.filter_eq_self.mpr fun stored member => bne_iff_ne.mpr (others stored member)
  cases shelf
  exact congrArg _ kept

theorem not_mem_without (shelf : Shelf α) (key : String) :
    key ∉ (shelf.without key).entries.map (·.1) := by
  intro member
  obtain ⟨stored, placed, same⟩ := List.mem_map.mp member
  exact bne_iff_ne.mp (List.mem_filter.mp placed).2 same

theorem Distinct.length_without {shelf : Shelf α} (distinct : shelf.Distinct)
    (found : shelf.find? key = some entry) :
    (shelf.without key).entries.length + 1 = shelf.entries.length := by
  obtain ⟨front, back, whole, before⟩ := List.lookup_eq_some_iff.mp found
  have behind : ∀ stored ∈ back, (stored.1 != key) = true := by
    intro stored member
    unfold Distinct at distinct
    rw [whole, List.map_append, List.map_cons, List.nodup_append] at distinct
    rw [bne_iff_ne]
    intro same
    exact (List.nodup_cons.mp distinct.2.1).1 (List.mem_map.mpr ⟨stored, member, same⟩)
  have ahead : ∀ stored ∈ front, (stored.1 != key) = true := by
    intro stored member
    rw [bne_iff_ne, ne_comm, ← bne_iff_ne]
    exact before stored member
  simp [Shelf.without, whole, List.filter_eq_self.mpr ahead, List.filter_eq_self.mpr behind]
  omega

/-- All that the narrow shelf has is on the wide one, in the same order, and the wide shelf has at least as
many free places. -/
structure Within (narrow wide : Shelf α) : Prop where
  order : narrow.entries.Sublist wide.entries
  distinct : wide.Distinct
  positive : 0 < narrow.capacity
  slack : wide.entries.length + narrow.capacity ≤ wide.capacity + narrow.entries.length

namespace Within

theorem find (within : narrow.Within wide) (found : narrow.find? key = some entry) :
    wide.find? key = some entry :=
  within.distinct.find (within.order.subset (mem_of_find found))

theorem narrow_distinct (within : narrow.Within wide) : narrow.Distinct :=
  within.distinct.sublist (within.order.map _)

theorem absent (within : narrow.Within wide) (absent : wide.find? key = none) :
    narrow.find? key = none := by
  rw [find_none_iff] at absent ⊢
  exact fun stored member => absent stored (within.order.subset member)

theorem without (within : narrow.Within wide) (key : String) :
    (narrow.without key).Within (wide.without key) := by
  constructor
  · exact within.order.filter _
  · exact within.distinct.without key
  · exact within.positive
  · show (wide.without key).entries.length + narrow.capacity ≤
      wide.capacity + (narrow.without key).entries.length
    have slack := within.slack
    cases found : narrow.find? key with
    | none =>
      rw [without_absent found]
      have fewer : (wide.without key).entries.length ≤ wide.entries.length :=
        List.length_filter_le _ _
      omega
    | some entry =>
      have shorter := within.narrow_distinct.length_without found
      have alsoShorter := within.distinct.length_without (within.find found)
      omega

/-- An entry that only the wide shelf has may go there, and nothing else. -/
theorem without_wide (within : narrow.Within wide) (absent : narrow.find? key = none) :
    narrow.Within (wide.without key) := by
  have gone := within.without key
  rwa [without_absent absent] at gone

theorem cons (within : (narrow.without key).Within (wide.without key)) :
    (narrow.placeFirst key entry).Within (wide.placeFirst key entry) := by
  constructor
  · exact within.order.cons_cons _
  · exact List.nodup_cons.mpr ⟨not_mem_without wide key, within.distinct⟩
  · exact within.positive
  · have slack := within.slack
    simp only [placeFirst, List.length_cons, Shelf.without] at slack ⊢
    omega

theorem placeFirst (within : narrow.Within wide) (key : String) (entry : Entry α) :
    (narrow.placeFirst key entry).Within (wide.placeFirst key entry) :=
  (within.without key).cons

theorem placeFirst_wide (within : narrow.Within wide) (absent : narrow.find? key = none)
    (found : wide.find? key = some entry) : narrow.Within (wide.placeFirst key entry) := by
  have gone := within.without_wide absent
  constructor
  · exact gone.order.trans (List.sublist_cons_self _ _)
  · exact List.nodup_cons.mpr ⟨not_mem_without wide key, gone.distinct⟩
  · exact within.positive
  · have slack := within.slack
    have length := within.distinct.length_without found
    simp only [Shelf.placeFirst, List.length_cons]
    omega

theorem evicts (within : narrow.Within wide) (evicts : wide.evicts key = true) :
    narrow.evicts key = true := by
  obtain ⟨absent, full⟩ := evicts_iff.mp evicts
  refine evicts_iff.mpr ⟨fun stored member => absent stored (within.order.subset member), ?_⟩
  have slack := within.slack
  omega

theorem dropLast (within : narrow.Within wide) (full : narrow.capacity ≤ narrow.entries.length) :
    narrow.dropLast.Within wide.dropLast := by
  have longer := within.order.length_le
  have positive := within.positive
  have slack := within.slack
  constructor
  · have reversed := within.order.reverse.tail
    rw [List.tail_reverse, List.tail_reverse] at reversed
    exact List.reverse_sublist.mp reversed
  · exact within.distinct.sublist ((List.dropLast_sublist _).map _)
  · exact positive
  · simp only [Shelf.dropLast, List.length_dropLast]
    omega

-- The wide shelf may be the only one with room; then the narrow one pays with its last entry, and the
-- wide one with one of the places that it has to spare.
theorem put (within : narrow.Within wide) (key : String) (entry : Entry α) :
    (narrow.put key entry).Within (wide.put key entry) := by
  by_cases wideEvicts : wide.evicts key = true
  · have narrowEvicts := within.evicts wideEvicts
    have full := (evicts_iff.mp narrowEvicts).2
    simp only [Shelf.put, wideEvicts, narrowEvicts, if_true]
    exact (within.dropLast full).placeFirst key entry
  · by_cases narrowEvicts : narrow.evicts key = true
    · obtain ⟨absent, full⟩ := evicts_iff.mp narrowEvicts
      have unmoved := within.without_wide (find_none_iff.mpr absent)
      have positive := within.positive
      have slack := within.slack
      have narrowEntries := narrow.entries_put key entry
      rw [if_pos narrowEvicts] at narrowEntries
      constructor
      · rw [narrowEntries, wide.entries_put, if_neg wideEvicts]
        exact ((List.dropLast_sublist _).trans unmoved.order).cons_cons _
      · unfold Distinct
        rw [wide.entries_put, if_neg wideEvicts]
        exact List.nodup_cons.mpr ⟨not_mem_without wide key, unmoved.distinct⟩
      · rw [capacity_put]
        exact positive
      · rw [narrowEntries, wide.entries_put, if_neg wideEvicts, capacity_put, capacity_put]
        simp only [List.length_cons, List.length_dropLast]
        cases found : wide.find? key with
        | none =>
          have room : wide.entries.length < wide.capacity := by
            simpa [Shelf.evicts, found] using wideEvicts
          rw [without_absent found]
          omega
        | some held =>
          have length := within.distinct.length_without found
          omega
    · simp only [Shelf.put, wideEvicts, narrowEvicts]
      exact within.placeFirst key entry

end Within

end Shelf

namespace Store

section Turns

variable {α : Type} {now timeout : Nat} {shelf next : Shelf α} {deed : Deed α} {reply : Reply α}
  {key : String} {entry : Entry α}

def Deed.leaves (key : String) (entry : Entry α) (shelf : Shelf α) : Deed α → Shelf α
  | .get _ => shelf.placeFirst key entry
  | .takeWith _ judge =>
    match judge entry.value with
    | .accepted => shelf.without key
    | .rejected => shelf
    | .brokeOff => { shelf with poisoned := true }
  | _ => shelf

theorem turns_unmet (turns : Turns now timeout shelf deed reply next)
    (seeks : deed.sought? = some key) (absent : shelf.find? key = none) :
    reply = deed.refusal ∧ next = shelf := by
  cases turns with
  | stored deposits => cases deposits.symm.trans (sought_stores_none seeks now timeout)
  | missed => exact ⟨rfl, rfl⟩
  | expired alsoSeeks found =>
    cases seeks.symm.trans alsoSeeks
    cases found.symm.trans absent
  | hit found | taken found | rejected found | brokeOff found =>
    cases seeks
    cases found.symm.trans absent
  | _ => cases seeks

theorem turns_met (turns : Turns now timeout shelf deed reply next)
    (seeks : deed.sought? = some key) (found : shelf.find? key = some entry)
    (alive : entry.isExpired now = false) : next = deed.leaves key entry shelf := by
  cases turns with
  | stored deposits => cases deposits.symm.trans (sought_stores_none seeks now timeout)
  | missed alsoSeeks absent =>
    cases seeks.symm.trans alsoSeeks
    cases found.symm.trans absent
  | expired alsoSeeks alsoFound lapsed =>
    cases seeks.symm.trans alsoSeeks
    cases found.symm.trans alsoFound
    cases lapsed.symm.trans alive
  | hit alsoFound =>
    cases seeks
    cases found.symm.trans alsoFound
    rfl
  | taken alsoFound _ judged | rejected alsoFound _ judged | brokeOff alsoFound _ judged =>
    cases seeks
    cases found.symm.trans alsoFound
    rw [Deed.leaves, judged]
  | _ => cases seeks

variable {narrow wide narrowNext wideNext : Shelf α} {wideReply : Reply α}

theorem leaves_within (within : narrow.Within wide) (deed : Deed α) (key : String) (entry : Entry α) :
    (deed.leaves key entry narrow).Within (deed.leaves key entry wide) := by
  cases deed with
  | get => exact within.placeFirst key entry
  | takeWith _ judge =>
    simp only [Deed.leaves]
    cases judge entry.value with
    | accepted => exact within.without key
    | rejected => exact within
    | brokeOff => exact ⟨within.order, within.distinct, within.positive, within.slack⟩
  | _ => exact within

theorem leaves_wide (within : narrow.Within wide) (deed : Deed α) (absent : narrow.find? key = none)
    (found : wide.find? key = some entry) : narrow.Within (deed.leaves key entry wide) := by
  cases deed with
  | get => exact within.placeFirst_wide absent found
  | takeWith _ judge =>
    simp only [Deed.leaves]
    cases judge entry.value with
    | accepted => exact within.without_wide absent
    | rejected => exact within
    | brokeOff => exact ⟨within.order, within.distinct, within.positive, within.slack⟩
  | _ => exact within

theorem sought_within (within : narrow.Within wide) (seeks : deed.sought? = some key)
    (turns : Turns now timeout narrow deed reply narrowNext)
    (wideTurns : Turns now timeout wide deed wideReply wideNext) :
    narrowNext.Within wideNext ∧ (reply = deed.refusal ∨ wideReply = reply) := by
  cases found : wide.find? key with
  | none =>
    obtain ⟨refused, rfl⟩ := turns_unmet turns seeks (within.absent found)
    obtain ⟨_, rfl⟩ := turns_unmet wideTurns seeks found
    exact ⟨within, .inl refused⟩
  | some entry =>
    cases narrowFound : narrow.find? key with
    | none =>
      obtain ⟨refused, rfl⟩ := turns_unmet turns seeks narrowFound
      refine ⟨?_, .inl refused⟩
      by_cases lapsed : entry.isExpired now = true
      · rw [(turns_lapsed wideTurns seeks found lapsed).2]
        exact within.without_wide narrowFound
      · rw [turns_met wideTurns seeks found (eq_false_of_ne_true lapsed)]
        exact leaves_wide within deed narrowFound found
    | some held =>
      cases found.symm.trans (within.find narrowFound)
      by_cases lapsed : entry.isExpired now = true
      · obtain ⟨refused, rfl⟩ := turns_lapsed turns seeks narrowFound lapsed
        obtain ⟨_, rfl⟩ := turns_lapsed wideTurns seeks found lapsed
        exact ⟨within.without key, .inl refused⟩
      · have alive := eq_false_of_ne_true lapsed
        rw [turns_met turns seeks narrowFound alive, turns_met wideTurns seeks found alive,
          turns_alive turns seeks narrowFound alive, turns_alive wideTurns seeks found alive]
        exact ⟨leaves_within within deed key entry, .inr rfl⟩

theorem turns_within (within : narrow.Within wide)
    (turns : Turns now timeout narrow deed reply narrowNext)
    (wideTurns : Turns now timeout wide deed wideReply wideNext) :
    narrowNext.Within wideNext ∧ ∀ value, reply.value? = some value → wideReply = reply := by
  cases seeks : deed.sought? with
  | some key =>
    obtain ⟨kept, refused | same⟩ := sought_within within seeks turns wideTurns
    · refine ⟨kept, fun value returned => ?_⟩
      rw [refused, refusal_empty seeks] at returned
      cases returned
    · exact ⟨kept, fun _ _ => same⟩
  | none =>
    cases turns with
    | @stored _ key entry deposits =>
      rw [turns_deposit wideTurns deposits]
      exact ⟨within.put key entry, fun _ returned => nomatch returned⟩
    | removed key =>
      cases wideTurns with
      | removed => exact ⟨within.without key, fun _ returned => nomatch returned⟩
      | stored deposits => cases deposits
      | missed also | expired also => cases also
    | cleared =>
      have positive := within.positive
      have slack := within.slack
      have longer := within.order.length_le
      cases wideTurns with
      | cleared =>
        refine ⟨⟨List.Sublist.refl _, List.nodup_nil, positive, ?_⟩, fun _ returned => nomatch returned⟩
        simp only [List.length_nil]
        omega
      | stored deposits => cases deposits
      | missed also | expired also => cases also
    | counted =>
      cases wideTurns with
      | counted => exact ⟨within, fun _ returned => nomatch returned⟩
      | stored deposits => cases deposits
      | missed also | expired also => cases also
    | missed also | expired also => cases seeks.symm.trans also
    | hit | taken | rejected | brokeOff => cases seeks

end Turns

section Runs

variable {α : Type} {narrow wide : Session α}

structure Session.Within (narrow wide : Session α) : Prop where
  clock : narrow.clock = wide.clock
  timeout : narrow.store.timeout = wide.store.timeout
  shelves : ∃ small large, narrow.store.shelf = some small ∧ wide.store.shelf = some large ∧
    small.Within large

theorem Session.Within.step (within : narrow.Within wide) (act : Act α) :
    (narrow.next act).Within (wide.next act) ∧
      ∀ value, (narrow.reply act).value? = some value → wide.reply act = narrow.reply act := by
  obtain ⟨small, large, placed, alsoPlaced, kept⟩ := within.shelves
  obtain ⟨smaller, state, turns⟩ := perform_turns placed (narrow.clock + act.wait) act.deed
  obtain ⟨larger, alsoState, alsoTurns⟩ := perform_turns alsoPlaced (wide.clock + act.wait) act.deed
  rw [← within.clock, ← within.timeout] at alsoTurns
  obtain ⟨next, answered⟩ := turns_within kept turns alsoTurns
  refine ⟨⟨?_, ?_, smaller, larger, congrArg Store.shelf state, congrArg Store.shelf alsoState, next⟩, ?_⟩
  · exact congrArg (· + act.wait) within.clock
  · exact (congrArg Store.timeout state).trans
      (within.timeout.trans (congrArg Store.timeout alsoState).symm)
  · simp only [Session.reply, Session.step, ← within.clock]
    exact answered

theorem Session.Within.entries (within : narrow.Within wide) :
    narrow.entries.Sublist wide.entries := by
  obtain ⟨small, large, placed, alsoPlaced, kept⟩ := within.shelves
  simp only [Session.entries, placed, alsoPlaced]
  exact kept.order

theorem Session.Within.run (within : narrow.Within wide) (acts : List (Act α)) :
    (acts.foldl Session.next narrow).Within (acts.foldl Session.next wide) := by
  induction acts generalizing narrow wide with
  | nil => exact within
  | cons act rest ih => exact ih (within.step act).1

variable {small large : Nat}

theorem new_within (narrowId wideId : String) (timeout : Nat) (fits : small ≤ large) :
    (⟨0, new narrowId ⟨true, small, timeout⟩, []⟩ : Session α).Within
      ⟨0, new wideId ⟨true, large, timeout⟩, []⟩ := by
  refine ⟨rfl, rfl, ⟨max small 1, false, []⟩, ⟨max large 1, false, []⟩, rfl, rfl, ?_⟩
  constructor
  · exact List.Sublist.refl _
  · exact List.nodup_nil
  · exact Nat.lt_of_lt_of_le Nat.one_pos (Nat.le_max_right _ _)
  · simp only [List.length_nil]
    omega

/-- Of two new stores with one timeout, asked the same at the same times, the larger one has whatever the
smaller one has, with its value, its time and its lifetime and in the order of last use, and what the
smaller one answers with a value the larger one answers alike. -/
theorem larger_store_remembers (narrowId wideId : String) (timeout : Nat) (fits : small ≤ large)
    (acts : List (Act α)) :
    let narrow := after narrowId ⟨true, small, timeout⟩ acts
    let wide := after wideId ⟨true, large, timeout⟩ acts
    narrow.entries.Sublist wide.entries ∧
      ∀ act value, (narrow.reply act).value? = some value → wide.reply act = narrow.reply act := by
  intro narrow wide
  have within : narrow.Within wide := (new_within narrowId wideId timeout fits).run acts
  exact ⟨within.entries, fun act => (within.step act).2⟩

-- The first entry is gone from the smaller store when it is read, so only the larger one brings it forward;
-- the second one is still there in both.
theorem forgotten_entry_read :
    let acts : List (Act Nat) :=
      [⟨0, .put "first" 1⟩, ⟨5, .put "second" 2⟩, ⟨5, .get "first"⟩, ⟨5, .remove "third"⟩]
    let narrow := after "narrow" ⟨true, 1, 60⟩ acts
    let wide := after "wide" ⟨true, 2, 60⟩ acts
    1 ≤ 2 ∧ narrow.entries = [("second", ⟨2, 5, 60⟩)] ∧
      wide.entries = [("first", ⟨1, 0, 60⟩), ("second", ⟨2, 5, 60⟩)] ∧
      narrow.entries.Sublist wide.entries ∧
      narrow.reply ⟨0, .take "second"⟩ = .taking (.taken 2) ∧
      wide.reply ⟨0, .take "second"⟩ = .taking (.taken 2) := by
  intro acts narrow wide
  have fits : 1 ≤ 2 := by decide
  have answered : narrow.reply ⟨0, .take "second"⟩ = .taking (.taken 2) := by rfl
  obtain ⟨order, alike⟩ := larger_store_remembers "narrow" "wide" 60 fits acts
  refine ⟨fits, by decide +kernel, by decide +kernel, order, answered, ?_⟩
  rw [← answered]
  apply alike ⟨0, .take "second"⟩ 2
  show (narrow.reply ⟨0, .take "second"⟩).value? = some 2
  rw [answered]
  rfl

end Runs

end Store

end WeblogFront.Cache
