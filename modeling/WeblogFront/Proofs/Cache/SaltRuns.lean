import WeblogFront.Proofs.Cache.Salts
import WeblogFront.Proofs.Cache.StoreRuns

/-! Salts under any order of operations. The callers of one salt cache take turns, one operation at a time,
and time passes between them, so a run is a list of what is done and of how long it took to come. It is
a run of the store that keeps the salts, and the log of the store tells what becomes of a salt. In every
run a salt is taken once, spent by the user that it was last stored for, and cannot be taken away from
this user by anybody else. Salts that are drawn need not be new for that. -/
namespace WeblogFront.Cache.Salts

abbrev Act := Cache.Act Deed

structure Event where
  act : Act
  reply : Reply
  deriving DecidableEq

def Event.taken? (event : Event) : Option String :=
  Salts.taken? event.act.deed event.reply

def Event.used? (event : Event) : Option String :=
  Salts.used? event.act.deed event.reply

structure Session where
  clock : Nat
  salts : Salts

namespace Session

def step (session : Session) (act : Act) : Step Salts Reply :=
  perform session.salts (session.clock + act.wait) act.deed

def next (session : Session) (act : Act) : Session :=
  ⟨session.clock + act.wait, (session.step act).state⟩

def reply (session : Session) (act : Act) : Reply :=
  (session.step act).result

def events (session : Session) : List Act → List Event
  | [] => []
  | act :: rest => ⟨act, session.reply act⟩ :: (session.next act).events rest

end Session

def after (settings : Settings) (acts : List Act) : Session :=
  acts.foldl Session.next ⟨0, new settings⟩

def elapsed : List Act → Nat
  | [] => 0
  | act :: rest => act.wait + elapsed rest

/-- The distinct salts, but for one, that were stored or found by a reader. -/
def othersUsed (salt : String) (events : List Event) : Finset String :=
  (events.filterMap Event.used?).toFinset.erase salt

theorem mem_others_used {salt used : String} {events : List Event} :
    used ∈ othersUsed salt events ↔ used ≠ salt ∧ ∃ event ∈ events, event.used? = some used := by
  rw [othersUsed, Finset.mem_erase, List.mem_toFinset, List.mem_filterMap]

theorem others_used_mono {salt : String} {events more : List Event} (subset : events ⊆ more) :
    othersUsed salt events ⊆ othersUsed salt more := by
  intro used member
  obtain ⟨different, event, happened, found⟩ := mem_others_used.mp member
  exact mem_others_used.mpr ⟨different, event, subset happened, found⟩

/-- The last of the acts that stored something under the salt recorded the user. -/
def Recorded (past : List Act) (salt user : String) : Prop :=
  ∃ before act later, past = before ++ act :: later ∧ act.deed.stored? = some (salt, user) ∧
    ∀ act ∈ later, ¬ act.deed.Stores salt

def Session.Outlived (session : Session) (salt : String) (now : Nat) : Prop :=
  ∃ shelf entry, session.salts.shelf = some shelf ∧ shelf.find? salt = some entry ∧
    entry.isExpired now = true

structure Session.Spares (session : Session) (salt : String) (acts : List Act) : Prop where
  unstored : ∀ act ∈ acts, ¬ act.deed.Stores salt
  untaken : ∀ event ∈ session.events acts, event.taken? ≠ some salt
  unremoved : ∀ act ∈ acts, act.deed ≠ .remove salt
  uncleared : ∀ act ∈ acts, act.deed ≠ .clear

section Runs

variable {settings : Settings} {session : Store.Session String} {shelf : Shelf String} {past : List Act}
  {act : Act} {salt user : String} {entry : Entry String}

def onStore (act : Act) : Store.Act String :=
  ⟨act.wait, act.deed.onStore⟩

def Session.ofStore (session : Store.Session String) : Session :=
  ⟨session.clock, session.store⟩

theorem next_of_store (session : Store.Session String) (act : Act) :
    (Session.ofStore session).next act = .ofStore (session.next (onStore act)) := by
  rw [Session.next, Session.step, perform_on_store]
  rfl

theorem reply_of_store (session : Store.Session String) (act : Act) :
    (Session.ofStore session).reply act = act.deed.told (session.reply (onStore act)) := by
  rw [Session.reply, Session.step, perform_on_store]
  rfl

theorem run_of_store (session : Store.Session String) (acts : List Act) :
    acts.foldl Session.next (.ofStore session) =
      .ofStore ((acts.map onStore).foldl Store.Session.next session) := by
  induction acts generalizing session with
  | nil => rfl
  | cons act rest ih => rw [List.foldl_cons, next_of_store, ih, List.map_cons, List.foldl_cons]

/-- The store that keeps the salts, after some acts on them; there is no switch that would turn it off. -/
def kept (settings : Settings) (past : List Act) : Store.Session String :=
  Store.after saltsId { settings with enabled := true } (past.map onStore)

theorem after_of_store (settings : Settings) (past : List Act) :
    after settings past = .ofStore (kept settings past) :=
  run_of_store ⟨0, new settings, []⟩ past

theorem kept_mirrors (settings : Settings) (past : List Act) :
    ∃ shelf, (kept settings past).Mirrors { settings with enabled := true } shelf :=
  Store.after_mirrors saltsId _ rfl _

theorem kept_append (settings : Settings) (past since : List Act) :
    kept settings (past ++ since) =
      (since.map onStore).foldl Store.Session.next (kept settings past) := by
  rw [kept, Store.after, List.map_append, List.foldl_append]
  rfl

theorem Recorded.later (recorded : Recorded past salt user) (unstored : ¬ act.deed.Stores salt) :
    Recorded (past ++ [act]) salt user := by
  obtain ⟨before, storing, later, rfl, stores, others⟩ := recorded
  refine ⟨before, storing, later ++ [act], ?_, stores, ?_⟩
  · rw [List.append_assoc, List.cons_append]
  · exact List.forall_mem_append.mpr ⟨others, List.forall_mem_singleton.mpr unstored⟩

theorem recorded_now (past : List Act) (stores : act.deed.stored? = some (salt, user)) :
    Recorded (past ++ [act]) salt user :=
  ⟨past, act, [], rfl, stores, List.forall_mem_nil _⟩

theorem latest_recorded (latest : Store.LatestPut settings.timeout (kept settings past).log salt entry) :
    Recorded past salt entry.value := by
  induction past using List.reverseRecOn with
  | nil => exact absurd latest (not_latest_nil _ _ _)
  | append_singleton past act ih =>
    rw [kept_append] at latest
    rcases Store.latest_put_concat.mp latest with deposits | ⟨spared, earlier⟩
    · exact recorded_now past (stored_of_deposit deposits)
    · refine (ih earlier).later fun stores => ?_
      cases (stored_unspared stores _).symm.trans spared

theorem absent_next (absent : ∀ entry, ¬ Store.LatestPut settings.timeout session.log salt entry)
    (unstored : ¬ act.deed.Stores salt) (entry : Entry String) :
    ¬ Store.LatestPut settings.timeout (session.next (onStore act)).log salt entry := by
  intro latest
  rcases Store.latest_put_concat.mp latest with deposits | ⟨_, earlier⟩
  · exact unstored ⟨_, stored_of_deposit deposits⟩
  · exact absent entry earlier

theorem taken_gone (mirrors : session.Mirrors settings shelf)
    (taken : taken? act.deed ((Session.ofStore session).reply act) = some salt) :
    (∃ entry, Store.LatestPut settings.timeout session.log salt entry) ∧
      ∀ entry, ¬ Store.LatestPut settings.timeout (session.next (onStore act)).log salt entry := by
  rw [reply_of_store] at taken
  obtain ⟨seeks, ⟨owner, returned⟩, unspared⟩ := taken_on_store taken
  obtain ⟨entry, latest, _⟩ := mirrors.returned_latest seeks returned
  refine ⟨⟨entry, latest⟩, fun other alsoLatest => ?_⟩
  rcases Store.latest_put_concat.mp alsoLatest with deposits | ⟨spared, _⟩
  · cases deposits.symm.trans (Store.sought_stores_none seeks _ _)
  · cases unspared.symm.trans spared

theorem taken_once (mirrors : session.Mirrors settings shelf) {acts : List Act}
    (unstored : ∀ act ∈ acts, ¬ act.deed.Stores salt) :
    let takings := ((Session.ofStore session).events acts).countP fun event => event.taken? = some salt
    takings ≤ 1 ∧
      ((∀ entry, ¬ Store.LatestPut settings.timeout session.log salt entry) → takings = 0) := by
  induction acts generalizing session shelf with
  | nil => exact ⟨Nat.zero_le 1, fun _ => rfl⟩
  | cons act rest ih =>
    obtain ⟨stores, unstored⟩ := List.forall_mem_cons.mp unstored
    obtain ⟨next, mirrored⟩ := mirrors.step (onStore act)
    obtain ⟨once, never⟩ := ih mirrored unstored
    rw [Session.events, List.countP_cons, next_of_store]
    split
    case isTrue taken =>
      obtain ⟨⟨entry, latest⟩, gone⟩ := taken_gone mirrors (of_decide_eq_true taken)
      exact ⟨by rw [never gone], fun absent => absurd latest (absent entry)⟩
    case isFalse => exact ⟨once, fun absent => never (absent_next absent stores)⟩

/-- Only the user that was recorded last can be told yes; anybody else changes nothing, but for a salt that
is over and goes. -/
theorem spend_cases (settings : Settings) (past : List Act) (wait : Nat) (salt user : String) :
    let session := after settings past
    let spend : Act := ⟨wait, .spend salt user⟩
    let later := (session.next spend).salts
    Recorded past salt user ∨
      session.reply spend = .verdict false ∧
        (later = session.salts ∨
          session.Outlived salt (session.clock + wait) ∧ later = (session.salts.remove salt).state) := by
  intro session spend later
  obtain ⟨shelf, mirrors⟩ := kept_mirrors settings past
  obtain ⟨next, state, turns⟩ := mirrors.turns (onStore spend)
  have same : session = .ofStore (kept settings past) := after_of_store settings past
  have placed : session.salts.shelf = some shelf := by
    rw [same]
    exact mirrors.placed
  have told : session.reply spend = spend.deed.told ((kept settings past).reply (onStore spend)) := by
    rw [same, reply_of_store]
  have moved : later = { session.salts with shelf := some next } := by
    change (session.next spend).salts = _
    rw [same, next_of_store]
    exact state
  rcases Store.take_if_cases turns with
    ⟨refused, rfl⟩ | ⟨refused, rfl, entry, found, lapsed⟩ | ⟨entry, found, owner, _⟩
  · refine .inr ⟨by rw [told, refused]; rfl, .inl ?_⟩
    rw [moved, ← placed]
  · refine .inr ⟨by rw [told, refused]; rfl, .inr ⟨⟨shelf, entry, placed, found, ?_⟩, ?_⟩⟩
    · rw [same]
      exact lapsed
    · rw [moved, Store.remove, Store.locked, placed]
  · rw [← eq_of_beq owner]
    exact .inl (latest_recorded (mirrors.latest _ (Shelf.mem_of_find found)))

theorem Session.Spares.cons {rest : List Act}
    (spares : (Session.ofStore session).Spares salt (act :: rest)) :
    (Session.ofStore (session.next (onStore act))).Spares salt rest where
  unstored := (List.forall_mem_cons.mp spares.unstored).2
  untaken := by
    have untaken := (List.forall_mem_cons.mp spares.untaken).2
    rwa [next_of_store] at untaken
  unremoved := (List.forall_mem_cons.mp spares.unremoved).2
  uncleared := (List.forall_mem_cons.mp spares.uncleared).2

theorem Session.Spares.head {rest : List Act}
    (spares : (Session.ofStore session).Spares salt (act :: rest)) :
    (session.event (onStore act)).spares salt = true := by
  apply spared_on_store
  · exact spares.unstored act List.mem_cons_self
  · have untaken := spares.untaken _ List.mem_cons_self
    rwa [Event.taken?, reply_of_store] at untaken
  · exact spares.unremoved act List.mem_cons_self
  · exact spares.uncleared act List.mem_cons_self

theorem used_since_next (session : Store.Session String) (act : Act) (salt : String) :
    Store.usedSince salt (session.next (onStore act)).log ⊆
      Store.usedSince salt session.log ∪ othersUsed salt ((Session.ofStore session).events [act]) := by
  intro used member
  by_cases uses : (session.event (onStore act)).used? = some salt
  · change used ∈ Store.usedSince salt (session.log ++ [session.event (onStore act)]) at member
    rw [Store.used_since_own uses] at member
    exact absurd member (Finset.notMem_empty used)
  · rcases (Store.mem_used_since uses).mp member with found | earlier
    · refine Finset.mem_union_right _ (mem_others_used.mpr ⟨?_, _, List.mem_cons_self, ?_⟩)
      · rintro rfl
        exact uses found
      · rw [Event.used?, reply_of_store, ← used_on_store]
        exact found
    · exact Finset.mem_union_left _ earlier

theorem latest_through {timeout : Nat} {since : List Act}
    (latest : Store.LatestPut timeout session.log salt entry)
    (spares : (Session.ofStore session).Spares salt since) :
    let later := (since.map onStore).foldl Store.Session.next session
    Store.LatestPut timeout later.log salt entry ∧ later.clock = session.clock + elapsed since ∧
      Store.usedSince salt later.log ⊆
        Store.usedSince salt session.log ∪ othersUsed salt ((Session.ofStore session).events since) := by
  induction since generalizing session with
  | nil => exact ⟨latest, rfl, Finset.subset_union_left⟩
  | cons act rest ih =>
    obtain ⟨stays, clock, used⟩ := ih (Store.latest_put_concat.mpr (.inr ⟨spares.head, latest⟩)) spares.cons
    refine ⟨stays, clock.trans (Nat.add_assoc _ _ _), used.trans (Finset.union_subset ?_ ?_)⟩
    · refine (used_since_next session act salt).trans (Finset.union_subset_union_right ?_)
      exact others_used_mono (List.cons_subset_cons _ (List.nil_subset _))
    · refine Finset.Subset.trans ?_ Finset.subset_union_right
      apply others_used_mono
      rw [Session.events, next_of_store]
      exact List.subset_cons_self _ _

theorem owner_spends (stores : act.deed.stored? = some (salt, user)) {since : List Act} {wait : Nat}
    (spares : (after settings (past ++ [act])).Spares salt since)
    (alive : elapsed since + wait < min saltLifetime settings.timeout)
    (room : (othersUsed salt ((after settings (past ++ [act])).events since)).card < max settings.size 1) :
    (after settings (past ++ act :: since)).reply ⟨wait, .spend salt user⟩ = .verdict true := by
  let stored := (kept settings past).next (onStore act)
  have before : kept settings (past ++ [act]) = stored := kept_append settings past [act]
  have through : kept settings (past ++ act :: since) =
      (since.map onStore).foldl Store.Session.next stored :=
    kept_append settings past (act :: since)
  rw [after_of_store, before] at spares room
  have deposits := deposit_of_stored stores stored.clock settings.timeout
  have latest : Store.LatestPut settings.timeout stored.log salt _ :=
    Store.latest_put_concat.mpr (.inl deposits)
  -- the salt itself was used last by the act that stored it
  have fresh : Store.usedSince salt stored.log = ∅ :=
    Store.used_since_own (Store.deposit_used deposits _)
  obtain ⟨stays, clock, used⟩ := latest_through latest spares
  rw [fresh, Finset.empty_union] at used
  obtain ⟨shelf, mirrors⟩ := kept_mirrors settings (past ++ act :: since)
  rw [after_of_store, reply_of_store]
  rw [through] at mirrors ⊢
  have young : ((since.map onStore).foldl Store.Session.next stored).clock + wait - stored.clock <
      min saltLifetime settings.timeout := by
    omega
  have answered : Store.Session.reply _ (onStore ⟨wait, .spend salt user⟩) = _ :=
    mirrors.latest_honoured rfl stays young (Nat.lt_of_le_of_lt (Finset.card_le_card used) room)
  rw [answered]
  simp [onStore, Deed.onStore, Store.Deed.answer, Deed.told, Store.Reply.taken?, Taking.value?]

end Runs

section Promises

/-- What the salts of a cache promise, after any acts of its callers. -/
structure OneTime (settings : Settings) : Prop where
  /-- While a salt is not stored again, it is taken at most once. -/
  once : ∀ past between salt, (∀ act ∈ between, ¬ act.deed.Stores salt) →
    ((after settings past).events between).countP (fun event => event.taken? = some salt) ≤ 1
  /-- A spender is told yes only if the salt was stored for it, and for nobody else since. -/
  owned : ∀ past wait salt user,
    (after settings past).reply ⟨wait, .spend salt user⟩ = .verdict true → Recorded past salt user
  /-- Anybody else leaves the salts and their order as they are, but for a salt that has outlived its time. -/
  unmoved : ∀ past wait salt user, ¬ Recorded past salt user →
    let session := after settings past
    let later := (session.next ⟨wait, .spend salt user⟩).salts
    later = session.salts ∨
      session.Outlived salt (session.clock + wait) ∧ later = (session.salts.remove salt).state
  /-- The owner can spend a salt that was spared, within its lifetime, while fewer others are used than
  there is room for. -/
  honoured : ∀ past act salt owner since wait, act.deed.stored? = some (salt, owner) →
    let stored := after settings (past ++ [act])
    stored.Spares salt since →
    elapsed since + wait < min saltLifetime settings.timeout →
    (othersUsed salt (stored.events since)).card < max settings.size 1 →
    (after settings (past ++ act :: since)).reply ⟨wait, .spend salt owner⟩ = .verdict true

theorem salts_one_time (settings : Settings) : OneTime settings where
  once past between salt unstored := by
    obtain ⟨shelf, mirrors⟩ := kept_mirrors settings past
    rw [after_of_store]
    exact (taken_once mirrors unstored).1
  owned past wait salt user accepted := by
    rcases spend_cases settings past wait salt user with recorded | ⟨refused, _⟩
    · exact recorded
    · cases accepted.symm.trans refused
  unmoved past wait salt user stranger :=
    ((spend_cases settings past wait salt user).resolve_left stranger).2
  honoured past act salt owner since wait stores spares alive room := owner_spends stores spares alive room

-- There is room for two salts: one who has lost the salt tries for it, one other salt is stored and a
-- third one is looked for in vain.
theorem contested_salt_honoured :
    let settings : Settings := ⟨false, 2, 60⟩
    let past : List Act := [⟨0, .put "salt" "mallory"⟩]
    let act : Act := ⟨1, .put "salt" "alice"⟩
    let since : List Act := [⟨5, .spend "salt" "mallory"⟩, ⟨5, .put "other" "bob"⟩, ⟨5, .get "third"⟩]
    let stored := after settings (past ++ [act])
    stored.Spares "salt" since ∧ (othersUsed "salt" (stored.events since)).card = 1 ∧
      (after settings (past ++ act :: since)).reply ⟨5, .spend "salt" "alice"⟩ = .verdict true := by
  intro settings past act since stored
  have spares : stored.Spares "salt" since := by
    refine ⟨?_, by decide +kernel, by decide, by decide⟩
    simp [since, Deed.Stores, Deed.stored?]
  have used : (othersUsed "salt" (stored.events since)).card = 1 := by decide +kernel
  refine ⟨spares, used, ?_⟩
  apply (salts_one_time settings).honoured past act "salt" "alice" since 5 rfl spares (by decide)
  rw [used]
  decide

end Promises

end WeblogFront.Cache.Salts
