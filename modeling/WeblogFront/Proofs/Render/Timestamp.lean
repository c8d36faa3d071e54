import WeblogFront.Proofs.Cache.StoreSignals
import WeblogFront.Proofs.Render.Confinement

/-! The moment of the last update through runs of all that a planet cache is used for. It is a register
beside the views: what was recorded last is what everyone is told until it runs out, and then the
present moment is told, recorded in its place and reported. Views come and go without regard to it; only a
view that has to be composed asks for it, and cannot be composed when the moment cannot be written. -/
namespace WeblogFront

section Writing

namespace Moment

def year (moment : Moment) : Int :=
  (Date.ofDays ((moment.unix + moment.offset) / 86400)).year

structure Writable (moment : Moment) : Prop where
  from_year : 0 ≤ moment.year
  to_year : moment.year ≤ 9999
  under_a_day : moment.offset.natAbs < 86400
  whole_minutes : moment.offset.natAbs % 60 = 0

theorem rfc3339_ok_iff (moment : Moment) :
    (∃ written, moment.rfc3339 = .ok written) ↔ moment.Writable := by
  have outside : (moment.year < 0 || 9999 < moment.year) = true ↔
      ¬ (0 ≤ moment.year ∧ moment.year ≤ 9999) := by
    rw [Bool.or_eq_true, decide_eq_true_iff, decide_eq_true_iff]
    omega
  have hours : 23 < moment.offset.natAbs / 3600 ↔ ¬ moment.offset.natAbs < 86400 := by omega
  unfold year at outside
  unfold rfc3339
  dsimp only
  simp only [outside, hours]
  split
  case isTrue unfit =>
    exact iff_of_false (by simp) fun writable => unfit ⟨writable.from_year, writable.to_year⟩
  case isFalse fits =>
    split
    case isTrue long => exact iff_of_false (by simp) fun writable => long writable.under_a_day
    case isFalse short =>
      split
      case isTrue seconds =>
        exact iff_of_false (by simp) fun writable => seconds writable.whole_minutes
      case isFalse whole =>
        obtain ⟨positive, fourDigits⟩ := not_not.mp fits
        exact iff_of_true ⟨_, rfl⟩ ⟨positive, fourDigits, not_not.mp short, not_not.mp whole⟩

end Moment

end Writing

namespace Render.Register

section Runs

inductive Deed where
  | markUpdated (moment : Moment)
  | lastModified
  | clear
  | render (request : PlanetRequest)
  | put (key : String) (document : Document)
  | get (key : String)
  | remove (key : String)

inductive Reply where
  | done
  | told (moment : Moment)
  | found (document : Option Document)
  | rendered (answer : Except Failure Rendered)

structure Visit where
  clock : Clock
  deed : Deed

def perform (cache : Cache.Planet) (visit : Visit) : Step Cache.Planet Reply :=
  match visit.deed with
  | .markUpdated moment => ⟨cache.markUpdated visit.clock moment, .done, []⟩
  | .lastModified =>
    let step := cache.lastModified visit.clock
    ⟨step.state, .told step.result, step.signals⟩
  | .clear =>
    let step := cache.clear
    ⟨step.state, .done, step.signals⟩
  | .render request =>
    let step := planet visit.clock cache request
    ⟨step.state, .rendered step.result, step.signals⟩
  | .put key document =>
    let step := cache.put visit.clock key document
    ⟨step.state, .done, step.signals⟩
  | .get key =>
    let step := cache.get visit.clock key
    ⟨step.state, .found step.result, step.signals⟩
  | .remove key =>
    let step := cache.remove key
    ⟨step.state, .done, step.signals⟩

structure Happening where
  visit : Visit
  signals : List Signal

/-- The moment that is on record afterwards, and the time of the record: the moment that was named, or the
present one where nothing better was known, and that is never done in silence. -/
def Happening.record? (happening : Happening) : Option (Moment × Nat) :=
  match happening.visit.deed with
  | .markUpdated moment => some (moment, happening.visit.clock.reading)
  | _ =>
    if .updateTimeUnknown Cache.planetId ∈ happening.signals then
      some (happening.visit.clock.wall, happening.visit.clock.reading)
    else none

def Deed.clears : Deed → Bool
  | .clear => true
  | _ => false

def Deed.onContent : Deed → Bool
  | .put _ _ | .get _ | .remove _ => true
  | _ => false

def Happening.spares (happening : Happening) : Bool :=
  happening.record?.isNone && !happening.visit.deed.clears

structure Session where
  cache : Cache.Planet
  log : List Happening

namespace Session

def happening (session : Session) (visit : Visit) : Happening :=
  ⟨visit, (perform session.cache visit).signals⟩

def next (session : Session) (visit : Visit) : Session :=
  ⟨(perform session.cache visit).state, session.log ++ [session.happening visit]⟩

/-- The moment is the one that was recorded last, at this time, and nothing was cleared since. -/
def Recorded (session : Session) (moment : Moment) (time : Nat) : Prop :=
  Latest Happening.record? Happening.spares session.log (moment, time)

def Known (timeout : Nat) (session : Session) (clock : Clock) (moment : Moment) : Prop :=
  ∃ time, session.Recorded moment time ∧ clock.reading - time < timeout

end Session

def after (settings : Cache.Settings) (visits : List Visit) : Session :=
  visits.foldl Session.next ⟨.new settings, []⟩

end Runs

section Steps

variable {timeout : Nat} {content : Cache.Store Document} {cache : Cache.Planet}

def unknownEvent (id : String) : Event :=
  ⟨.warn, "can't get last update time, using current time instead", [("cache", .text id)]⟩

theorem events_append (before after : List Signal) :
    events (before ++ after) = events before ++ events after :=
  List.filterMap_append

theorem unknown_iff_event (id : String) (signals : List Signal) :
    .updateTimeUnknown id ∈ signals ↔ unknownEvent id ∈ events signals := by
  refine ⟨fun said => List.mem_filterMap.mpr ⟨_, said, rfl⟩, fun logged => ?_⟩
  obtain ⟨signal, said, written⟩ := List.mem_filterMap.mp logged
  cases signal with
  | updateTimeUnknown cache =>
    cases written
    exact said
  | ended outcome => cases outcome <;> simp [Signal.event?, Outcome.event, unknownEvent] at written
  | _ => simp [Signal.event?, unknownEvent] at written

structure Ready (timeout : Nat) (content : Cache.Store Document) : Prop where
  timeout : content.timeout = timeout
  sound : content.isPoisoned = false

theorem Ready.visit (ready : Ready timeout content) (visit : Cache.Store.Visit Document)
    (whole : (Cache.Store.attend content visit).result.brokeOff = false) :
    events (Cache.Store.attend content visit).signals = [] ∧
      Ready timeout (Cache.Store.attend content visit).state := by
  obtain ⟨silent, sound, same⟩ := Cache.Store.sound_visit ready.sound visit whole
  exact ⟨silent, same.trans ready.timeout, sound⟩

theorem Ready.get (ready : Ready timeout content) (now : Nat) (key : String) :
    events (content.get now key).signals = [] ∧ Ready timeout (content.get now key).state :=
  ready.visit ⟨now, .deed (.get key)⟩ rfl

theorem Ready.put (ready : Ready timeout content) (now : Nat) (key : String) (document : Document) :
    events (content.put now key document).signals = [] ∧
      Ready timeout (content.put now key document).state :=
  ready.visit ⟨now, .deed (.put key document)⟩ rfl

theorem Ready.remove (ready : Ready timeout content) (key : String) :
    events (content.remove key).signals = [] ∧ Ready timeout (content.remove key).state :=
  ready.visit ⟨0, .deed (.remove key)⟩ rfl

theorem Ready.clear (ready : Ready timeout content) :
    events content.clear.signals = [] ∧ Ready timeout content.clear.state :=
  ready.visit ⟨0, .deed .clear⟩ rfl

theorem last_modified_cases (ready : Ready timeout cache.content) (clock : Clock)
    {told : Step Cache.Planet Moment} (asked : cache.lastModified clock = told) :
    (cache.known? clock = none ∧ .updateTimeUnknown Cache.planetId ∈ told.signals ∧
      told.state.updated = some ⟨clock.wall, clock.reading, timeout⟩) ∨
    (.updateTimeUnknown Cache.planetId ∉ told.signals ∧ told.state.updated = cache.updated) := by
  cases known : cache.known? clock with
  | some moment =>
    cases asked.symm.trans (last_modified_known known)
    exact .inr ⟨List.not_mem_nil, rfl⟩
  | none =>
    cases asked.symm.trans (last_modified_unknown known)
    refine .inl ⟨rfl, List.mem_cons_self, ?_⟩
    rw [← ready.timeout]
    rfl

theorem render_cases (ready : Ready timeout cache.content) (clock : Clock) (request : PlanetRequest)
    {told : Step Cache.Planet Moment} (asked : cache.lastModified clock = told)
    {rendered : Step Cache.Planet (Except Failure Rendered)}
    (outcome : planet clock cache request = rendered) :
    let found := (cache.get clock (Cache.planetKey request)).result
    Ready timeout rendered.state.content ∧
      ((∃ document, found = some document ∧ events rendered.signals = [] ∧
          rendered.state.updated = cache.updated) ∨
        (found = none ∧ events rendered.signals = events told.signals ∧
          rendered.state.updated = told.state.updated ∧
          rendered.result = (composed told.result request).map fun document =>
            ⟨document, some (Cache.planetKey request), false⟩)) := by
  obtain ⟨looked, foundReady⟩ := ready.get clock.reading (Cache.planetKey request)
  have silent : events (cache.get clock (Cache.planetKey request)).signals = [] := looked
  have timed : (cache.get clock (Cache.planetKey request)).state.lastModified clock = _ :=
    last_modified_beside cache clock (foundReady.timeout.trans ready.timeout.symm)
  rw [asked] at timed
  rcases planet_cases clock cache request rfl rfl timed with
    ⟨document, hit, sent⟩ | ⟨missed, component, unwritable, failed⟩ | ⟨missed, written, spelled, stored⟩
  · cases outcome.symm.trans sent
    exact ⟨foundReady, .inl ⟨document, hit, silent, rfl⟩⟩
  · cases outcome.symm.trans failed
    refine ⟨foundReady, .inr ⟨missed, ?_, rfl, ?_⟩⟩
    · rw [events_append, silent, List.nil_append]
    · rw [composed, unwritable]
      rfl
  · cases outcome.symm.trans stored
    obtain ⟨put, storedReady⟩ := foundReady.put clock.reading (Cache.planetKey request)
      (.ofJson (request.view written))
    refine ⟨storedReady, .inr ⟨missed, ?_, rfl, ?_⟩⟩
    · rw [events_append, events_append, silent, List.nil_append]
      exact (congrArg _ put).trans (List.append_nil _)
    · rw [composed, spelled]
      rfl

theorem unheard_of_silent {signals : List Signal} (silent : events signals = []) :
    .updateTimeUnknown Cache.planetId ∉ signals := by
  rw [unknown_iff_event, silent]
  exact List.not_mem_nil

theorem stays_of_on_content {deed : Deed} (concerned : deed.onContent = true) :
    deed.clears = false := by
  cases deed with
  | clear => cases concerned
  | _ => rfl

theorem perform_content (ready : Ready timeout cache.content) {visit : Visit}
    (concerned : visit.deed.onContent = true) {step : Step Cache.Planet Reply}
    (done : perform cache visit = step) :
    Ready timeout step.state.content ∧ (Happening.mk visit step.signals).record? = none ∧
      step.state.updated = cache.updated := by
  obtain ⟨clock, deed⟩ := visit
  cases deed with
  | put key document =>
    cases done
    obtain ⟨silent, after⟩ := ready.put clock.reading key document
    exact ⟨after, if_neg (unheard_of_silent silent), rfl⟩
  | get key =>
    cases done
    obtain ⟨silent, after⟩ := ready.get clock.reading key
    exact ⟨after, if_neg (unheard_of_silent silent), rfl⟩
  | remove key =>
    cases done
    obtain ⟨silent, after⟩ := ready.remove key
    exact ⟨after, if_neg (unheard_of_silent silent), rfl⟩
  | _ => cases concerned

inductive Turns (timeout : Nat) (cache : Cache.Planet) (happening : Happening) :
    Option (Cache.Entry Moment) → Prop where
  | recorded {moment : Moment} {time : Nat} (records : happening.record? = some (moment, time))
      (cause : (∃ moment, happening.visit.deed = .markUpdated moment) ∨
        cache.known? happening.visit.clock = none) :
      Turns timeout cache happening (some ⟨moment, time, timeout⟩)
  | cleared (clears : happening.visit.deed = .clear) (unrecorded : happening.record? = none) :
      Turns timeout cache happening none
  | left (stays : happening.visit.deed.clears = false) (unrecorded : happening.record? = none) :
      Turns timeout cache happening cache.updated

theorem perform_turns (ready : Ready timeout cache.content) (visit : Visit)
    {step : Step Cache.Planet Reply} (done : perform cache visit = step) :
    Ready timeout step.state.content ∧ Turns timeout cache ⟨visit, step.signals⟩ step.state.updated := by
  obtain ⟨clock, deed⟩ := visit
  cases deed with
  | markUpdated moment =>
    cases done
    refine ⟨ready, ?_⟩
    rw [← ready.timeout]
    exact .recorded rfl (.inl ⟨moment, rfl⟩)
  | lastModified =>
    cases done
    refine ⟨(last_modified_content cache clock).symm ▸ ready, ?_⟩
    rcases last_modified_cases ready clock rfl with ⟨unknown, heard, updated⟩ | ⟨unheard, updated⟩
    · exact updated ▸ .recorded (if_pos heard) (.inr unknown)
    · exact updated ▸ .left rfl (if_neg unheard)
  | clear =>
    cases done
    obtain ⟨silent, after⟩ := ready.clear
    exact ⟨after, .cleared rfl (if_neg (unheard_of_silent silent))⟩
  | render request =>
    cases done
    obtain ⟨after, ⟨document, _, silent, updated⟩ | ⟨_, heardAlike, updated, _⟩⟩ :=
      render_cases ready clock request rfl rfl
    · exact ⟨after, updated ▸ .left rfl (if_neg (unheard_of_silent silent))⟩
    · refine ⟨after, ?_⟩
      have alike : .updateTimeUnknown Cache.planetId ∈ (planet clock cache request).signals ↔
          .updateTimeUnknown Cache.planetId ∈ (cache.lastModified clock).signals := by
        rw [unknown_iff_event, unknown_iff_event, heardAlike]
      rcases last_modified_cases ready clock rfl with ⟨unknown, heard, told⟩ | ⟨unheard, told⟩
      · exact (updated.trans told) ▸ .recorded (if_pos (alike.mpr heard)) (.inr unknown)
      · exact (updated.trans told) ▸ .left rfl (if_neg (mt alike.mp unheard))
  | put | get | remove =>
    obtain ⟨after, unrecorded, updated⟩ := perform_content ready rfl done
    exact ⟨after, updated ▸ .left rfl unrecorded⟩

end Steps

section Invariant

variable {settings : Cache.Settings} {session : Session}

structure Session.Mirrors (settings : Cache.Settings) (session : Session) : Prop where
  ready : Ready settings.timeout session.cache.content
  register : ∀ entry, session.cache.updated = some entry ↔
    entry.lifetime = settings.timeout ∧ session.Recorded entry.value entry.storedAt

theorem Session.recorded_next (session : Session) (visit : Visit) (moment : Moment) (time : Nat) :
    (session.next visit).Recorded moment time ↔
      (session.happening visit).record? = some (moment, time) ∨
        (session.happening visit).spares = true ∧ session.Recorded moment time :=
  latest_concat

theorem Session.recorded_kept {visit : Visit} (unrecorded : (session.happening visit).record? = none)
    (stays : visit.deed.clears = false) (moment : Moment) (time : Nat) :
    (session.next visit).Recorded moment time ↔ session.Recorded moment time := by
  have spared : (session.happening visit).spares = true := by
    rw [Happening.spares, unrecorded]
    simpa [Session.happening] using stays
  rw [session.recorded_next visit, unrecorded, spared]
  simp

namespace Session.Mirrors

theorem step (mirrors : session.Mirrors settings) (visit : Visit) :
    (session.next visit).Mirrors settings := by
  obtain ⟨ready, turns⟩ := perform_turns mirrors.ready visit rfl
  refine ⟨ready, fun entry => ?_⟩
  change Turns settings.timeout session.cache (session.happening visit) _ at turns
  change (perform session.cache visit).state.updated = some entry ↔ _
  generalize (perform session.cache visit).state.updated = updated at turns
  cases turns with
  | recorded records cause =>
    have lost : ¬ (session.happening visit).spares = true := by simp [Happening.spares, records]
    obtain ⟨value, storedAt, lifetime⟩ := entry
    simp only [session.recorded_next visit, records, lost, Bool.false_eq_true, false_and, or_false,
      Option.some.injEq, Prod.mk.injEq, Cache.Entry.mk.injEq]
    exact ⟨fun ⟨value, storedAt, same⟩ => ⟨same.symm, value, storedAt⟩,
      fun ⟨same, value, storedAt⟩ => ⟨value, storedAt, same.symm⟩⟩
  | cleared clears unrecorded =>
    have lost : ¬ (session.happening visit).spares = true := by
      simp [Happening.spares, clears, Deed.clears]
    simp [session.recorded_next visit, unrecorded, lost]
  | left stays unrecorded =>
    rw [session.recorded_kept unrecorded stays]
    exact mirrors.register entry

theorem known_iff (mirrors : session.Mirrors settings) (clock : Clock) (moment : Moment) :
    session.cache.known? clock = some moment ↔ session.Known settings.timeout clock moment := by
  have alive : ∀ entry : Cache.Entry Moment, entry.value? clock.reading = some moment ↔
      entry.value = moment ∧ clock.reading - entry.storedAt < entry.lifetime := by
    intro entry
    simp [Cache.Entry.value?, Cache.Entry.isExpired, and_comm]
  rw [Cache.Planet.known?, Option.bind_eq_some_iff]
  simp only [mirrors.register, alive]
  constructor
  · rintro ⟨entry, ⟨lifetime, latest⟩, rfl, unexpired⟩
    exact ⟨entry.storedAt, latest, lifetime ▸ unexpired⟩
  · rintro ⟨time, latest, unexpired⟩
    exact ⟨⟨moment, time, settings.timeout⟩, ⟨rfl, latest⟩, rfl, unexpired⟩

end Session.Mirrors

theorem after_concat (settings : Cache.Settings) (visits : List Visit) (visit : Visit) :
    after settings (visits ++ [visit]) = (after settings visits).next visit := by
  rw [after, List.foldl_append]
  rfl

theorem after_mirrors (settings : Cache.Settings) (visits : List Visit) :
    (after settings visits).Mirrors settings := by
  induction visits using List.reverseRecOn with
  | nil =>
    refine ⟨⟨rfl, ?_⟩, fun entry => ?_⟩
    · exact Cache.Store.sound_new Cache.planetId settings
    · exact iff_of_false (Option.some_ne_none entry).symm fun latest => not_latest_nil _ _ _ latest.2
  | append_singleton visits visit ih =>
    rw [after_concat]
    exact ih.step visit

end Invariant

section Promises

variable {settings : Cache.Settings} {session : Session}

/-- The moment that everyone is told: the one on record if it is known, and the present one otherwise. -/
def Session.Tells (timeout : Nat) (session : Session) (clock : Clock) (moment : Moment) : Prop :=
  session.Known timeout clock moment ∨
    (∀ other, ¬ session.Known timeout clock other) ∧ moment = clock.wall

/-- What a look-up that finds nothing may leave behind: an entry of this key that is over is dropped. -/
inductive LookedUp (now : Nat) (key : String) (before : Cache.Store Document) :
    Cache.Store Document → Prop where
  | untouched : LookedUp now key before before
  | dropped {shelf : Cache.Shelf Document} {entry : Cache.Entry Document}
      (placed : before.shelf = some shelf) (found : shelf.find? key = some entry)
      (lapsed : entry.isExpired now = true) :
      LookedUp now key before { before with shelf := some (shelf.without key) }

structure Composes (cache : Cache.Planet) (clock : Clock) (request : PlanetRequest) (moment : Moment) :
    Prop where
  body : (planet clock cache request).result = (composed moment request).map fun document =>
    ⟨document, some (Cache.planetKey request), false⟩
  fails_iff : (∃ failure, (planet clock cache request).result = .error failure) ↔ ¬ moment.Writable
  unstored : ∀ failure, (planet clock cache request).result = .error failure →
    LookedUp clock.reading (Cache.planetKey request) cache.content
      (planet clock cache request).state.content
  /-- In the register and in the log it is a question for the moment. -/
  asks : (planet clock cache request).state.updated = (cache.lastModified clock).state.updated ∧
    events (planet clock cache request).signals = events (cache.lastModified clock).signals

/-- What the register is to everyone who uses the cache next. -/
structure Session.Registers (settings : Cache.Settings) (session : Session) : Prop where
  /-- As long as the moment that was recorded last is known it is told, and nothing else happens. -/
  known : ∀ clock moment, session.Known settings.timeout clock moment →
    perform session.cache ⟨clock, .lastModified⟩ = ⟨session.cache, .told moment, []⟩
  /-- Then the present moment is told, recorded and reported once. -/
  unknown : ∀ clock, (∀ moment, ¬ session.Known settings.timeout clock moment) →
    let step := perform session.cache ⟨clock, .lastModified⟩
    step.result = .told clock.wall ∧ events step.signals = [unknownEvent Cache.planetId] ∧
      (session.next ⟨clock, .lastModified⟩).Recorded clock.wall clock.reading
  /-- Nothing changes it but who clears it, who names a moment, and who finds no moment that is known. -/
  changed : ∀ visit, (session.next visit).cache.updated ≠ session.cache.updated →
    visit.deed = .clear ∨ (∃ moment, visit.deed = .markUpdated moment) ∨
      ∀ moment, ¬ session.Known settings.timeout visit.clock moment
  content : ∀ visit, visit.deed.onContent = true →
    (session.next visit).cache.updated = session.cache.updated ∧
      ∀ moment time, (session.next visit).Recorded moment time ↔ session.Recorded moment time
  /-- With anything else in the register a view that is found is the same, and the register is left. -/
  hit : ∀ clock request,
    (session.cache.get clock (Cache.planetKey request)).result.isSome = true →
    ∀ register, planet clock { session.cache with updated := register } request =
      let rendered := planet clock session.cache request
      ⟨{ rendered.state with updated := register }, rendered.result, rendered.signals⟩
  missed : ∀ clock request, (session.cache.get clock (Cache.planetKey request)).result = none →
    ∃ moment, session.Tells settings.timeout clock moment ∧
      Composes session.cache clock request moment

theorem found_beside_register {clock : Clock} {cache : Cache.Planet} {request : PlanetRequest}
    (hit : (cache.get clock (Cache.planetKey request)).result.isSome = true)
    (register : Option (Cache.Entry Moment)) :
    planet clock { cache with updated := register } request =
      ⟨{ (planet clock cache request).state with updated := register },
        (planet clock cache request).result, (planet clock cache request).signals⟩ := by
  obtain ⟨document, found⟩ := Option.isSome_iff_exists.mp hit
  have alike : (({ cache with updated := register } : Cache.Planet).get clock
      (Cache.planetKey request)).result = some document := found
  unfold planet
  simp only [found, alike]
  rfl

theorem failed_looked_up {clock : Clock} {cache : Cache.Planet} {request : PlanetRequest}
    {failure : Failure} (failed : (planet clock cache request).result = .error failure) :
    LookedUp clock.reading (Cache.planetKey request) cache.content
      (planet clock cache request).state.content := by
  have confined := planet_confined clock cache request
  rw [failed] at confined
  unfold Confined at confined
  cases placed : cache.content.shelf with
  | none =>
    rw [placed] at confined
    rw [confined.1]
    exact .untouched
  | some shelf =>
    rw [placed] at confined
    obtain ⟨after, state, touches⟩ := confined
    rw [state]
    cases touches with
    | failed =>
      rw [← placed]
      exact .untouched
    | dropped found lapsed => exact .dropped placed found (decide_eq_true lapsed)

theorem composed_fails_iff (moment : Moment) (request : PlanetRequest) :
    (∃ failure, composed moment request = .error failure) ↔ ¬ moment.Writable := by
  rw [← moment.rfc3339_ok_iff, composed]
  cases moment.rfc3339 <;> simp

namespace Session.Mirrors

theorem unknown (mirrors : session.Mirrors settings) {clock : Clock}
    (noneKnown : ∀ moment, ¬ session.Known settings.timeout clock moment) :
    session.cache.known? clock = none :=
  Option.eq_none_iff_forall_ne_some.mpr fun moment known =>
    noneKnown moment ((mirrors.known_iff clock moment).mp known)

theorem told (mirrors : session.Mirrors settings) (clock : Clock) :
    session.Tells settings.timeout clock (session.cache.lastModified clock).result := by
  by_cases known : ∃ moment, session.Known settings.timeout clock moment
  · obtain ⟨moment, known⟩ := known
    rw [last_modified_known ((mirrors.known_iff clock moment).mpr known)]
    exact .inl known
  · have noneKnown := not_exists.mp known
    rw [last_modified_unknown (mirrors.unknown noneKnown)]
    exact .inr ⟨noneKnown, rfl⟩

theorem remembers (mirrors : session.Mirrors settings) {clock : Clock} {moment : Moment}
    (known : session.Known settings.timeout clock moment) :
    perform session.cache ⟨clock, .lastModified⟩ = ⟨session.cache, .told moment, []⟩ := by
  unfold perform
  rw [last_modified_known ((mirrors.known_iff clock moment).mpr known)]

theorem falls_back (mirrors : session.Mirrors settings) {clock : Clock}
    (noneKnown : ∀ moment, ¬ session.Known settings.timeout clock moment) :
    let step := perform session.cache ⟨clock, .lastModified⟩
    step.result = .told clock.wall ∧ events step.signals = [unknownEvent Cache.planetId] ∧
      (session.next ⟨clock, .lastModified⟩).Recorded clock.wall clock.reading := by
  have step : perform session.cache ⟨clock, .lastModified⟩ =
      ⟨session.cache.markUpdated clock clock.wall, .told clock.wall,
        [.updateTimeUnknown Cache.planetId]⟩ := by
    unfold perform
    rw [last_modified_unknown (mirrors.unknown noneKnown)]
  dsimp only
  rw [step]
  refine ⟨rfl, rfl, (session.recorded_next _ _ _).mpr (.inl (if_pos ?_))⟩
  change _ ∈ (perform session.cache ⟨clock, .lastModified⟩).signals
  rw [step]
  exact List.mem_cons_self

theorem changed (mirrors : session.Mirrors settings) {visit : Visit}
    (differs : (session.next visit).cache.updated ≠ session.cache.updated) :
    visit.deed = .clear ∨ (∃ moment, visit.deed = .markUpdated moment) ∨
      ∀ moment, ¬ session.Known settings.timeout visit.clock moment := by
  obtain ⟨_, turns⟩ := perform_turns mirrors.ready visit rfl
  change Turns settings.timeout session.cache (session.happening visit)
    (session.next visit).cache.updated at turns
  generalize (session.next visit).cache.updated = updated at turns differs
  cases turns with
  | recorded _ cause =>
    refine .inr (cause.imp_right fun unknown moment known => ?_)
    exact Option.some_ne_none _ (((mirrors.known_iff _ _).mpr known).symm.trans unknown)
  | cleared clears _ => exact .inl clears
  | left => exact absurd rfl differs

theorem composes (mirrors : session.Mirrors settings) (clock : Clock) (request : PlanetRequest)
    (missed : (session.cache.get clock (Cache.planetKey request)).result = none) :
    Composes session.cache clock request (session.cache.lastModified clock).result := by
  obtain ⟨_, ⟨_, hit, _⟩ | ⟨_, heard, updated, body⟩⟩ :=
    render_cases mirrors.ready clock request rfl rfl
  · cases missed.symm.trans hit
  · refine ⟨body, ?_, fun failure failed => failed_looked_up failed, updated, heard⟩
    rw [body, ← composed_fails_iff _ request]
    cases composed (session.cache.lastModified clock).result request <;> simp [Except.map]

theorem registers (mirrors : session.Mirrors settings) : session.Registers settings where
  known clock moment known := mirrors.remembers known
  unknown clock noneKnown := mirrors.falls_back noneKnown
  changed visit differs := mirrors.changed differs
  content visit concerned := by
    obtain ⟨_, unrecorded, updated⟩ := perform_content mirrors.ready concerned rfl
    exact ⟨updated, session.recorded_kept unrecorded (stays_of_on_content concerned)⟩
  hit clock request found register := found_beside_register found register
  missed clock request missed := ⟨_, mirrors.told clock, mirrors.composes clock request missed⟩

end Session.Mirrors

/-- A planet cache with any settings, after any visits. -/
theorem moment_registered (settings : Cache.Settings) (visits : List Visit) :
    (after settings visits).Registers settings :=
  (after_mirrors settings visits).registers

/-- An offset of whole minutes that has no written form because it is a day long; and a view that fails on
an offset with seconds, after its look-up has dropped an entry that was over. -/
theorem day_long_offset_fails :
    let epoch : Moment := ⟨0, 0, 0⟩
    let request := PlanetRequest.new "weblogs" "en"
    let ahead : Moment := ⟨0, 0, 86400⟩
    let marked := after .planet [⟨⟨0, epoch⟩, .markUpdated ahead⟩]
    let stored := after (Cache.Settings.planet.withTimeout 10)
      [⟨⟨0, epoch⟩, .put (Cache.planetKey request) ⟨"text/html", "stale"⟩⟩,
        ⟨⟨5, epoch⟩, .markUpdated ⟨0, 0, 1⟩⟩]
    (ahead.year = 1970 ∧ ahead.offset % 60 = 0 ∧
      (planet ⟨0, epoch⟩ marked.cache request).result =
        .error (.unexpected ("failed to format timestamp: " ++ UnwritableComponent.offsetHour.message))) ∧
    (planet ⟨12, epoch⟩ stored.cache request).result =
        .error (.unexpected ("failed to format timestamp: " ++ UnwritableComponent.offsetSecond.message)) ∧
      stored.cache.content.size = 1 ∧
      (planet ⟨12, epoch⟩ stored.cache request).state.content.size = 0 := by
  decide +kernel

end Promises

end Render.Register

end WeblogFront
