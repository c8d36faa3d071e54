import WeblogFront.Proofs.Cache.PlanetKey
import WeblogFront.Proofs.Cache.Store
import WeblogFront.Render.Planet
import Mathlib.Data.List.Induction

/-! Runs of planet requests on one cache, while the moment of the last update is known. What is returned is
what a service without cache composes, for this request or for an earlier one with its key: the key
leaves out the reader of a feed and the excerpts of any other view, and so do the promises made here. -/
namespace WeblogFront.Render

theorem planet_cases (clock : Clock) (cache : Cache.Planet) (request : PlanetRequest) {key : String}
    {found : Step Cache.Planet (Option Document)} {updated : Step Cache.Planet Moment}
    (keyed : Cache.planetKey request = key) (looked : cache.get clock key = found)
    (timed : found.state.lastModified clock = updated) :
    (∃ document, found.result = some document ∧
      planet clock cache request =
        ⟨found.state, .ok ⟨document, some key, true⟩, found.signals⟩) ∨
    (found.result = none ∧ ∃ component, updated.result.rfc3339 = .error component ∧
      planet clock cache request =
        ⟨updated.state, .error (.unexpected ("failed to format timestamp: " ++ component.message)),
          found.signals ++ updated.signals⟩) ∨
    (found.result = none ∧ ∃ written, updated.result.rfc3339 = .ok written ∧
      planet clock cache request =
        ⟨(updated.state.put clock key (.ofJson (request.view written))).state,
          .ok ⟨.ofJson (request.view written), some key, false⟩,
          found.signals ++ updated.signals ++
            (updated.state.put clock key (.ofJson (request.view written))).signals⟩) := by
  subst keyed looked timed
  unfold planet
  cases found : (cache.get clock (Cache.planetKey request)).result with
  | some document => exact .inl ⟨document, rfl, by simp [found]⟩
  | none =>
    refine .inr ?_
    cases spelled : ((cache.get clock (Cache.planetKey request)).state.lastModified clock).result.rfc3339 with
    | error component => exact .inl ⟨rfl, component, rfl, by simp [found, spelled]⟩
    | ok written => exact .inr ⟨rfl, written, rfl, by simp [found, spelled]⟩

section Runs

structure Visit where
  clock : Clock
  request : PlanetRequest

def answer (cache : Cache.Planet) (visit : Visit) : Except Failure Document :=
  (planet visit.clock cache visit.request).result.map (·.document)

def visited (start : Cache.Planet) (visits : List Visit) : Cache.Planet :=
  visits.foldl (fun cache visit => (planet visit.clock cache visit.request).state) start

/-- A service that has seen no request yet, but was told when the site was last updated. -/
def recorded (settings : Cache.Settings) (clock : Clock) (moment : Moment) : Cache.Planet :=
  (Cache.Planet.new settings).markUpdated clock moment

/-- The answer as it comes out without any cache. -/
def composed (moment : Moment) (request : PlanetRequest) : Except Failure Document :=
  match moment.rfc3339 with
  | .error component => .error (.unexpected ("failed to format timestamp: " ++ component.message))
  | .ok written => .ok (.ofJson (request.view written))

theorem visited_append (start : Cache.Planet) (past : List Visit) (visit : Visit) :
    visited start (past ++ [visit]) =
      (planet visit.clock (visited start past) visit.request).state := by
  rw [visited, List.foldl_append]
  rfl

/-- Every view on the shelf is the answer to one of the visits, under the key of its request; the moment is
the one that was recorded. -/
structure Faithful (start : Cache.Planet) (moment : Moment) (past : List Visit) (cache : Cache.Planet) :
    Prop where
  views : cache.content.Keeps fun key document =>
    ∃ origin ∈ past, Cache.planetKey origin.request = key ∧
      composed moment origin.request = .ok document
  updated : cache.updated = start.updated

variable {start cache : Cache.Planet} {moment : Moment} {past : List Visit}

theorem Faithful.known (faithful : Faithful start moment past cache) {clock : Clock}
    (known : start.known? clock = some moment) : cache.known? clock = some moment := by
  unfold Cache.Planet.known? at *
  rw [faithful.updated]
  exact known

theorem Faithful.later (faithful : Faithful start moment past cache) (visit : Visit) :
    Faithful start moment (past ++ [visit]) cache where
  views := faithful.views.mono fun _ _ ⟨origin, earlier, rest⟩ =>
    ⟨origin, List.mem_append_left [visit] earlier, rest⟩
  updated := faithful.updated

theorem Faithful.get (faithful : Faithful start moment past cache) (clock : Clock) (key : String) :
    Faithful start moment past (cache.get clock key).state where
  views := faithful.views.get clock.reading key
  updated := faithful.updated

theorem last_modified_known {clock : Clock} (known : cache.known? clock = some moment) :
    cache.lastModified clock = ⟨cache, moment, []⟩ := by
  rw [Cache.Planet.lastModified, known]

theorem last_modified_unknown {clock : Clock} (unknown : cache.known? clock = none) :
    cache.lastModified clock =
      ⟨cache.markUpdated clock clock.wall, clock.wall, [.updateTimeUnknown Cache.planetId]⟩ := by
  rw [Cache.Planet.lastModified, unknown]

theorem last_modified_beside (cache : Cache.Planet) (clock : Clock) {content : Cache.Store Document}
    (same : content.timeout = cache.content.timeout) :
    ({ cache with content := content } : Cache.Planet).lastModified clock =
      ⟨{ (cache.lastModified clock).state with content := content }, (cache.lastModified clock).result,
        (cache.lastModified clock).signals⟩ := by
  cases known : cache.known? clock with
  | some moment =>
    rw [last_modified_known known]
    exact last_modified_known known
  | none =>
    have unknown : ({ cache with content := content } : Cache.Planet).known? clock = none := known
    rw [last_modified_unknown known, last_modified_unknown unknown]
    simp [Cache.Planet.markUpdated, same]

theorem visit_cases (visit : Visit) {found : Step Cache.Planet (Option Document)}
    (looked : cache.get visit.clock (Cache.planetKey visit.request) = found)
    (known : cache.known? visit.clock = some moment) :
    (∃ document, found.result = some document ∧ answer cache visit = .ok document ∧
      (planet visit.clock cache visit.request).state = found.state) ∨
    (found.result = none ∧ answer cache visit = composed moment visit.request ∧
      ((planet visit.clock cache visit.request).state = found.state ∨
        ∃ document, composed moment visit.request = .ok document ∧
          (planet visit.clock cache visit.request).state =
            (found.state.put visit.clock (Cache.planetKey visit.request) document).state)) := by
  -- a look-up does not touch the moment, so it is still known afterwards
  have timed : found.state.lastModified visit.clock = ⟨found.state, moment, []⟩ := by
    apply last_modified_known
    rw [← looked]
    exact known
  unfold answer composed
  rcases planet_cases visit.clock cache visit.request rfl looked timed with
    ⟨document, hit, outcome⟩ | ⟨missed, component, unwritable, outcome⟩ |
    ⟨missed, written, spelled, outcome⟩
  · exact .inl ⟨document, hit, by rw [outcome]; rfl, by rw [outcome]⟩
  · refine .inr ⟨missed, ?_, .inl (by rw [outcome])⟩
    rw [outcome, unwritable]
    rfl
  · refine .inr ⟨missed, ?_, .inr ⟨.ofJson (visit.request.view written), ?_, by rw [outcome]⟩⟩
    · rw [outcome, spelled]
      rfl
    · rw [spelled]

-- Only a composed view enters the store; a moment that cannot be written leaves it as it was found.
theorem Faithful.visit (faithful : Faithful start moment past cache) (visit : Visit)
    (known : start.known? visit.clock = some moment) :
    Faithful start moment (past ++ [visit]) (planet visit.clock cache visit.request).state := by
  have kept := (faithful.later visit).get visit.clock (Cache.planetKey visit.request)
  rcases visit_cases visit rfl (faithful.known known) with
    ⟨document, _, _, same⟩ | ⟨_, _, same | ⟨document, view, stored⟩⟩
  · rw [same]
    exact kept
  · rw [same]
    exact kept
  · rw [stored]
    have origin : visit ∈ past ++ [visit] := List.mem_append_right past List.mem_cons_self
    exact ⟨kept.views.put ⟨visit, origin, rfl, view⟩, kept.updated⟩

theorem faithful_recorded (settings : Cache.Settings) (clock : Clock) (moment : Moment) :
    Faithful (recorded settings clock moment) moment [] (recorded settings clock moment) where
  views := Cache.Store.keeps_new _ _ _
  updated := rfl

theorem visited_faithful (faithful : Faithful start moment [] start)
    (known : ∀ seen ∈ past, start.known? seen.clock = some moment) :
    Faithful start moment past (visited start past) := by
  induction past using List.reverseRecOn with
  | nil => exact faithful
  | append_singleton earlier visit ih =>
    rw [visited_append]
    have before := ih fun seen member => known seen (List.mem_append_left [visit] member)
    exact before.visit visit (known visit (List.mem_append_right earlier List.mem_cons_self))

theorem answer_origin (faithful : Faithful start moment past cache) (visit : Visit)
    (known : start.known? visit.clock = some moment) :
    ∃ origin ∈ past ++ [visit], answer cache visit = composed moment origin.request ∧
      Cache.planetKey origin.request = Cache.planetKey visit.request := by
  rcases visit_cases visit rfl (faithful.known known) with
    ⟨document, hit, answered, _⟩ | ⟨_, answered, _⟩
  · obtain ⟨origin, earlier, keyed, view⟩ := faithful.views.hit hit
    exact ⟨origin, List.mem_append_left [visit] earlier, answered.trans view.symm, keyed⟩
  · exact ⟨visit, List.mem_append_right past List.mem_cons_self, answered, rfl⟩

theorem disabled_answer (settings : Cache.Settings) (start clock : Clock) (request : PlanetRequest)
    (known : (recorded settings start moment).known? clock = some moment) :
    answer (recorded settings.disabled start moment) ⟨clock, request⟩ = composed moment request := by
  have alone : (recorded settings.disabled start moment).known? clock = some moment := known
  -- where nothing is kept, nothing is found
  rcases visit_cases ⟨clock, request⟩ rfl alone with ⟨document, hit, _⟩ | ⟨_, answered, _⟩
  · cases hit
  · exact answered

end Runs

section Transparency

def FromAddress (request : PlanetRequest) : Prop :=
  ∃ path query reader, PlanetRequest.ofParts? path query reader = some request

/-- Each answer is byte for byte what a service without planet cache returns for a request of the run that
asks for the same view: kind, flavor, language and group are its own, and so are the excerpts of a feed
and the reader of any other view. Where two requests forge each other's key, nothing is promised. -/
theorem planet_answer_of_same_view (settings : Cache.Settings) (start : Clock) (moment : Moment)
    (past : List Visit) (visit : Visit)
    (addressed : ∀ seen ∈ past ++ [visit], FromAddress seen.request)
    (known : ∀ seen ∈ past ++ [visit],
      (recorded settings start moment).known? seen.clock = some moment) :
    ∃ origin ∈ past ++ [visit],
      answer (visited (recorded settings start moment) past) visit =
        answer (recorded settings.disabled start moment) ⟨visit.clock, origin.request⟩ ∧
      (Cache.SamePlanetView origin.request visit.request ∨
        Cache.Forges origin.request visit.request ∨ Cache.Forges visit.request origin.request) := by
  have now : visit ∈ past ++ [visit] := List.mem_append_right past List.mem_cons_self
  have earlier : ∀ seen ∈ past, (recorded settings start moment).known? seen.clock = some moment :=
    fun seen member => known seen (List.mem_append_left [visit] member)
  have faithful := visited_faithful (faithful_recorded settings start moment) earlier
  obtain ⟨origin, member, answered, keyed⟩ := answer_origin faithful visit (known visit now)
  refine ⟨origin, member, ?_, ?_⟩
  · rw [answered, disabled_answer settings start visit.clock origin.request (known visit now)]
  · obtain ⟨_, _, _, originAsked⟩ := addressed origin member
    obtain ⟨_, _, _, visitAsked⟩ := addressed visit now
    exact Cache.key_cases (PlanetRequest.addressed_of_parts originAsked)
      (PlanetRequest.addressed_of_parts visitAsked) keyed

theorem second_reader_answer :
    let epoch : Moment := ⟨0, 0, 0⟩
    let clock : Clock := ⟨0, epoch⟩
    let alice : Visit := ⟨clock, ⟨"planet", "feed", some "rss", "en", false, some "alice", none⟩⟩
    let bob : Visit := ⟨clock, ⟨"planet", "feed", some "rss", "en", false, some "bob", none⟩⟩
    ∃ origin ∈ [alice, bob],
      answer (visited (recorded .planet clock epoch) [alice]) bob =
        answer (recorded Cache.Settings.planet.disabled clock epoch) ⟨clock, origin.request⟩ ∧
      (Cache.SamePlanetView origin.request bob.request ∨
        Cache.Forges origin.request bob.request ∨ Cache.Forges bob.request origin.request) := by
  intro epoch clock alice bob
  have aliceAddressed : FromAddress alice.request :=
    ⟨"feed/rss", .empty, some "alice", by decide +kernel⟩
  have bobAddressed : FromAddress bob.request := ⟨"feed/rss", .empty, some "bob", by decide +kernel⟩
  have addressed : ∀ seen ∈ [alice] ++ [bob], FromAddress seen.request := by
    simpa using And.intro aliceAddressed bobAddressed
  have known : ∀ seen ∈ [alice] ++ [bob],
      (recorded .planet clock epoch).known? seen.clock = some epoch := by
    decide +kernel
  exact planet_answer_of_same_view .planet clock epoch [alice] bob addressed known

/-- The reader of a feed is not part of its key: here the second reader is sent the view that names the
first one, and not the view of its own that a service without cache composes. -/
theorem feed_names_first_reader :
    let epoch : Moment := ⟨0, 0, 0⟩
    let clock : Clock := ⟨0, epoch⟩
    ∃ alice bob : PlanetRequest,
      PlanetRequest.ofParts? "feed/rss" .empty (some "alice") = some alice ∧
      PlanetRequest.ofParts? "feed/rss" .empty (some "bob") = some bob ∧
      (recorded .planet clock epoch).known? clock = some epoch ∧
      answer (visited (recorded .planet clock epoch) [⟨clock, alice⟩]) ⟨clock, bob⟩ =
        answer (recorded Cache.Settings.planet.disabled clock epoch) ⟨clock, alice⟩ ∧
      answer (visited (recorded .planet clock epoch) [⟨clock, alice⟩]) ⟨clock, bob⟩ ≠
        answer (recorded Cache.Settings.planet.disabled clock epoch) ⟨clock, bob⟩ := by
  refine ⟨⟨"planet", "feed", some "rss", "en", false, some "alice", none⟩,
    ⟨"planet", "feed", some "rss", "en", false, some "bob", none⟩, ?_⟩
  decide +kernel

end Transparency

end WeblogFront.Render
