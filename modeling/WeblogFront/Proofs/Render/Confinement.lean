import WeblogFront.Proofs.Cache.StoreSizes
import WeblogFront.Proofs.Render.Outcome
import WeblogFront.Proofs.Render.Planet

/-! How far a render reaches. It reads and writes one store, under one key: a page the page store, a planet
view the planet store, and a preview no store at all. The look-up comes first and may already drop the
entry of this key, when it is over; all that can still go wrong comes before anything is stored. So a
render that fails has stored nothing, one that finds a live entry moves this entry to the front, and one
that finds none stores its document in front, at the cost of the least recently used entry where the
shelf is full. Beside the stores there is the moment of the last update, which only a planet view that
is composed asks for. -/
namespace WeblogFront.Render

section Stores

def others (shelf : Cache.Shelf Document) (key : String) : List (String × Cache.Entry Document) :=
  shelf.entries.filter fun stored => stored.1 != key

/-- What a render under this key makes of a shelf, with what it answers, when `made` is what would come out
without a cache. -/
inductive Touches (now timeout : Nat) (key : String) (made : Except Failure Document)
    (before : Cache.Shelf Document) : Except Failure Rendered → Cache.Shelf Document → Prop where
  | hit {entry : Cache.Entry Document} (found : before.entries.lookup key = some entry)
      (alive : now - entry.storedAt < entry.lifetime) :
      Touches now timeout key made before (.ok ⟨entry.value, some key, true⟩)
        { before with entries := (key, entry) :: others before key }
  | failed {failure : Failure} (absent : before.entries.lookup key = none)
      (refused : made = .error failure) : Touches now timeout key made before (.error failure) before
  | dropped {entry : Cache.Entry Document} {failure : Failure}
      (found : before.entries.lookup key = some entry)
      (lapsed : entry.lifetime ≤ now - entry.storedAt) (refused : made = .error failure) :
      Touches now timeout key made before (.error failure)
        { before with entries := others before key }
  | stored {document : Document}
      (missed : ∀ entry, before.entries.lookup key = some entry →
        entry.lifetime ≤ now - entry.storedAt)
      (composes : made = .ok document) :
      Touches now timeout key made before (.ok ⟨document, some key, false⟩)
        { before with entries := (key, ⟨document, now, timeout⟩) ::
            if before.capacity ≤ (others before key).length then (others before key).dropLast
            else others before key }

/-- A store that is open keeps its name, its timeout and its lock, and its shelf is touched under the one
key; a store that is disabled stays as it is, and nothing is found in it. -/
def Confined (now : Nat) (key : String) (made : Except Failure Document)
    (store : Cache.Store Document) (result : Except Failure Rendered) (next : Cache.Store Document) :
    Prop :=
  match store.shelf with
  | none => next = store ∧ result = made.map fun document => ⟨document, some key, false⟩
  | some before =>
    ∃ after, next = { store with shelf := some after } ∧
      Touches now store.timeout key made before result after

variable {store : Cache.Store Document} {before : Cache.Shelf Document} {key : String}
  {made : Except Failure Document} {result : Except Failure Rendered} {next : Cache.Store Document}

/-- What is on the shelf and what would be made decide the outcome. -/
theorem touches_unique {now timeout : Nat} {after otherAfter : Cache.Shelf Document}
    {other : Except Failure Rendered} (first : Touches now timeout key made before result after)
    (second : Touches now timeout key made before other otherAfter) :
    result = other ∧ after = otherAfter := by
  cases first with
  | hit found alive =>
    cases second with
    | hit alsoFound =>
      cases found.symm.trans alsoFound
      exact ⟨rfl, rfl⟩
    | failed absent => cases found.symm.trans absent
    | dropped alsoFound lapsed =>
      cases found.symm.trans alsoFound
      exact absurd alive (Nat.not_lt_of_le lapsed)
    | stored missed => exact absurd alive (Nat.not_lt_of_le (missed _ found))
  | failed absent refused =>
    cases second with
    | hit found => cases absent.symm.trans found
    | failed _ alsoRefused =>
      cases refused.symm.trans alsoRefused
      exact ⟨rfl, rfl⟩
    | dropped found => cases absent.symm.trans found
    | stored _ composes => cases refused.symm.trans composes
  | dropped found lapsed refused =>
    cases second with
    | hit alsoFound alive =>
      cases found.symm.trans alsoFound
      exact absurd alive (Nat.not_lt_of_le lapsed)
    | failed absent => cases found.symm.trans absent
    | dropped _ _ alsoRefused =>
      cases refused.symm.trans alsoRefused
      exact ⟨rfl, rfl⟩
    | stored _ composes => cases refused.symm.trans composes
  | stored missed composes =>
    cases second with
    | hit found alive => exact absurd alive (Nat.not_lt_of_le (missed _ found))
    | failed _ refused => cases refused.symm.trans composes
    | dropped _ _ refused => cases refused.symm.trans composes
    | stored _ alsoComposes =>
      cases composes.symm.trans alsoComposes
      exact ⟨rfl, rfl⟩

theorem confined_open {now : Nat} (placed : store.shelf = some before) {after : Cache.Shelf Document}
    (state : next = { store with shelf := some after })
    (touches : Touches now store.timeout key made before result after) :
    Confined now key made store result next := by
  unfold Confined
  rw [placed]
  exact ⟨after, state, touches⟩

theorem Confined.outcome {now : Nat} (confined : Confined now key made store result next)
    (placed : store.shelf = some before) {after : Cache.Shelf Document}
    {expected : Except Failure Rendered}
    (touches : Touches now store.timeout key made before expected after) :
    result = expected ∧ next = { store with shelf := some after } := by
  unfold Confined at confined
  rw [placed] at confined
  obtain ⟨reached, rfl, reaches⟩ := confined
  obtain ⟨rfl, rfl⟩ := touches_unique reaches touches
  exact ⟨rfl, rfl⟩

theorem confined_disabled {now : Nat} (placed : store.shelf = none) (same : next = store)
    (missed : result = made.map fun document => ⟨document, some key, false⟩) :
    Confined now key made store result next := by
  unfold Confined
  rw [placed]
  exact ⟨same, missed⟩

theorem put_absent {shelf : Cache.Shelf Document} (entry : Cache.Entry Document)
    (absent : shelf.find? key = none) :
    shelf.put key entry =
      { shelf with entries := (key, entry) ::
          if shelf.capacity ≤ shelf.entries.length then shelf.entries.dropLast else shelf.entries } := by
  have shape : shelf.put key entry = { shelf with entries := (shelf.put key entry).entries } := by
    unfold Cache.Shelf.put
    split <;> rfl
  have unused := Cache.Shelf.find_none_iff.mp absent
  rw [shape, Cache.Shelf.entries_put, Cache.Shelf.without_absent absent]
  simp only [Cache.Shelf.evicts_iff, and_iff_right unused]

/-- The look-up that every render starts with finds a live entry and moves it, or finds none; then what is
left is the shelf without the key. -/
theorem search_cases (placed : store.shelf = some before) (now : Nat) (key : String)
    {found : Step (Cache.Store Document) (Option Document)} (looked : store.get now key = found) :
    (∃ entry, before.find? key = some entry ∧ now - entry.storedAt < entry.lifetime ∧
      found.result = some entry.value ∧
      found.state = { store with shelf := some (before.placeFirst key entry) }) ∨
    (found.result = none ∧ found.state = { store with shelf := some (before.without key) } ∧
      ∀ entry, before.find? key = some entry → entry.lifetime ≤ now - entry.storedAt) := by
  rcases Cache.Store.get_cases placed now key looked with
    ⟨absent, state, result⟩ | ⟨entry, found, lapsed, state, result⟩ |
    ⟨entry, found, alive, state, result⟩
  · rw [Cache.Shelf.without_absent absent]
    refine .inr ⟨result, state, ?_⟩
    intro entry found
    cases absent.symm.trans found
  · refine .inr ⟨result, state, ?_⟩
    intro other alsoFound
    cases found.symm.trans alsoFound
    exact of_decide_eq_true lapsed
  · exact .inl ⟨entry, found, Nat.lt_of_not_le (of_decide_eq_false alive), result, state⟩

theorem get_shelfless (placed : store.shelf = none) (now : Nat) (key : String) :
    store.get now key = ⟨store, none, []⟩ := by
  rw [Cache.Store.get, Cache.Store.locked, placed]

theorem found_confined {now : Nat} {document : Document}
    (hit : (store.get now key).result = some document) (made : Except Failure Document) :
    Confined now key made store (.ok ⟨document, some key, true⟩) (store.get now key).state := by
  cases placed : store.shelf with
  | none =>
    rw [get_shelfless placed] at hit
    cases hit
  | some before =>
    rcases search_cases placed now key rfl with ⟨entry, found, alive, result, state⟩ | ⟨missed, _⟩
    · cases result.symm.trans hit
      exact confined_open placed state (.hit found alive)
    · cases missed.symm.trans hit

theorem failed_confined {now : Nat} (missed : (store.get now key).result = none) {failure : Failure}
    (refused : made = .error failure) :
    Confined now key made store (.error failure) (store.get now key).state := by
  cases placed : store.shelf with
  | none =>
    rw [get_shelfless placed]
    apply confined_disabled placed rfl
    rw [refused]
    rfl
  | some before =>
    rcases search_cases placed now key rfl with ⟨entry, _, _, result, _⟩ | ⟨_, state, lapsed⟩
    · cases result.symm.trans missed
    · apply confined_open placed state
      cases found : before.find? key with
      | none =>
        rw [Cache.Shelf.without_absent found]
        exact .failed found refused
      | some entry => exact .dropped found (lapsed entry found) refused

theorem composed_confined {now : Nat} (missed : (store.get now key).result = none)
    {document : Document} (composes : made = .ok document) :
    Confined now key made store (.ok ⟨document, some key, false⟩)
      ((store.get now key).state.put now key document).state := by
  cases placed : store.shelf with
  | none =>
    rw [get_shelfless placed]
    apply confined_disabled placed
    · rw [Cache.Store.put, Cache.Store.putFor, Cache.Store.locked, placed]
    · rw [composes]
      rfl
  | some before =>
    rcases search_cases placed now key rfl with ⟨entry, _, _, result, _⟩ | ⟨_, state, lapsed⟩
    · cases result.symm.trans missed
    · refine confined_open placed ?_ (.stored lapsed composes)
      have shape := put_absent ⟨document, now, store.timeout⟩ (before.find_without key)
      rw [state]
      simp only [Cache.Store.put, Cache.Store.putFor, Cache.Store.locked, Nat.min_self]
      exact congrArg (Cache.Store.mk store.id store.timeout) (congrArg some shape)

end Stores

section Renders

theorem page_confined (lookups : Site.Lookups) (now : Nat) (store : Cache.Store Document)
    {request : PageRequest} (published : request.descriptor.preview = none) :
    Confined now (Cache.pageKey request.descriptor) (build lookups request).result store
      (page lookups now store request).result (page lookups now store request).state.store := by
  have unpreviewed : request.descriptor.isPreview = false := by rw [Descriptor.isPreview, published]; rfl
  rcases page_cases lookups now store request rfl rfl rfl with
    ⟨previewed, _⟩ | ⟨_, document, hit, outcome⟩ | ⟨_, missed, failure, refused, outcome⟩ |
    ⟨_, missed, document, built, outcome⟩
  · cases unpreviewed.symm.trans previewed
  · rw [outcome]
    exact found_confined hit _
  · rw [outcome]
    exact failed_confined missed refused
  · rw [outcome]
    exact composed_confined missed built

theorem last_modified_content (cache : Cache.Planet) (clock : Clock) :
    (cache.lastModified clock).state.content = cache.content := by
  unfold Cache.Planet.lastModified
  cases cache.known? clock <;> rfl

theorem last_modified_result (cache : Cache.Planet) (clock : Clock) :
    (cache.lastModified clock).result = (cache.known? clock).getD clock.wall := by
  unfold Cache.Planet.lastModified
  cases cache.known? clock <;> rfl

theorem planet_confined (clock : Clock) (cache : Cache.Planet) (request : PlanetRequest) :
    Confined clock.reading (Cache.planetKey request)
      (composed ((cache.known? clock).getD clock.wall) request) cache.content
      (planet clock cache request).result (planet clock cache request).state.content := by
  -- a look-up leaves the moment alone
  have told : ((cache.get clock (Cache.planetKey request)).state.lastModified clock).result =
      (cache.known? clock).getD clock.wall :=
    last_modified_result _ clock
  rcases planet_cases clock cache request rfl rfl rfl with
    ⟨document, hit, outcome⟩ | ⟨missed, component, unwritable, outcome⟩ |
    ⟨missed, written, spelled, outcome⟩
  · rw [outcome]
    exact found_confined hit _
  · rw [told] at unwritable
    rw [outcome, last_modified_content]
    apply failed_confined missed
    rw [composed, unwritable]
  · rw [told] at spelled
    have view : composed ((cache.known? clock).getD clock.wall) request =
        .ok (.ofJson (request.view written)) := by
      rw [composed, spelled]
    rw [outcome]
    have stored := composed_confined missed view
    simp only [Cache.Planet.put, Cache.Planet.withContent, last_modified_content]
    exact stored

theorem planet_moment (clock : Clock) (cache : Cache.Planet) (request : PlanetRequest) :
    (planet clock cache request).state.updated =
      if isHit (planet clock cache request).result = true ∨ (cache.known? clock).isSome = true
      then cache.updated else some ⟨clock.wall, clock.reading, cache.content.timeout⟩ := by
  have timed : ((cache.get clock (Cache.planetKey request)).state.lastModified clock).state.updated =
      if (cache.known? clock).isSome = true then cache.updated
      else some ⟨clock.wall, clock.reading, cache.content.timeout⟩ := by
    -- a look-up touches neither the moment nor the timeout with which it would be recorded
    have timeout : (cache.get clock (Cache.planetKey request)).state.content.timeout =
        cache.content.timeout :=
      Cache.Store.timeout_locked _ _ _ _
    have beside : (cache.get clock (Cache.planetKey request)).state.lastModified clock = _ :=
      last_modified_beside cache clock timeout
    rw [beside]
    cases known : cache.known? clock with
    | some moment =>
      rw [last_modified_known known]
      rfl
    | none =>
      rw [last_modified_unknown known]
      rfl
  rcases planet_cases clock cache request rfl rfl rfl with
    ⟨document, hit, outcome⟩ | ⟨missed, component, _, outcome⟩ | ⟨missed, written, _, outcome⟩
  · rw [outcome]
    rfl
  · rw [outcome]
    simpa [isHit] using timed
  · rw [outcome]
    simpa [isHit, Cache.Planet.put, Cache.Planet.withContent] using timed

/-- A page and a planet view, rendered in any state of the caches. -/
theorem renders_confined (caches : Caches) (lookups : Site.Lookups) (now : Nat) (request : PageRequest)
    (clock : Clock) (asked : PlanetRequest) :
    let paged := Call.run caches (.page lookups now request)
    let viewed := Call.run caches (.planet clock asked)
    let made := (build lookups request).result
    let shown := (page lookups now caches.pages request).result
    let answer := (planet clock caches.planet asked).result
    ((request.descriptor.preview = none →
        Confined now (Cache.pageKey request.descriptor) made caches.pages shown paged.pages) ∧
      (request.descriptor.preview ≠ none →
        paged.pages = caches.pages ∧ shown = made.map fun document => ⟨document, none, false⟩) ∧
      paged.planet = caches.planet ∧ paged.salts = caches.salts) ∧
    Confined clock.reading (Cache.planetKey asked)
        (composed ((caches.planet.known? clock).getD clock.wall) asked) caches.planet.content answer
        viewed.planet.content ∧
      viewed.pages = caches.pages ∧ viewed.salts = caches.salts ∧
      viewed.planet.updated =
        if isHit answer = true ∨ (caches.planet.known? clock).isSome = true
        then caches.planet.updated
        else some ⟨clock.wall, clock.reading, caches.planet.content.timeout⟩ := by
  intro paged viewed made shown answer
  refine ⟨⟨page_confined lookups now caches.pages, fun previewed => ?_, rfl, rfl⟩, ?_, rfl, rfl, ?_⟩
  · have outside := Option.isSome_iff_ne_none.mpr previewed
    exact ⟨preview_passes_cache lookups now caches.pages request outside,
      preview_built lookups now caches.pages request outside⟩
  · exact planet_confined clock caches.planet asked
  · exact planet_moment clock caches.planet asked

-- Both shelves are full. The page is not on its shelf, so that the oldest one makes room for it; the planet
-- view on the other shelf is over, and the moment from which a new one would be composed has no written form.
theorem crowded_renders_confined :
    let site : Site.Contents := ⟨[], [⟨"blog", "Blog", none, "basic", [], [], []⟩]⟩
    let request : PageRequest := .fresh (Descriptor.home "blog" true)
    let asked := PlanetRequest.new "weblogs" "en"
    let key := Cache.pageKey request.descriptor
    let planetKey := Cache.planetKey asked
    let clock : Clock := ⟨12, ⟨0, 0, 1⟩⟩
    let old : Document := ⟨"text/html", "old"⟩
    let pages : Cache.Shelf Document := ⟨2, false, [("recent", ⟨old, 5, 60⟩), ("oldest", ⟨old, 0, 60⟩)]⟩
    let views : Cache.Shelf Document := ⟨2, false, [("other", ⟨old, 5, 10⟩), (planetKey, ⟨old, 0, 10⟩)]⟩
    let caches : Caches :=
      ⟨⟨"pages", 60, some pages⟩, ⟨⟨"planet", 10, some views⟩, none⟩, Cache.Salts.new .salts⟩
    let paged := Call.run caches (.page site.lookups 9 request)
    let viewed := Call.run caches (.planet clock asked)
    request.descriptor.preview = none ∧
    (∃ document, (page site.lookups 9 caches.pages request).result = .ok ⟨document, some key, false⟩ ∧
      paged.pages.shelf = some ⟨2, false, [(key, ⟨document, 9, 60⟩), ("recent", ⟨old, 5, 60⟩)]⟩) ∧
    (∃ failure, (planet clock caches.planet asked).result = .error failure) ∧
      viewed.planet.content.shelf = some ⟨2, false, [("other", ⟨old, 5, 10⟩)]⟩ := by
  intro site request asked key planetKey clock old pages views caches paged viewed
  obtain ⟨⟨pageConfined, _⟩, viewConfined, _⟩ :=
    renders_confined caches site.lookups 9 request clock asked
  obtain ⟨document, built⟩ : ∃ document, (build site.lookups request).result = .ok document := ⟨_, rfl⟩
  have absent : pages.entries.lookup key = none := by decide +kernel
  have missed : ∀ entry, pages.entries.lookup key = some entry → entry.lifetime ≤ 9 - entry.storedAt :=
    fun entry found => absurd (absent.symm.trans found) (Option.some_ne_none entry).symm
  have kept : others pages key = pages.entries := by decide +kernel
  have found : views.entries.lookup planetKey = some ⟨old, 0, 10⟩ := by decide +kernel
  have left : others views planetKey = [("other", ⟨old, 5, 10⟩)] := by decide +kernel
  have refused : composed clock.wall asked = .error (.unexpected ("failed to format timestamp: " ++
      UnwritableComponent.offsetSecond.message)) := by
    decide +kernel
  obtain ⟨shown, moved⟩ := (pageConfined rfl).outcome rfl (.stored missed built)
  obtain ⟨unshown, dropped⟩ := viewConfined.outcome rfl (.dropped found (by decide) refused)
  refine ⟨rfl, ⟨document, shown, ?_⟩, ⟨_, unshown⟩, ?_⟩
  · rw [moved, kept]
    rfl
  · rw [dropped, left]

end Renders

end WeblogFront.Render
