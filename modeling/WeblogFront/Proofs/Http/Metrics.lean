import WeblogFront.Proofs.Cache.StoreSignals
import WeblogFront.Proofs.Http.Previews
import WeblogFront.Proofs.Render.Confinement
import WeblogFront.Proofs.Render.Signals

/-! What the counters of a service add up to. A page address is counted once when it is understood or
refused; who is understood on the mount point of the pages searches the page cache once; whatever is sent
and did not come out of the cache was built, and each build that is sent was timed. One request keeps
these accounts, whatever it asks for, and so does a run. -/
namespace WeblogFront.Http

section Accounts

inductive Account where
  | classified (kind : RequestKind)
  | refused (kind : RequestKind)
  | searches
  | builds
  | views
  deriving DecidableEq

def Account.series : Account → List Signal.Series
  | .classified kind => [⟨"roller_requests_classified_total", some ("profile", kind.name)⟩]
  | .refused kind => [⟨"roller_requests_rejected_total", some ("profile", kind.name)⟩]
  | .searches => [
      ⟨"roller_cache_hit_total", some ("cache", Cache.pagesId)⟩,
      ⟨"roller_cache_miss_total", some ("cache", Cache.pagesId)⟩,
      ⟨"roller_cache_expired_total", some ("cache", Cache.pagesId)⟩]
  | .builds => [⟨"roller_render_ms", none⟩]
  | .views => [
      ⟨"roller_page_hits_total", some ("kind", "homepage")⟩,
      ⟨"roller_page_hits_total", some ("kind", "content")⟩]

def Account.counts (account : Account) (signal : Signal) : Bool :=
  signal.series?.any fun series => account.series.contains series

def Account.total (account : Account) (signals : List Signal) : Nat :=
  signals.countP account.counts

variable {account : Account} {signals : List Signal}

@[simp]
theorem total_nil (account : Account) : account.total [] = 0 := rfl

@[simp]
theorem total_append (account : Account) (before after : List Signal) :
    account.total (before ++ after) = account.total before + account.total after :=
  List.countP_append

theorem total_cons (account : Account) (signal : Signal) (rest : List Signal) :
    account.total (signal :: rest) = account.total [signal] + account.total rest :=
  total_append account [signal] rest

def Uncounted (signals : List Signal) : Prop :=
  ∀ signal ∈ signals, signal.series? = none

theorem total_of_uncounted (account : Account) (uncounted : Uncounted signals) :
    account.total signals = 0 := by
  refine List.countP_eq_zero.mpr fun signal said => ?_
  simp [Account.counts, uncounted signal said]

theorem total_of_other_store (account : Account) {id : String} (other : id ≠ Cache.pagesId)
    (own : ∀ signal ∈ signals, signal.FromStore id) : account.total signals = 0 := by
  refine List.countP_eq_zero.mpr fun signal said => ?_
  have named := own signal said
  cases signal with
  | hit | miss | expired | evicted | lockRecovered =>
    cases named
    cases account <;>
      simp [Account.counts, Account.series, Signal.series?, Signal.ofCache, other]
  | _ => cases named

theorem total_classified (account : Account) (kind : RequestKind) :
    account.total [.classified kind] = if account = .classified kind then 1 else 0 := by
  cases account with
  | classified other => cases kind <;> cases other <;> rfl
  | _ => cases kind <;> rfl

theorem total_refused (account : Account) (kind : RequestKind) :
    account.total [.refused kind] = if account = .refused kind then 1 else 0 := by
  cases account with
  | refused other => cases kind <;> cases other <;> rfl
  | _ => cases kind <;> rfl

end Accounts

section Pages

variable {lookups : Site.Lookups} {request : PageRequest} {store : Cache.Store Document}

theorem uncounted_of_lookup {signals : List Signal} (looked : ∀ signal ∈ signals, signal.FromLookup) :
    Uncounted signals := by
  intro signal said
  have permitted := looked signal said
  cases signal with
  | asked | lookupFailed => rfl
  | _ => cases permitted

theorem total_within (weblog : Site.Weblog) (lookups : Site.Lookups) (request : PageRequest)
    (account : Account) :
    account.total (Render.buildWithin weblog lookups request).signals =
      if account = .builds then (Render.buildWithin weblog lookups request).result.isOk.toNat else 0 := by
  obtain ⟨entry, template, category, theme⟩ := Render.cells_from_lookup lookups request
  have silent {signals : List Signal} (looked : ∀ signal ∈ signals, signal.FromLookup) :
      account.total signals = 0 :=
    total_of_uncounted account (uncounted_of_lookup looked)
  have timed : account.total [.rendered] = if account = .builds then 1 else 0 := by
    cases account <;> rfl
  rcases Render.within_cases weblog lookups request rfl rfl rfl rfl with
    ⟨_, outcome⟩ | ⟨_, outcome⟩ | ⟨_, outcome⟩
  · simp [outcome, silent entry, Except.isOk, Except.toBool]
  · simp [outcome, silent entry, silent template, Except.isOk, Except.toBool]
  · simp [outcome, silent entry, silent template, silent category, silent theme, timed, Except.isOk,
      Except.toBool]

theorem total_build (lookups : Site.Lookups) (request : PageRequest) (account : Account) :
    account.total (Render.build lookups request).signals =
      if account = .builds then (Render.build lookups request).result.isOk.toNat else 0 := by
  have asked : account.total [.asked (.weblog request.descriptor.handle)] = 0 :=
    total_of_uncounted account (List.forall_mem_singleton.mpr rfl)
  unfold Render.build
  dsimp only
  split
  · simp [asked, Except.isOk, Except.toBool]
  · simp [asked, Except.isOk, Except.toBool]
  · rw [total_cons, asked, Nat.zero_add, total_within]

theorem total_visits (asked : Descriptor) (account : Account) :
    account.total (Render.visits asked) =
      if account = .views then (Render.visits asked).length else 0 := by
  unfold Render.visits
  split
  · cases account <;> rfl
  · split <;> cases account <;> rfl

theorem visits_at_most_one (asked : Descriptor) : (Render.visits asked).length ≤ 1 := by
  unfold Render.visits
  split
  · exact Nat.le_refl 1
  · split
    · exact Nat.le_refl 1
    · exact Nat.zero_le 1

structure Serves (store : Cache.Store Document) : Prop where
  named : store.id = Cache.pagesId
  enabled : store.isEnabled = true

theorem Serves.locked {β : Type} (serves : Serves store) (operation : CacheOperation) (idle : β)
    (act : Cache.Shelf Document → Step (Cache.Shelf Document) β) :
    Serves (store.locked operation idle act).state where
  named := (Cache.Store.id_locked store operation idle act).trans serves.named
  enabled := (Cache.Store.enabled_locked store operation idle act).trans serves.enabled

theorem total_lock (shelf : Cache.Shelf Document) (operation : CacheOperation) (account : Account) :
    account.total (Cache.Store.lockSignals Cache.pagesId shelf operation) = 0 := by
  unfold Cache.Store.lockSignals
  split
  · cases account <;> rfl
  · rfl

theorem Serves.total_get (serves : Serves store) (now : Nat) (key : String) (account : Account) :
    account.total (store.get now key).signals = if account = .searches then 1 else 0 := by
  obtain ⟨shelf, placed⟩ := Option.isSome_iff_exists.mp serves.enabled
  unfold Cache.Store.get Cache.Store.locked
  simp only [placed, serves.named, total_append, total_lock, Nat.zero_add]
  split
  · cases account <;> rfl
  · split <;> cases account <;> rfl

theorem Serves.total_put (serves : Serves store) (now : Nat) (key : String) (document : Document)
    (account : Account) : account.total (store.put now key document).signals = 0 := by
  obtain ⟨shelf, placed⟩ := Option.isSome_iff_exists.mp serves.enabled
  unfold Cache.Store.put Cache.Store.putFor Cache.Store.locked
  simp only [placed, serves.named, total_append, total_lock, Nat.zero_add]
  split
  · cases account <;> rfl
  · rfl

def isFresh : Except Failure Render.Rendered → Bool
  | .ok rendered => Response.cacheStatus rendered ≠ "HIT"
  | .error _ => false

/-- A page is searched unless it is a preview, and timed if it is built and sent. -/
theorem Serves.total_page (serves : Serves store) (lookups : Site.Lookups) (now : Nat)
    (request : PageRequest) {step : Step Render.Pages (Except Failure Render.Rendered)}
    (rendered : Render.page lookups now store request = step) (account : Account) :
    Serves step.state.store ∧
    account.total step.signals =
      (if account = .views then (Render.visits request.descriptor).length else 0) +
      (if account = .searches then (!request.descriptor.isPreview).toNat else 0) +
      (if account = .builds then (isFresh step.result).toNat else 0) := by
  have timed := total_build lookups request account
  rcases Render.page_cases lookups now store request rfl rfl rfl with
    ⟨preview, outcome⟩ | ⟨published, document, _, outcome⟩ | ⟨published, _, failure, failed, outcome⟩ |
    ⟨published, _, document, built, outcome⟩
  · cases rendered.symm.trans outcome
    refine ⟨serves, ?_⟩
    have sent : isFresh ((Render.build lookups request).result.map fun document =>
        ⟨document, none, false⟩) = (Render.build lookups request).result.isOk := by
      cases (Render.build lookups request).result <;> rfl
    simp [preview, total_visits, timed, sent]
  · cases rendered.symm.trans outcome
    refine ⟨serves.locked _ _ _, ?_⟩
    simp [published, total_visits, serves.total_get, isFresh, Response.cacheStatus]
  · cases rendered.symm.trans outcome
    refine ⟨serves.locked _ _ _, ?_⟩
    simp [published, total_visits, serves.total_get, timed, failed, isFresh, Except.isOk, Except.toBool]
  · cases rendered.symm.trans outcome
    have found : Serves (store.get now (Cache.pageKey request.descriptor)).state := serves.locked _ _ _
    refine ⟨found.locked _ _ _, ?_⟩
    simp [published, total_visits, serves.total_get, found.total_put, timed, built, isFresh,
      Response.cacheStatus, Except.isOk, Except.toBool, Nat.add_assoc]

end Pages

section Handlers

open WeblogFront.Request (Classifier Profile)

variable {caches : Caches}

structure Ready (caches : Caches) : Prop where
  pages : Serves caches.pages
  planet : caches.planet.content.id = Cache.planetId
  salts : caches.salts.id = Cache.saltsId

/-- What comes of a request at the handler of the pages or of the previews. -/
inductive Handled (kind : RequestKind) (signals : List Signal) (response : Response) : Prop where
  | refused (status : response.status ≠ 200)
      (totals : ∀ account : Account, account.total signals =
        if account = .refused kind then 1 else 0)
  | classified (result : Except Failure Render.Rendered) (previews : Bool) (views : Nat)
      (sends : response = .ofResult result previews) (single : views ≤ 1)
      (totals : ∀ account : Account, account.total signals =
        (if account = .classified kind then 1 else 0) +
        (if account = .views then views else 0) +
        (if account = .searches ∧ kind = .page then 1 else 0) +
        (if account = .builds then (isFresh result).toNat else 0))

theorem page_handled (ready : Ready caches) (service : Service) {profile : Profile}
    (known : profile = .page ∨ profile = .preview) (path : Option String) (arrival : Arrival)
    (request : Request) {step : Step Caches Response}
    (served : service.page profile path arrival caches request = step) :
    Ready step.state ∧ Handled (Service.kindOf profile) step.signals step.result := by
  unfold Service.page at served
  dsimp only at served
  cases read : Classifier.classify ⟨profile, service.tagLimit⟩
    (Service.rawRequest profile path request) with
  | error rejection =>
    simp only [read] at served
    cases served
    have unknown : (Response.ofRejection rejection).status = 404 := rfl
    refine ⟨ready, .refused (fun fine => ?_) fun account => total_refused account _⟩
    cases unknown.symm.trans fine
  | ok descriptor =>
    simp only [read] at served
    cases served
    have booked := ready.pages.total_page service.lookups arrival.clock.reading (.fresh descriptor) rfl
    refine ⟨⟨(booked .views).1, ready.planet, ready.salts⟩, ?_⟩
    refine .classified _ _ (Render.visits descriptor).length rfl (visits_at_most_one descriptor) ?_
    intro account
    have searched : (if account = .searches then (!descriptor.isPreview).toNat else 0) =
        if account = .searches ∧ Service.kindOf profile = .page then 1 else 0 := by
      rw [Descriptor.isPreview, WeblogFront.Request.classified_preview read]
      rcases known with rfl | rfl
      · cases account <;> rfl
      · cases account <;> rfl
    rw [total_cons, total_classified, (booked account).2]
    simp only [PageRequest.fresh, searched, Nat.add_assoc]

def Unbooked (signals : List Signal) : Prop :=
  ∀ account : Account, account ≠ .refused .planet → account.total signals = 0

theorem total_last_modified (cache : Cache.Planet) (clock : Clock) (account : Account) :
    account.total (cache.lastModified clock).signals = 0 := by
  unfold Cache.Planet.lastModified
  split
  · rfl
  · exact total_of_uncounted account (List.forall_mem_singleton.mpr rfl)

theorem total_planet {cache : Cache.Planet} (named : cache.content.id = Cache.planetId) (clock : Clock)
    (asked : PlanetRequest) {step : Step Cache.Planet (Except Failure Render.Rendered)}
    (rendered : Render.planet clock cache asked = step) :
    step.state.content.id = Cache.planetId ∧ ∀ account : Account, account.total step.signals = 0 := by
  have aside {store : Cache.Store Document} (named : store.id = Cache.planetId) :
      store.id ≠ Cache.pagesId := named.trans_ne (by decide)
  let found := cache.get clock (Cache.planetKey asked)
  let updated := found.state.lastModified clock
  have foundNamed : found.state.content.id = Cache.planetId :=
    (Cache.Store.id_locked _ _ _ _).trans named
  have updatedNamed : updated.state.content.id = Cache.planetId :=
    (congrArg _ (Render.last_modified_content _ clock)).trans foundNamed
  have searched (account : Account) : account.total found.signals = 0 :=
    total_of_other_store account (aside named) (Cache.Store.get_from_store _ _ _)
  have told (account : Account) : account.total updated.signals = 0 :=
    total_last_modified _ clock account
  rcases Render.planet_cases clock cache asked rfl rfl rfl with
    ⟨document, _, outcome⟩ | ⟨_, component, _, outcome⟩ | ⟨_, written, _, outcome⟩
  · cases rendered.symm.trans outcome
    exact ⟨foundNamed, searched⟩
  · cases rendered.symm.trans outcome
    refine ⟨updatedNamed, fun account => ?_⟩
    rw [total_append, searched, told]
  · cases rendered.symm.trans outcome
    refine ⟨(Cache.Store.id_locked _ _ _ _).trans updatedNamed, fun account => ?_⟩
    have stored : account.total
        (updated.state.put clock (Cache.planetKey asked) (.ofJson (asked.view written))).signals = 0 :=
      total_of_other_store account (aside updatedNamed) (Cache.Store.put_for_from_store _ _ _ _ _)
    rw [total_append, total_append, searched, told, stored]

theorem planet_unbooked (ready : Ready caches) (path : String) (arrival : Arrival) (request : Request)
    {step : Step Caches Response} (served : Service.planet path arrival caches request = step) :
    Ready step.state ∧ Unbooked step.signals := by
  unfold Service.planet at served
  split at served
  case h_1 =>
    cases served
    refine ⟨ready, fun account different => ?_⟩
    rw [total_refused, if_neg different]
  case h_2 asked _ =>
    cases served
    obtain ⟨named, totals⟩ := total_planet ready.planet arrival.clock asked rfl
    exact ⟨⟨ready.pages, named, ready.salts⟩, fun account _ => totals account⟩

theorem salts_unbooked (ready : Ready caches) (arrival : Arrival) (request : Request) :
    (Ready (Service.issueSalt arrival caches request).state ∧
      Unbooked (Service.issueSalt arrival caches request).signals) ∧
    ∀ escaped, Ready (Service.spendSalt escaped arrival caches request).state ∧
      Unbooked (Service.spendSalt escaped arrival caches request).signals := by
  have apart : caches.salts.id ≠ Cache.pagesId := ready.salts.trans_ne (by decide)
  have still : Ready caches ∧ Unbooked [] := ⟨ready, fun account _ => total_nil account⟩
  have kept {salts : Cache.Salts} (named : salts.id = caches.salts.id) :
      Ready { caches with salts := salts } := ⟨ready.pages, ready.planet, named.trans ready.salts⟩
  refine ⟨?_, fun escaped => ?_⟩
  · unfold Service.issueSalt
    split
    · exact still
    · exact ⟨kept (Cache.Store.id_locked _ _ _ _), fun account _ =>
        total_of_other_store account apart (Cache.Store.put_for_from_store _ _ _ _ _)⟩
  · unfold Service.spendSalt
    split
    · exact still
    · split
      · exact still
      · exact ⟨kept (Cache.Store.id_locked _ _ _ _), fun account _ =>
          total_of_other_store account apart (Cache.Store.take_with_from_store _ _ _ _)⟩

end Handlers

section Runs

variable {service : Service} {caches : Caches}

def Action.kind? : Action → Option RequestKind
  | .page _ => some .page
  | .preview _ => some .preview
  | .planet _ => some .planet
  | _ => none

/-- The request gets as far as the handler for this kind. -/
def Visit.reaches (kind : RequestKind) (visit : Visit) : Bool :=
  match dispatch visit.request.method visit.request.target.path with
  | .run action => action.kind? = some kind
  | _ => false

def Response.fresh (response : Response) : Bool :=
  response.status = 200 &&
    (headerValue? response.headers cacheStatusHeader = some "MISS" ||
      headerValue? response.headers cacheStatusHeader = some "BYPASS")

def Service.signalled (service : Service) (caches : Caches) : List Visit → List Signal
  | [] => []
  | visit :: rest =>
    let step := service.serve caches visit
    step.signals ++ service.signalled step.state rest

def Service.freshlySent (service : Service) (caches : Caches) (visits : List Visit) : Nat :=
  (visits.zip (service.answers caches visits)).countP fun (visit, response) =>
    (visit.reaches .page || visit.reaches .preview) && response.fresh

/-- What the counters add up to when these visits have been signalled like this. -/
structure Balances (service : Service) (caches : Caches) (visits : List Visit) (signals : List Signal) :
    Prop where
  /-- Who gets as far as the handler of the pages or of the previews is understood or refused. -/
  requests : ∀ kind, kind ≠ .planet →
    (Account.classified kind).total signals + (Account.refused kind).total signals =
      visits.countP (·.reaches kind)
  /-- Whoever asks for a page and is understood searches the page cache, and nobody else does. -/
  searches : Account.searches.total signals = (Account.classified .page).total signals
  /-- A build is timed if its page is sent. -/
  builds : Account.builds.total signals = service.freshlySent caches visits
  views : Account.views.total signals ≤
    (Account.classified .page).total signals + (Account.classified .preview).total signals

theorem fresh_status (response : Response) (method id : String) (failed : response.status ≠ 200) :
    ((if method = "HEAD" then response.withoutBody else response).withHeader requestIdHeader id).fresh =
      false := by
  unfold Response.fresh
  split <;> simp [Response.withHeader, Response.withoutBody, failed]

theorem fresh_result (result : Except Failure Render.Rendered) (previews : Bool) (method id : String) :
    ((if method = "HEAD" then (Response.ofResult result previews).withoutBody
      else .ofResult result previews).withHeader requestIdHeader id).fresh = isFresh result := by
  cases result with
  | error failure =>
    refine fresh_status _ method id fun fine => ?_
    have refuses := failure_refuses failure
    rw [show failure.status = 200 from fine] at refuses
    cases Nat.not_le.mpr (by decide : 200 < 400) refuses
  | ok rendered =>
    have status := rendered_status rendered previews id
    have same : ((if method = "HEAD" then (Response.ofRendered rendered previews).withoutBody
        else .ofRendered rendered previews).withHeader requestIdHeader id).fresh =
        ((Response.ofRendered rendered previews).withHeader requestIdHeader id).fresh := by
      split <;> rfl
    refine same.trans ?_
    unfold Response.fresh
    rw [status]
    obtain ⟨document, key, hit⟩ := rendered
    cases key with
    | none => rfl
    | some key => cases hit <;> rfl

theorem served_total (service : Service) (caches : Caches) (visit : Visit) (account : Account) :
    account.total (service.serve caches visit).signals =
      account.total (service.handle visit.arrival caches visit.request).signals := by
  have ended : account.total
      (service.handle visit.arrival caches visit.request).result.endSignals = 0 := by
    unfold Response.endSignals
    split
    · exact total_of_uncounted account (List.forall_mem_singleton.mpr rfl)
    · rfl
  exact (total_append account _ _).trans (congrArg _ ended)

theorem unbooked_balances {visit : Visit} (elsewhere : ∀ kind, kind ≠ .planet → visit.reaches kind = false)
    (unbooked : Unbooked (service.handle visit.arrival caches visit.request).signals) :
    Balances service caches [visit] (service.serve caches visit).signals := by
  have page := elsewhere .page (by decide)
  have preview := elsewhere .preview (by decide)
  have total (account : Account) (booked : account ≠ .refused .planet) :
      account.total (service.serve caches visit).signals = 0 :=
    (served_total service caches visit account).trans (unbooked account booked)
  constructor
  · intro kind different
    rw [total (.classified kind) (by simp), total (.refused kind) (by simpa using different)]
    simp [elsewhere kind different]
  · rw [total .searches (by simp), total (.classified .page) (by simp)]
  · rw [total .builds (by simp)]
    simp [Service.freshlySent, Service.answers, page, preview]
  · rw [total .views (by simp)]
    exact Nat.zero_le _

theorem handled_balances {visit : Visit} {kind : RequestKind} (booked : kind ≠ .planet)
    (reached : ∀ other, visit.reaches other = decide (kind = other))
    (handled : Handled kind (service.handle visit.arrival caches visit.request).signals
      (service.handle visit.arrival caches visit.request).result) :
    Balances service caches [visit] (service.serve caches visit).signals := by
  have sent : service.freshlySent caches [visit] = (service.serve caches visit).result.fresh.toNat := by
    have either : (visit.reaches .page || visit.reaches .preview) = true := by
      rw [reached, reached]
      cases kind with
      | planet => exact absurd rfl booked
      | _ => rfl
    simp [Service.freshlySent, Service.answers, either, List.countP_cons, Bool.toNat]
  have total := served_total service caches visit
  cases handled with
  | refused status totals =>
    have stale : (service.serve caches visit).result.fresh = false := by
      rw [Service.serve, respond_result]
      exact fresh_status _ _ _ status
    constructor
    · intro other _
      simp [total, totals, reached, eq_comm]
    · simp [total, totals]
    · simp [total, totals, sent, stale]
    · simp [total, totals]
  | classified result previews views sends single totals =>
    have fresh : (service.serve caches visit).result.fresh = isFresh result := by
      have answer := fresh_result result previews visit.request.method
        (Service.requestId visit.arrival visit.request.headers)
      rw [← sends] at answer
      rw [Service.serve, respond_result]
      exact answer
    constructor
    · intro other _
      simp [total, totals, reached, eq_comm]
    · simp [total, totals, eq_comm]
    · simp [total, totals, sent, fresh]
    · cases kind with
      | planet => exact absurd rfl booked
      | page | preview => simpa [total, totals] using single

theorem handle_cases (ready : Ready caches) (service : Service) (visit : Visit)
    {step : Step Caches Response}
    (served : service.handle visit.arrival caches visit.request = step) :
    Ready step.state ∧
      (((∀ kind, kind ≠ .planet → visit.reaches kind = false) ∧ Unbooked step.signals) ∨
        ∃ kind, kind ≠ .planet ∧ (∀ other, visit.reaches other = decide (kind = other)) ∧
          Handled kind step.signals step.result) := by
  unfold Service.handle at served
  unfold Visit.reaches
  cases dispatched : dispatch visit.request.method visit.request.target.path with
  | unknown | wrongMethod =>
    simp only [dispatched] at served
    cases served
    exact ⟨ready, .inl ⟨fun _ _ => rfl, fun account _ => total_nil account⟩⟩
  | run action =>
    simp only [dispatched] at served
    cases action with
    | page path =>
      obtain ⟨after, handled⟩ := page_handled ready service (.inl rfl) path visit.arrival visit.request served
      exact ⟨after, .inr ⟨.page, by decide, by simp [Action.kind?], handled⟩⟩
    | preview path =>
      obtain ⟨after, handled⟩ := page_handled ready service (.inr rfl) path visit.arrival visit.request served
      exact ⟨after, .inr ⟨.preview, by decide, by simp [Action.kind?], handled⟩⟩
    | planet path =>
      obtain ⟨after, unbooked⟩ := planet_unbooked ready path visit.arrival visit.request served
      refine ⟨after, .inl ⟨fun kind different => ?_, unbooked⟩⟩
      simpa [Action.kind?] using different.symm
    | issueSalt =>
      cases served
      obtain ⟨⟨after, unbooked⟩, _⟩ := salts_unbooked ready visit.arrival visit.request
      exact ⟨after, .inl ⟨fun _ _ => rfl, unbooked⟩⟩
    | spendSalt escaped =>
      cases served
      obtain ⟨after, unbooked⟩ := (salts_unbooked ready visit.arrival visit.request).2 escaped
      exact ⟨after, .inl ⟨fun _ _ => rfl, unbooked⟩⟩
    | health =>
      cases served
      exact ⟨ready, .inl ⟨fun _ _ => rfl, fun account _ => total_nil account⟩⟩

theorem visit_balances (ready : Ready caches) (service : Service) (visit : Visit) :
    Ready (service.serve caches visit).state ∧
      Balances service caches [visit] (service.serve caches visit).signals := by
  obtain ⟨after, ⟨elsewhere, unbooked⟩ | ⟨kind, booked, reached, handled⟩⟩ :=
    handle_cases ready service visit rfl
  · exact ⟨after, unbooked_balances elsewhere unbooked⟩
  · exact ⟨after, handled_balances booked reached handled⟩

theorem fresh_cons (service : Service) (caches : Caches) (visit : Visit) (rest : List Visit) :
    service.freshlySent caches (visit :: rest) =
      service.freshlySent caches [visit] + service.freshlySent (service.serve caches visit).state rest := by
  simp only [Service.freshlySent, Service.answers, List.zip_cons_cons, List.zip_nil_left, List.countP_cons,
    List.countP_nil, Nat.zero_add]
  exact Nat.add_comm _ _

theorem Balances.cons {visit : Visit} {rest : List Visit} {signals later : List Signal}
    (first : Balances service caches [visit] signals)
    (others : Balances service (service.serve caches visit).state rest later) :
    Balances service caches (visit :: rest) (signals ++ later) := by
  constructor
  · intro kind different
    have now := first.requests kind different
    have afterwards := others.requests kind different
    simp only [total_append, List.countP_cons, List.countP_nil, Nat.zero_add] at now ⊢
    omega
  · rw [total_append, total_append, first.searches, others.searches]
  · rw [total_append, first.builds, others.builds, ← fresh_cons]
  · have now := first.views
    have afterwards := others.views
    simp only [total_append]
    omega

theorem run_balances (ready : Ready caches) (service : Service) (visits : List Visit) :
    Balances service caches visits (service.signalled caches visits) := by
  induction visits generalizing caches with
  | nil => exact ⟨fun _ _ => rfl, rfl, rfl, Nat.zero_le _⟩
  | cons visit rest ih =>
    obtain ⟨after, first⟩ := visit_balances ready service visit
    exact first.cons (ih after)

theorem opening_uncounted (settings : CacheSettings) :
    Uncounted (Caches.openingSignals settings) := by
  have store (id : String) (settings : Cache.Settings) :
      Uncounted (Cache.Store.openingSignals id settings) := by
    unfold Cache.Store.openingSignals
    split
    · exact List.forall_mem_nil _
    · exact List.forall_mem_singleton.mpr rfl
  refine List.forall_mem_append.mpr ⟨List.forall_mem_append.mpr ⟨store _ _, store _ _⟩, ?_⟩
  unfold Cache.Salts.openingSignals
  split
  · exact List.forall_mem_nil _
  · exact List.forall_mem_singleton.mpr rfl

theorem new_ready (settings : CacheSettings) (enabled : settings.pages.enabled = true) :
    Ready (Caches.new settings) where
  pages := ⟨rfl, by simp [Caches.new, Cache.Store.new, Cache.Store.isEnabled, enabled]⟩
  planet := rfl
  salts := rfl

/-- For any site and tag limit: from its start on, a service that caches pages keeps its accounts. -/
theorem requests_balance (settings : CacheSettings) (enabled : settings.pages.enabled = true)
    (service : Service) (visits : List Visit) :
    Balances service (Caches.new settings) visits
      (Caches.openingSignals settings ++ service.signalled (Caches.new settings) visits) := by
  have run := run_balances (new_ready settings enabled) service visits
  have opening (account : Account) := total_of_uncounted account (opening_uncounted settings)
  constructor
  · intro kind different
    rw [total_append, total_append, opening, opening, Nat.zero_add, Nat.zero_add]
    exact run.requests kind different
  · rw [total_append, total_append, opening, opening, run.searches]
  · rw [total_append, opening, Nat.zero_add, run.builds]
  · rw [total_append, total_append, total_append, opening, opening, opening, Nat.zero_add, Nat.zero_add,
      Nat.zero_add]
    exact run.views

-- A page is built, found, found to be over and built again; then one is asked for that is not there, one
-- is previewed, one address says nothing, and one request comes with a method that is not allowed.
theorem page_counters_balance :
    let site : Site.Contents := ⟨[], [⟨"blog", "Blog", none, "basic", [], [], []⟩]⟩
    let service : Service := ⟨site.lookups, 3⟩
    let settings : CacheSettings := ⟨Cache.Settings.pages.withTimeout 10, .planet, .salts⟩
    let visit (method uri : String) (now : Nat) : Visit :=
      ⟨⟨⟨now, ⟨0, 0, 0⟩⟩, [], []⟩, ⟨method, .parse uri, [("x-request-id", "7")]⟩⟩
    let visits := [visit "GET" "/roller-ui/rendering/page/blog" 0,
      visit "GET" "/roller-ui/rendering/page/blog" 5, visit "HEAD" "/roller-ui/rendering/page/blog" 12,
      visit "GET" "/roller-ui/rendering/page/ghost" 13, visit "GET" "/roller-ui/authoring/preview/blog" 14,
      visit "GET" "/roller-ui/rendering/page" 15, visit "POST" "/roller-ui/rendering/page/blog" 16]
    let signals := Caches.openingSignals settings ++ service.signalled (Caches.new settings) visits
    settings.pages.enabled = true ∧
      [Account.classified .page, .refused .page, .classified .preview, .refused .preview, .searches, .builds,
        .views].map (·.total signals) = [4, 1, 1, 0, 4, 3, 5] ∧
      Balances service (Caches.new settings) visits signals := by
  intro site service settings visit visits signals
  exact ⟨rfl, by decide +kernel, requests_balance settings rfl service visits⟩

end Runs

end WeblogFront.Http
