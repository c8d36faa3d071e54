import WeblogFront.Proofs.Cache.StoreSignals
import WeblogFront.Proofs.Http.Previews
import WeblogFront.Proofs.Render.Planet
import WeblogFront.Proofs.Render.Signals

/-! How a request leaves the service. Its response bears one identifier, the one that came with the request
if it can be taken over and a new one otherwise; and if the request was not served, the log is told so
once. The handlers have no part in either: they name no request and say nothing of its end. -/
namespace WeblogFront

def Signal.isEnd : Signal → Bool
  | .ended _ => true
  | _ => false

namespace Http

section Endings

variable {status : Nat} {signals : List Signal} {response : Response}

def Settled (status : Nat) : Prop :=
  200 ≤ status ∧ status < 300 ∨ 400 ≤ status ∧ status < 600

instance (status : Nat) : Decidable (Settled status) :=
  inferInstanceAs (Decidable (_ ∨ _))

def ending (signals : List Signal) : List Event :=
  events (signals.filter Signal.isEnd)

/-- The line about a request that was refused. It is an error, with all messages of the report, if the service
is at fault and the handler made a report of it; else it is a warning, and holds no messages. -/
structure Notes (status : Nat) (report : Option Report) (event : Event) : Prop where
  numbered : event.fields.lookup "status" = some (.number status)
  level : event.level = if 500 ≤ status ∧ report.isSome then .error else .warn
  chain : event.fields.lookup "chain" =
    if 500 ≤ status then report.map fun attached => .text (Text.quoteAll attached.messages) else none

/-- The log is silent about a request that was served, and has one line about any other. -/
inductive Accounted (status : Nat) (report : Option Report) : List Event → Prop where
  | served (fine : 200 ≤ status ∧ status < 300) : Accounted status report []
  | refused (event : Event) (failed : 400 ≤ status ∧ status < 600) (notes : Notes status report event) :
      Accounted status report [event]

theorem outcome_event (failed : 400 ≤ response.status ∧ response.status < 600) :
    ∃ outcome, response.outcome? = some outcome ∧ Notes response.status response.report outcome.event := by
  obtain ⟨status, headers, body, report⟩ := response
  dsimp only at failed
  have refused : ¬ (200 ≤ status ∧ status < 300) := by omega
  cases report with
  | none =>
    refine ⟨.unreported status, ?_, rfl, by simp [Outcome.event], ?_⟩
    · simp [Response.outcome?, refused, failed]
    · split <;> rfl
  | some attached =>
    by_cases fault : 500 ≤ status
    · refine ⟨.failed status attached.source attached.messages, ?_, rfl, by simp [Outcome.event, fault], ?_⟩
      · simp [Response.outcome?, refused, failed, fault]
      · rw [if_pos fault]
        rfl
    · refine ⟨.rejected status attached.source attached.messages, ?_, rfl, by simp [Outcome.event, fault], ?_⟩
      · simp [Response.outcome?, refused, fault]
      · rw [if_neg fault]
        rfl

theorem end_accounted (settled : Settled response.status) :
    Accounted response.status response.report (events response.endSignals) := by
  rw [Response.endSignals]
  rcases settled with fine | failed
  · have silent : response.outcome? = none := by
      simp [Response.outcome?, fine]
    rw [silent]
    exact .served fine
  · obtain ⟨outcome, only, notes⟩ := outcome_event failed
    rw [only]
    exact .refused outcome.event failed notes

def Unended (signals : List Signal) : Prop :=
  ∀ signal ∈ signals, signal.isEnd = false

theorem ending_append (unended : Unended signals) (response : Response) :
    ending (signals ++ response.endSignals) = events response.endSignals := by
  have before : signals.filter Signal.isEnd = [] :=
    List.filter_eq_nil_iff.mpr fun signal said => by simp [unended signal said]
  rw [ending, List.filter_append, before, List.nil_append, Response.endSignals]
  cases response.outcome? <;> rfl

end Endings

section Handlers

variable {response : Response} {signals : List Signal}

def handlerHeaders : List String :=
  ["content-type", cacheStatusHeader, "cache-control", "allow"]

/-- What a handler may hand over: a response that is settled but bears no identifier. -/
structure Response.Unsigned (response : Response) : Prop where
  settled : Settled response.status
  headers : ∀ header ∈ response.headers, header.1 ∈ handlerHeaders

theorem empty_unsigned {status : Nat} (settled : Settled status) : (Response.empty status).Unsigned :=
  ⟨settled, List.forall_mem_nil _⟩

theorem text_unsigned {status : Nat} (settled : Settled status) (body : String) :
    (Response.text status body).Unsigned :=
  ⟨settled, List.forall_mem_singleton.mpr (List.mem_cons_self ..)⟩

theorem refusal_unsigned {status : Nat} (settled : Settled status) (source publicText : String)
    (messages : List String) : (Response.refusal source status publicText messages).Unsigned :=
  ⟨settled, (text_unsigned settled publicText).headers⟩

theorem result_unsigned (result : Except Failure Render.Rendered) (preview : Bool) :
    (Response.ofResult result preview).Unsigned := by
  cases result with
  | error failure =>
    have settled : Settled failure.status := by
      unfold Failure.status
      split <;> decide
    exact refusal_unsigned settled _ _ _
  | ok rendered =>
    have fine : Settled 200 := by decide
    refine ⟨fine, ?_⟩
    cases preview <;> simp [Response.ofResult, Response.ofRendered, handlerHeaders]

theorem unended_nil : Unended [] := List.forall_mem_nil _

theorem unended_single {signal : Signal} (other : signal.isEnd = false) : Unended [signal] :=
  List.forall_mem_singleton.mpr other

theorem Unended.append {before after : List Signal} (first : Unended before) (second : Unended after) :
    Unended (before ++ after) :=
  List.forall_mem_append.mpr ⟨first, second⟩

theorem unended_of_store {id : String} (own : ∀ signal ∈ signals, signal.FromStore id) :
    Unended signals := by
  intro signal said
  have named := own signal said
  cases signal with
  | ended outcome => cases named
  | _ => rfl

theorem unended_build (lookups : Site.Lookups) (request : PageRequest) :
    Unended (Render.build lookups request).signals := by
  intro signal said
  rcases Render.build_signals lookups request signal said with looked | rfl
  · cases signal with
    | ended outcome => cases looked
    | _ => rfl
  · rfl

theorem unended_page (lookups : Site.Lookups) (now : Nat) (store : Cache.Store Document)
    (request : PageRequest) : Unended (Render.page lookups now store request).signals := by
  have visited : Unended (Render.visits request.descriptor) := by
    unfold Render.visits
    split
    · exact unended_single rfl
    · split
      · exact unended_single rfl
      · exact unended_nil
  have looked := unended_of_store (store.get_from_store now (Cache.pageKey request.descriptor))
  have built := unended_build lookups request
  rcases Render.page_cases lookups now store request rfl rfl rfl with
    ⟨_, outcome⟩ | ⟨_, _, _, outcome⟩ | ⟨_, _, _, _, outcome⟩ | ⟨_, _, _, _, outcome⟩
  · rw [outcome]
    exact visited.append built
  · rw [outcome]
    exact visited.append looked
  · rw [outcome]
    exact (visited.append looked).append built
  · rw [outcome]
    exact ((visited.append looked).append built).append
      (unended_of_store (Cache.Store.put_for_from_store _ _ _ _ _))

theorem unended_planet (clock : Clock) (cache : Cache.Planet) (asked : PlanetRequest) :
    Unended (Render.planet clock cache asked).signals := by
  have looked := unended_of_store (cache.content.get_from_store clock.reading (Cache.planetKey asked))
  have updated (cache : Cache.Planet) : Unended (cache.lastModified clock).signals := by
    unfold Cache.Planet.lastModified
    split
    · exact unended_nil
    · exact unended_single rfl
  rcases Render.planet_cases clock cache asked rfl rfl rfl with
    ⟨_, _, outcome⟩ | ⟨_, _, _, outcome⟩ | ⟨_, _, _, outcome⟩
  · rw [outcome]
    exact looked
  · rw [outcome]
    exact looked.append (updated _)
  · rw [outcome]
    exact (looked.append (updated _)).append
      (unended_of_store (Cache.Store.put_for_from_store _ _ _ _ _))

structure Unfinished (step : Step Caches Response) : Prop where
  response : step.result.Unsigned
  signals : Unended step.signals

theorem page_unfinished (service : Service) (profile : WeblogFront.Request.Profile) (path : Option String)
    (arrival : Arrival) (caches : Caches) (request : Request) :
    Unfinished (service.page profile path arrival caches request) := by
  unfold Service.page
  dsimp only
  split
  case h_1 rejection _ => exact ⟨refusal_unsigned (by decide) _ _ _, unended_single rfl⟩
  case h_2 descriptor _ =>
    exact ⟨result_unsigned _ _, (unended_single rfl).append (unended_page _ _ _ _)⟩

theorem planet_unfinished (path : String) (arrival : Arrival) (caches : Caches) (request : Request) :
    Unfinished (Service.planet path arrival caches request) := by
  unfold Service.planet
  split
  case h_1 => exact ⟨refusal_unsigned (by decide) _ _ _, unended_single rfl⟩
  case h_2 asked _ => exact ⟨result_unsigned _ _, unended_planet _ _ _⟩

theorem issue_unfinished (arrival : Arrival) (caches : Caches) (request : Request) :
    Unfinished (Service.issueSalt arrival caches request) := by
  unfold Service.issueSalt
  split
  · exact ⟨refusal_unsigned (by decide) _ _ _, unended_nil⟩
  · have settled : Settled 200 := by decide
    have headers : ∀ header ∈ [("content-type", viewType)], header.1 ∈ handlerHeaders :=
      List.forall_mem_singleton.mpr (List.mem_cons_self ..)
    exact ⟨⟨settled, headers⟩, unended_of_store (Cache.Store.put_for_from_store _ _ _ _ _)⟩

theorem spend_unfinished (escaped : String) (arrival : Arrival) (caches : Caches) (request : Request) :
    Unfinished (Service.spendSalt escaped arrival caches request) := by
  unfold Service.spendSalt
  split
  · exact ⟨text_unsigned (by decide) _, unended_nil⟩
  · split
    · exact ⟨refusal_unsigned (by decide) _ _ _, unended_nil⟩
    · refine ⟨?_, unended_of_store (Cache.Store.take_with_from_store _ _ _ _)⟩
      dsimp only
      split
      · exact empty_unsigned (by decide)
      · exact refusal_unsigned (by decide) _ _ _

theorem handle_unfinished (service : Service) (arrival : Arrival) (caches : Caches) (request : Request) :
    Unfinished (service.handle arrival caches request) := by
  unfold Service.handle
  cases dispatch request.method request.target.path with
  | run action =>
    cases action with
    | page path => exact page_unfinished service .page path arrival caches request
    | preview path => exact page_unfinished service .preview path arrival caches request
    | planet path => exact planet_unfinished path arrival caches request
    | issueSalt => exact issue_unfinished arrival caches request
    | spendSalt escaped => exact spend_unfinished escaped arrival caches request
    | health => exact ⟨empty_unsigned (by decide), unended_nil⟩
  | wrongMethod allowed =>
    have settled : Settled 405 := by decide
    have headers : ∀ header ∈ [("allow", allowed)], header.1 ∈ handlerHeaders :=
      List.forall_mem_singleton.mpr (by simp [handlerHeaders])
    exact ⟨⟨settled, headers⟩, unended_nil⟩
  | unknown => exact ⟨empty_unsigned (by decide), unended_nil⟩

end Handlers

section Responses

theorem Response.Unsigned.signed {response : Response} (unsigned : response.Unsigned) (id : String) :
    named requestIdHeader (response.withHeader requestIdHeader id).headers = [(requestIdHeader, id)] := by
  have foreign : ∀ name ∈ handlerHeaders, lowerName name ≠ lowerName requestIdHeader := by
    decide +kernel
  have others : (response.headers.filter fun header => header.1 != requestIdHeader).filter
      (fun header => lowerName header.1 == lowerName requestIdHeader) = [] := by
    refine List.filter_eq_nil_iff.mpr fun header kept => ?_
    have written := unsigned.headers header (List.mem_of_mem_filter kept)
    simpa using foreign header.1 written
  rw [named, Response.withHeader, List.filter_append, others, List.nil_append]
  exact List.filter_cons_of_pos (by simp)

/-- Every response bears one identifier, which is the one that came with the request or a new one; and the
log is told once if the request was refused, and not at all if it was served. -/
theorem responses_identified_and_accounted (service : Service) (arrival : Arrival) (caches : Caches)
    (request : Request) :
    let handled := service.handle arrival caches request
    let sent := service.respond arrival caches request
    (∃ id, Identifies request.headers arrival.drawnId sent.result.headers id) ∧
      sent.result.status = handled.result.status ∧
      events sent.signals = events handled.signals ++ ending sent.signals ∧
      Accounted sent.result.status handled.result.report (ending sent.signals) := by
  intro handled sent
  have unfinished := handle_unfinished service arrival caches request
  have told : ending sent.signals = events handled.result.endSignals :=
    ending_append unfinished.signals handled.result
  have named : sent.result =
      (if request.method = "HEAD" then handled.result.withoutBody else handled.result).withHeader
        requestIdHeader (Service.requestId arrival request.headers) :=
    respond_result service arrival caches request
  have status : sent.result.status = handled.result.status := by
    rw [named, Response.withHeader]
    split <;> rfl
  have headers : sent.result.headers =
      (handled.result.withHeader requestIdHeader (Service.requestId arrival request.headers)).headers := by
    rw [named]
    split <;> rfl
  refine ⟨⟨Service.requestId arrival request.headers, ?_⟩, status, ?_, ?_⟩
  · constructor
    · rw [headers]
      exact unfinished.response.signed _
    · exact request_id_printable arrival request.headers
    · intro text brought
      exact request_id_brought brought
    · intro nothing
      rw [request_id_drawn nothing]
      exact ⟨rfl, grouped_version4 arrival.drawnId⟩
  · rw [told]
    exact List.filterMap_append
  · rw [told, status]
    exact end_accounted unfinished.response.settled

end Responses

end Http

end WeblogFront
