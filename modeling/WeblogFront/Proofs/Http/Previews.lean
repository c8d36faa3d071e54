import WeblogFront.Proofs.Http.Identifiers
import WeblogFront.Proofs.Http.Sender

/-! Runs of a service, with and without previews. A preview finds in the caches nothing that it looks at and
leaves them as they are; so it is answered from the request and the site alone, and whoever else sends
requests cannot tell whether it took place. -/
namespace WeblogFront.Http

section Runs

structure Visit where
  arrival : Arrival
  request : Request

/-- The path lies on the mount point of the previews, whatever the method. -/
def Visit.IsPreview (visit : Visit) : Prop :=
  ∃ rest, resource? visit.request.target.path = some (.preview rest)

def without {α : Type} : List Bool → List α → List α
  | true :: marks, _ :: rest => without marks rest
  | false :: marks, item :: rest => item :: without marks rest
  | _, items => items

namespace Service

def serve (service : Service) (caches : Caches) (visit : Visit) : Step Caches Response :=
  service.respond visit.arrival caches visit.request

def after (service : Service) (caches : Caches) (visits : List Visit) : Caches :=
  visits.foldl (fun caches visit => (service.serve caches visit).state) caches

def answers (service : Service) (caches : Caches) : List Visit → List Response
  | [] => []
  | visit :: rest =>
    let step := service.serve caches visit
    step.result :: service.answers step.state rest

theorem preview_unnoticed (service : Service) (caches : Caches) {visit : Visit}
    (previews : visit.IsPreview) : (service.serve caches visit).state = caches := by
  obtain ⟨rest, previews⟩ := previews
  exact (preview_handled previews ⟨rfl, rfl, rfl⟩ service visit.arrival caches).2

/-- A run goes on after a preview as if there had been none. -/
theorem run_without (service : Service) (caches : Caches) (visits : List Visit) (deleted : List Bool)
    (only : ∀ visit, (visit, true) ∈ visits.zip deleted → visit.IsPreview) :
    service.after caches (without deleted visits) = service.after caches visits ∧
      service.answers caches (without deleted visits) =
        without deleted (service.answers caches visits) := by
  induction visits generalizing caches deleted with
  | nil => cases deleted with
    | nil => exact ⟨rfl, rfl⟩
    | cons mark marks => cases mark <;> exact ⟨rfl, rfl⟩
  | cons visit rest ih =>
    cases deleted with
    | nil => exact ⟨rfl, rfl⟩
    | cons mark marks =>
      have later : ∀ other, (other, true) ∈ rest.zip marks → other.IsPreview :=
        fun other marked => only other (List.mem_cons_of_mem _ marked)
      obtain ⟨state, results⟩ := ih (service.serve caches visit).state marks later
      cases mark with
      | false => exact ⟨state, congrArg (List.cons _) results⟩
      | true =>
        have unnoticed := service.preview_unnoticed caches (only visit List.mem_cons_self)
        rw [unnoticed] at state results
        refine ⟨?_, ?_⟩
        · change service.after caches (without marks rest) =
            service.after (service.serve caches visit).state rest
          rw [unnoticed]
          exact state
        · change service.answers caches (without marks rest) =
            without marks (service.answers (service.serve caches visit).state rest)
          rw [unnoticed]
          exact results

end Service

end Runs

section Responses

open WeblogFront.Request (Classifier)

/-- It came from no cache, and nobody on the way may keep it. -/
structure Response.Uncached (response : Response) : Prop where
  bypass : headerValue? response.headers cacheStatusHeader = some "BYPASS"
  unstored : headerValue? response.headers "cache-control" = some "no-store"

/-- What the handler of the previews answers: the caches, the clock and the salts have no part in it. -/
def Service.previewResponse (service : Service) (path : Option String) (request : Request) : Response :=
  match Classifier.classify ⟨.preview, service.tagLimit⟩ (rawRequest .preview path request) with
  | .error rejection => .ofRejection rejection
  | .ok descriptor =>
    .ofResult ((Render.build service.lookups (.fresh descriptor)).result.map
      fun document => ⟨document, none, false⟩) true

theorem preview_result (service : Service) (path : Option String) (arrival : Arrival) (caches : Caches)
    (request : Request) :
    (service.page .preview path arrival caches request).result = service.previewResponse path request := by
  unfold Service.page Service.previewResponse
  dsimp only
  cases accepted : Classifier.classify ⟨.preview, service.tagLimit⟩
    (Service.rawRequest .preview path request) with
  | error rejection => rfl
  | ok descriptor =>
    have previewed : descriptor.isPreview = true := by
      rw [Descriptor.isPreview, WeblogFront.Request.classified_preview accepted]
      rfl
    dsimp only
    rw [Render.preview_built _ _ _ (.fresh descriptor) previewed]
    rfl

theorem failure_refuses (failure : Failure) : 400 ≤ failure.status := by
  unfold Failure.status
  split <;> decide

theorem header_value_here (headers : Headers) (name value : String) :
    headerValue? ((name, value) :: headers) name = some value := by
  simp [headerValue?]

theorem header_value_behind {headers : Headers} {name other value : String}
    (different : lowerName other ≠ lowerName name) :
    headerValue? ((other, value) :: headers) name = headerValue? headers name := by
  simp [headerValue?, different]

-- The request identifier takes the place of no other header.
theorem rendered_status (rendered : Render.Rendered) (preview : Bool) (id : String) :
    headerValue? ((Response.ofRendered rendered preview).withHeader requestIdHeader id).headers
      cacheStatusHeader = some (Response.cacheStatus rendered) := by
  obtain ⟨rest, written⟩ : ∃ rest,
      ((Response.ofRendered rendered preview).withHeader requestIdHeader id).headers =
        ("content-type", rendered.document.contentType) ::
          (cacheStatusHeader, Response.cacheStatus rendered) :: rest := by
    cases preview <;> exact ⟨_, rfl⟩
  rw [written, header_value_behind (by decide +kernel), header_value_here]

theorem rendered_uncached (document : Document) (id : String) :
    ((Response.ofRendered ⟨document, none, false⟩ true).withHeader requestIdHeader id).Uncached := by
  refine ⟨rendered_status ⟨document, none, false⟩ true id, ?_⟩
  rw [show ((Response.ofRendered ⟨document, none, false⟩ true).withHeader requestIdHeader id).headers =
      [("content-type", document.contentType), (cacheStatusHeader, "BYPASS"),
        ("cache-control", "no-store"), (requestIdHeader, id)] from rfl]
  rw [header_value_behind (by decide +kernel), header_value_behind (by decide +kernel),
    header_value_here]

theorem preview_response_cases (service : Service) (path : Option String) (request : Request) :
    400 ≤ (service.previewResponse path request).status ∨
      ∃ document, service.previewResponse path request = .ofRendered ⟨document, none, false⟩ true := by
  unfold Service.previewResponse
  split
  case h_1 rejection refused => exact .inl (Nat.le_of_ble_eq_true rfl)
  case h_2 descriptor accepted =>
    cases (Render.build service.lookups (.fresh descriptor)).result with
    | error failure => exact .inl (failure_refuses failure)
    | ok document => exact .inr ⟨document, rfl⟩

theorem preview_settled {request : Request} {rest : Option String}
    (previews : resource? request.target.path = some (.preview rest)) (service : Service) :
    ∃ response : Response,
      (∀ arrival caches, (service.handle arrival caches request).result = response) ∧
      (400 ≤ response.status ∨
        ∃ document, response = .ofRendered ⟨document, none, false⟩ true) := by
  unfold Service.handle
  rcases preview_dispatch request.method previews with run | refused
  · rw [run]
    exact ⟨service.previewResponse rest request,
      fun arrival caches => preview_result service rest arrival caches request,
      preview_response_cases service rest request⟩
  · rw [refused]
    exact ⟨(Response.empty 405).withHeader "allow" "GET,HEAD", fun _ _ => rfl, .inl (by decide)⟩

/-- Taking previews out of a run leaves the caches and every other response as they are; and a preview is
answered alike by a service in any other state, with a page that is kept nowhere if it has one. -/
theorem previews_invisible (service : Service) (caches : Caches) (visits : List Visit) (deleted : List Bool)
    (only : ∀ visit, (visit, true) ∈ visits.zip deleted → visit.IsPreview) :
    service.after caches (without deleted visits) = service.after caches visits ∧
    service.answers caches (without deleted visits) = without deleted (service.answers caches visits) ∧
    ∀ visit : Visit, visit.IsPreview → ∀ before : Caches,
      let response := (service.serve before visit).result
      (∀ (others : Caches) (arrival : Arrival), arrival.drawnId = visit.arrival.drawnId →
        (service.serve others ⟨arrival, visit.request⟩).result = response) ∧
      (response.status < 400 → response.status = 200 ∧ response.Uncached) := by
  obtain ⟨state, results⟩ := service.run_without caches visits deleted only
  refine ⟨state, results, ?_⟩
  rintro ⟨arrival, request⟩ ⟨rest, previews⟩ before response
  obtain ⟨settled, alike, shape⟩ := preview_settled previews service
  have sent (caches : Caches) (arrival : Arrival) :
      (service.serve caches ⟨arrival, request⟩).result =
        (if request.method = "HEAD" then settled.withoutBody else settled).withHeader requestIdHeader
          (Service.requestId arrival request.headers) := by
    rw [← alike arrival caches]
    exact respond_result service arrival caches request
  constructor
  · intro others other sameId
    change _ = (service.serve before ⟨arrival, request⟩).result
    rw [sent, sent, Service.requestId, sameId]
    rfl
  · intro succeeds
    change (service.serve before ⟨arrival, request⟩).result.status < 400 at succeeds
    change (service.serve before ⟨arrival, request⟩).result.status = 200 ∧
      (service.serve before ⟨arrival, request⟩).result.Uncached
    rw [sent] at succeeds ⊢
    rcases shape with refuses | ⟨document, rfl⟩
    · refine absurd succeeds (Nat.not_lt.mpr ?_)
      split <;> exact refuses
    · have uncached := rendered_uncached document (Service.requestId arrival request.headers)
      split
      · exact ⟨rfl, uncached.bypass, uncached.unstored⟩
      · exact ⟨rfl, uncached⟩

-- Between two visits of one page somebody previews it; without that the second visit is a hit as well.
theorem visited_page_previewed :
    let site : Site.Contents := ⟨[], [⟨"blog", "Blog", none, "basic", [], [], []⟩]⟩
    let service : Service := ⟨site.lookups, 3⟩
    let caches := Caches.new ⟨.pages, .planet, .salts⟩
    let visit (uri : String) : Visit :=
      ⟨⟨⟨5, ⟨0, 0, 0⟩⟩, [], []⟩, ⟨"GET", .parse uri, [("x-request-id", "7")]⟩⟩
    let page := visit "/roller-ui/rendering/page/blog"
    let preview := visit "/roller-ui/authoring/preview/blog"
    let visits := [page, preview, page, preview]
    let deleted := [false, true, false, false]
    (∀ other, (other, true) ∈ visits.zip deleted → other.IsPreview) ∧
    service.after caches [page, page, preview] = service.after caches visits ∧
    service.answers caches [page, page, preview] = without deleted (service.answers caches visits) ∧
    (service.answers caches visits).map (fun answer => headerValue? answer.headers cacheStatusHeader) =
      [some "MISS", some "BYPASS", some "HIT", some "BYPASS"] := by
  intro site service caches visit page preview visits deleted
  have only : ∀ other, (other, true) ∈ visits.zip deleted → other.IsPreview := by
    intro other marked
    have same : other = preview := by simpa [visits, deleted] using marked
    rw [same]
    exact ⟨some "/blog", by decide +kernel⟩
  obtain ⟨state, results, _⟩ := previews_invisible service caches visits deleted only
  exact ⟨only, state, results, by decide +kernel⟩

end Responses

end WeblogFront.Http
