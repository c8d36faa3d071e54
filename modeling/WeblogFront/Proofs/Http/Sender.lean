import WeblogFront.Http.Service
import WeblogFront.Proofs.Cache.KeyLabels
import WeblogFront.Proofs.Render.Page
import WeblogFront.Proofs.Request.Classified
import WeblogFront.Site.Contents

/-! Who sends a request is of no account where a mount point hides identity. The sender comes in with one
header and is left out when the request is classified, so that nothing behind the classifier has
anybody to depend on: neither the descriptor, nor the key, nor the page, nor what the service answers
and remembers. -/
namespace WeblogFront

section Classification

open Request (Classifier Profile)

variable {profile : Profile} {tagLimit : Nat} {raw : RawRequest} {descriptor : Descriptor}

def RawRequest.sentBy (raw : RawRequest) (sender : Option String) : RawRequest :=
  { raw with principal := sender }

-- The frame is the only place where the sender is read.
theorem Request.frame_sent_by (hides : profile.showsIdentity = false) (tagLimit : Nat)
    (envelope : Envelope) (raw : RawRequest) (sender : Option String) :
    Classifier.frame ⟨profile, tagLimit⟩ envelope (raw.sentBy sender) =
      Classifier.frame ⟨profile, tagLimit⟩ envelope raw := by
  simp [Classifier.frame, RawRequest.sentBy, hides]

theorem Request.classify_sent_by (hides : profile.showsIdentity = false) (tagLimit : Nat)
    (raw : RawRequest) (sender : Option String) :
    Classifier.classify ⟨profile, tagLimit⟩ (raw.sentBy sender) =
      Classifier.classify ⟨profile, tagLimit⟩ raw := by
  unfold Classifier.classify
  simp only [frame_sent_by hides]
  rfl

theorem Request.hidden_user (hides : profile.showsIdentity = false)
    (accepted : Classifier.classify ⟨profile, tagLimit⟩ raw = .ok descriptor) :
    descriptor.user = none := by
  obtain ⟨_, _, _, _, _, _, framed⟩ := classified_outline accepted
  have shown : descriptor.showsIdentity = profile.showsIdentity :=
    congrArg Descriptor.showsIdentity framed
  rw [Descriptor.user, shown, hides]
  rfl

end Classification

namespace Http

section Headers

def namesSender (header : String × String) : Bool :=
  lowerName header.1 == lowerName remoteUserHeader

/-- Two requests that may differ in who is said to send them, and in nothing else. -/
structure Request.SameButSender (request other : Request) : Prop where
  method : request.method = other.method
  target : request.target = other.target
  headers : request.headers.filter (fun header => !namesSender header) =
    other.headers.filter fun header => !namesSender header

variable {name : String} {headers : Headers}

theorem header_value_filter (different : lowerName remoteUserHeader ≠ lowerName name) (headers : Headers) :
    headerValue? (headers.filter fun header => !namesSender header) name = headerValue? headers name := by
  unfold headerValue?
  rw [List.find?_filter]
  congr 2
  funext header
  by_cases named : lowerName header.1 = lowerName name
  · simp [namesSender, named, Ne.symm different]
  · simp [named]

theorem Request.SameButSender.request_id {request other : Request} (same : request.SameButSender other) :
    inboundRequestId? request.headers = inboundRequestId? other.headers := by
  have value : headerValue? request.headers requestIdHeader = headerValue? other.headers requestIdHeader := by
    rw [← header_value_filter (by decide) request.headers, same.headers,
      header_value_filter (by decide)]
  rw [inboundRequestId?, headerText?, value]
  rfl

end Headers

section Served

variable {profile : WeblogFront.Request.Profile} {request other : Request}

theorem Request.SameButSender.raw_request (same : request.SameButSender other) (path : Option String) :
    Service.rawRequest profile path request =
      (Service.rawRequest profile path other).sentBy (remoteUser? request.headers) := by
  unfold Service.rawRequest
  rw [same.target]
  rfl

theorem page_served (hides : profile.showsIdentity = false) (same : request.SameButSender other)
    (service : Service) (path : Option String) (arrival : Arrival) (caches : Caches) :
    service.page profile path arrival caches request = service.page profile path arrival caches other := by
  have read := WeblogFront.Request.classify_sent_by hides service.tagLimit
    (Service.rawRequest profile path other) (remoteUser? request.headers)
  rw [← same.raw_request] at read
  unfold Service.page
  simp only [read]

theorem preview_leaves_caches (service : Service) (path : Option String) (arrival : Arrival)
    (caches : Caches) (request : Request) :
    (service.page .preview path arrival caches request).state = caches := by
  unfold Service.page
  dsimp only
  split
  case h_1 => rfl
  case h_2 descriptor accepted =>
    have previewed : descriptor.isPreview = true := by
      rw [Descriptor.isPreview, WeblogFront.Request.classified_preview accepted]
      rfl
    dsimp only
    rw [Render.preview_passes_cache _ _ _ (.fresh descriptor) previewed]

end Served

section Promises

open WeblogFront.Request (Classifier)

/-- What a mount point that hides identity makes of a request, whoever sent it. -/
structure HidesSender (profile : WeblogFront.Request.Profile) : Prop where
  /-- The sender decides neither whether a request is understood nor what it is taken for. -/
  read : ∀ tagLimit raw sender,
    Classifier.classify ⟨profile, tagLimit⟩ (raw.sentBy sender) =
      Classifier.classify ⟨profile, tagLimit⟩ raw
  /-- Nobody is logged in, and the key names nobody. -/
  unnamed : ∀ tagLimit raw descriptor, Classifier.classify ⟨profile, tagLimit⟩ raw = .ok descriptor →
    descriptor.user = none ∧ descriptor.isLoggedIn = false ∧
      ¬ "user=".toList <:+: (Cache.pageKey descriptor).toList
  /-- Key and page are those of the request that somebody else sends. -/
  rendered : ∀ tagLimit raw sender descriptor other,
    Classifier.classify ⟨profile, tagLimit⟩ raw = .ok descriptor →
    Classifier.classify ⟨profile, tagLimit⟩ (raw.sentBy sender) = .ok other →
    Cache.pageKey other = Cache.pageKey descriptor ∧
      ∀ lookups now store, Render.page lookups now store (.fresh other) =
        Render.page lookups now store (.fresh descriptor)
  served : ∀ (service : Service) path arrival caches (request other : Request),
    request.SameButSender other →
    service.page profile path arrival caches request = service.page profile path arrival caches other

theorem hides_sender {profile : WeblogFront.Request.Profile} (hides : profile.showsIdentity = false) :
    HidesSender profile where
  read := WeblogFront.Request.classify_sent_by hides
  unnamed _ _ descriptor accepted := by
    have nobody := WeblogFront.Request.hidden_user hides accepted
    have anonymous : descriptor.isLoggedIn = false := by rw [Descriptor.isLoggedIn, nobody]; rfl
    refine ⟨nobody, anonymous, fun named => ?_⟩
    cases anonymous.symm.trans ((Cache.user_named_iff descriptor).mp named)
  rendered tagLimit raw sender descriptor other accepted alsoAccepted := by
    rw [WeblogFront.Request.classify_sent_by hides, accepted] at alsoAccepted
    cases alsoAccepted
    exact ⟨rfl, fun _ _ _ => rfl⟩
  served service path arrival caches _ _ same := page_served hides same service path arrival caches

theorem preview_dispatch (method : String) {path : String} {rest : Option String}
    (previews : resource? path = some (.preview rest)) :
    dispatch method path = .run (.preview rest) ∨ dispatch method path = .wrongMethod "GET,HEAD" := by
  unfold dispatch
  rw [previews]
  dsimp only
  unfold reading
  split
  · exact .inl rfl
  · exact .inr rfl

theorem preview_handled {request other : Request} {rest : Option String}
    (previews : resource? request.target.path = some (.preview rest))
    (same : request.SameButSender other) (service : Service) (arrival : Arrival) (caches : Caches) :
    service.handle arrival caches request = service.handle arrival caches other ∧
      (service.handle arrival caches request).state = caches := by
  unfold Service.handle
  rw [← same.method, ← same.target]
  rcases preview_dispatch request.method previews with run | refused
  · rw [run]
    exact ⟨page_served rfl same service rest arrival caches,
      preview_leaves_caches service rest arrival caches request⟩
  · rw [refused]
    exact ⟨rfl, rfl⟩

/-- A mount point that hides identity answers all senders alike; and the previews are behind one that,
besides, leaves the caches as they were. -/
theorem senders_alike :
    (∀ profile : WeblogFront.Request.Profile, profile.showsIdentity = false → HidesSender profile) ∧
    ∀ (service : Service) arrival caches (request other : Request) rest,
      resource? request.target.path = some (.preview rest) → request.SameButSender other →
      service.respond arrival caches request = service.respond arrival caches other ∧
        (service.respond arrival caches request).state = caches := by
  refine ⟨fun profile hides => hides_sender hides, ?_⟩
  intro service arrival caches request other rest previews same
  obtain ⟨alike, unchanged⟩ := preview_handled previews same service arrival caches
  refine ⟨?_, unchanged⟩
  unfold Service.respond Service.requestId
  rw [alike, same.method, same.request_id]

-- Whoever the proxy names, and however it spells the header, the preview is the same.
theorem alice_and_admin_alike :
    let site : Site.Contents := ⟨[], [⟨"blog", "Blog", none, "basic", [], [], []⟩]⟩
    let service : Service := ⟨site.lookups, 3⟩
    let caches := Caches.new ⟨.pages, .planet, .salts⟩
    let arrival : Arrival := ⟨⟨5, ⟨0, 0, 0⟩⟩, [], []⟩
    let target : Target := .parse "/roller-ui/authoring/preview/blog/en"
    let request : Request := ⟨"GET", target, [("X-Remote-User", "alice"), ("x-request-id", "7")]⟩
    let other : Request := ⟨"GET", target, [("x-request-id", "7"), ("x-remote-user", "admin")]⟩
    let raw := Service.rawRequest .preview (some "/blog/en") request
    (∃ descriptor, Classifier.classify (.preview 3) raw = .ok descriptor ∧
      raw.principal = some "alice" ∧ descriptor.user = none) ∧
    (service.respond arrival caches request).result.status = 200 ∧
      service.respond arrival caches request = service.respond arrival caches other ∧
      (service.respond arrival caches request).state = caches := by
  intro site service caches arrival target request other raw
  obtain ⟨descriptor, accepted⟩ :
      ∃ descriptor, Classifier.classify (.preview 3) raw = .ok descriptor := ⟨_, rfl⟩
  have nobody := (senders_alike.1 .preview rfl).unnamed 3 raw descriptor accepted
  have same : request.SameButSender other := ⟨rfl, rfl, by decide +kernel⟩
  have previews : resource? request.target.path = some (.preview (some "/blog/en")) := by decide +kernel
  exact ⟨⟨descriptor, accepted, by decide +kernel, nobody.1⟩, by decide +kernel,
    senders_alike.2 service arrival caches request other _ previews same⟩

end Promises

end Http

end WeblogFront
