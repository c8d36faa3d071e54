import WeblogFront.Http.Response
import WeblogFront.Http.Route
import WeblogFront.Identifier
import WeblogFront.Render.Caches
import WeblogFront.Render.Planet

/-! The service: one request in, one response out, with the caches as its only memory. The clock and
the random octets of a request are handed in with it. -/
namespace WeblogFront.Http

structure Request where
  method : String
  target : Target
  headers : Headers
  deriving DecidableEq

structure Arrival where
  clock : Clock
  drawnSalt : List UInt8
  drawnId : List UInt8
  deriving DecidableEq

structure Service where
  lookups : Site.Lookups
  tagLimit : Nat

namespace Service

/-- The raw request of a page address; identity comes from the proxy alone. -/
def rawRequest (profile : WeblogFront.Request.Profile) (path : Option String) (request : Request) :
    RawRequest where
  mount := profile.mount
  path := path
  query := .parse request.target.query
  principal := remoteUser? request.headers

def kindOf (profile : WeblogFront.Request.Profile) : RequestKind :=
  if profile.previews then .preview else .page

def page (service : Service) (profile : WeblogFront.Request.Profile) (path : Option String)
    (arrival : Arrival) (caches : Caches) (request : Request) : Step Caches Response :=
  let classifier : WeblogFront.Request.Classifier := ⟨profile, service.tagLimit⟩
  match classifier.classify (rawRequest profile path request) with
  | .error rejection => ⟨caches, .ofRejection rejection, [.refused (kindOf profile)]⟩
  | .ok descriptor =>
    let step := Render.page service.lookups arrival.clock.reading caches.pages (.fresh descriptor)
    ⟨{ caches with pages := step.state.store }, .ofResult step.result profile.previews,
      .classified (kindOf profile) :: step.signals⟩

def planet (path : String) (arrival : Arrival) (caches : Caches) (request : Request) :
    Step Caches Response :=
  match PlanetRequest.ofParts? path (.parse request.target.query) (remoteUser? request.headers) with
  | none =>
    ⟨caches, .refusal "infra::http::planet_page" 404 "Page not found"
      ["not a planet request, `" ++ request.target.path ++ "`"], [.refused .planet]⟩
  | some asked =>
    let step := Render.planet arrival.clock caches.planet asked
    ⟨{ caches with planet := step.state }, .ofResult step.result false, step.signals⟩

def anonymous (source : String) : Response :=
  .refusal source 401 "Authentication required" ["missing `" ++ remoteUserHeader ++ "` header"]

/-- Only a known author is given a salt. -/
def issueSalt (arrival : Arrival) (caches : Caches) (request : Request) : Step Caches Response :=
  match remoteUser? request.headers with
  | none => ⟨caches, anonymous "infra::http::issue_salt", []⟩
  | some user =>
    let step := Cache.Salts.issue caches.salts arrival.clock.reading
      (Identifier.simple arrival.drawnSalt) user
    let body := Json.record [("salt", .text step.result)]
    ⟨{ caches with salts := step.state },
      ⟨200, [("content-type", viewType)], body.compact, none⟩, step.signals⟩

def spendSalt (escaped : String) (arrival : Arrival) (caches : Caches) (request : Request) :
    Step Caches Response :=
  match Text.strict? (Text.unescape (Text.octets escaped.toList)) with
  | none => ⟨caches, .text 400 "Invalid URL: Invalid UTF-8 in `salt`", []⟩
  | some salt =>
    match remoteUser? request.headers with
    | none => ⟨caches, anonymous "infra::http::consume_salt", []⟩
    | some user =>
      let step := Cache.Salts.spend caches.salts arrival.clock.reading (String.ofList salt) user
      let response := if step.result then .empty 204 else
        .refusal "infra::http::consume_salt" 403 "Invalid salt"
          ["salt is unknown, expired, spent or not issued to `" ++ user ++ "`"]
      ⟨{ caches with salts := step.state }, response, step.signals⟩

def act (service : Service) (action : Action) (arrival : Arrival) (caches : Caches)
    (request : Request) : Step Caches Response :=
  match action with
  | .page path => service.page .page path arrival caches request
  | .preview path => service.page .preview path arrival caches request
  | .planet path => planet path arrival caches request
  | .issueSalt => issueSalt arrival caches request
  | .spendSalt escaped => spendSalt escaped arrival caches request
  | .health => ⟨caches, .empty 204, []⟩

def handle (service : Service) (arrival : Arrival) (caches : Caches) (request : Request) :
    Step Caches Response :=
  match dispatch request.method request.target.path with
  | .run action => service.act action arrival caches request
  | .wrongMethod allowed => ⟨caches, (Response.empty 405).withHeader "allow" allowed, []⟩
  | .unknown => ⟨caches, .empty 404, []⟩

def requestId (arrival : Arrival) (headers : Headers) : String :=
  (inboundRequestId? headers).getD (Identifier.grouped arrival.drawnId)

/-- Every response names its request, if the name can be sent, and is accounted for once, after the handler
has run. -/
def respond (service : Service) (arrival : Arrival) (caches : Caches) (request : Request) :
    Step Caches Response :=
  let step := service.handle arrival caches request
  let sent := if request.method = "HEAD" then step.result.withoutBody else step.result
  let id := requestId arrival request.headers
  ⟨step.state, if isSendable id then sent.withHeader requestIdHeader id else sent,
    step.signals ++ step.result.endSignals⟩

end Service

end WeblogFront.Http
