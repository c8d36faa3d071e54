import WeblogFront.Failure
import WeblogFront.Http.Header
import WeblogFront.Render.Page

/-! Responses. A handler that refuses a request attaches a report for the log; the report never leaves
the service, and what ends a request is read off the status and the report. -/
namespace WeblogFront.Http

structure Report where
  source : String
  status : Nat
  messages : List String
  deriving DecidableEq

structure Response where
  status : Nat
  headers : Headers
  body : String
  report : Option Report
  deriving DecidableEq

def textType : String := "text/plain; charset=utf-8"

namespace Response

def empty (status : Nat) : Response :=
  ⟨status, [], "", none⟩

def text (status : Nat) (body : String) : Response :=
  ⟨status, [("content-type", textType)], body, none⟩

def refusal (source : String) (status : Nat) (publicText : String) (messages : List String) :
    Response :=
  { text status publicText with report := some ⟨source, status, messages⟩ }

/-- Every address that is no page address is a page that is not there. -/
def ofRejection (rejection : Rejection) : Response :=
  refusal "request::classify" 404 "Page not found" [rejection.message]

def ofFailure (failure : Failure) : Response :=
  refusal "application::error::AppError" failure.status failure.publicText failure.messages

def cacheStatus (rendered : Render.Rendered) : String :=
  match rendered.key, rendered.hit with
  | none, _ => "BYPASS"
  | some _, true => "HIT"
  | some _, false => "MISS"

/-- A preview must not be kept by anybody on the way. -/
def ofRendered (rendered : Render.Rendered) (preview : Bool) : Response where
  status := 200
  headers :=
    [("content-type", rendered.document.contentType),
      (cacheStatusHeader, cacheStatus rendered)]
      ++ (if preview then [("cache-control", "no-store")] else [])
  body := rendered.document.body
  report := none

def ofResult (result : Except Failure Render.Rendered) (preview : Bool) : Response :=
  match result with
  | .ok rendered => ofRendered rendered preview
  | .error failure => ofFailure failure

def withoutBody (response : Response) : Response :=
  { response with body := "" }

def withHeader (response : Response) (name value : String) : Response :=
  { response with
    headers := response.headers.filter (fun header => header.1 != name) ++ [(name, value)] }

/-- The one outcome that is logged, if any: success and redirection are silent. -/
def outcome? (response : Response) : Option Outcome :=
  if 200 ≤ response.status && response.status < 300 then none
  else
    match response.report with
    | some report =>
      if 500 ≤ response.status && response.status < 600 then
        some (.failed response.status report.source report.messages)
      else some (.rejected response.status report.source report.messages)
    | none =>
      if 400 ≤ response.status && response.status < 600 then some (.unreported response.status)
      else none

def endSignals (response : Response) : List Signal :=
  match response.outcome? with
  | some outcome => [.ended outcome]
  | none => []

end Response

end WeblogFront.Http
