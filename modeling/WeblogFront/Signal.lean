import WeblogFront.Site.Lookup
import WeblogFront.Text.Quoted

/-! What the program tells its operators while it works. A signal is the fact; the events of the log
and the counters are read off it, so nothing is counted that did not happen. -/
namespace WeblogFront

inductive CacheOperation where
  | get
  | put
  | take
  | remove
  | clear
  | len
  deriving DecidableEq

def CacheOperation.name : CacheOperation → String
  | .get => "get"
  | .put => "put"
  | .take => "take"
  | .remove => "remove"
  | .clear => "clear"
  | .len => "len"

inductive HitKind where
  | homepage
  | content
  deriving DecidableEq

inductive RequestKind where
  | page
  | preview
  | planet
  deriving DecidableEq

def RequestKind.name : RequestKind → String
  | .page => "page"
  | .preview => "preview"
  | .planet => "planet"

/-- How a request ended that was not served: with the stage that gave up and its messages, or without. -/
inductive Outcome where
  | failed (status : Nat) (stage : String) (messages : List String)
  | rejected (status : Nat) (stage : String) (messages : List String)
  | unreported (status : Nat)
  deriving DecidableEq

inductive Signal where
  | hit (cache : String)
  | miss (cache : String)
  | expired (cache : String)
  | evicted (cache : String)
  | lockRecovered (cache : String) (operation : CacheOperation)
  | cachingDisabled (cache : String)
  | disablingIgnored (cache : String)
  | updateTimeUnknown (cache : String)
  | asked (question : Site.Question)
  | lookupFailed (what key : String) (failure : Site.LookupFailure)
  | visited (kind : HitKind)
  | rendered
  | classified (kind : RequestKind)
  | refused (kind : RequestKind)
  | ended (outcome : Outcome)
  deriving DecidableEq

inductive Level where
  | warn
  | error
  deriving DecidableEq

def Level.name : Level → String
  | .warn => "WARN"
  | .error => "ERROR"

structure Event where
  level : Level
  message : String
  fields : List (String × Json)

def Outcome.event : Outcome → Event
  | .failed status stage messages =>
    ⟨.error, "request failed", [
      ("status", .number status),
      ("stage", .text stage),
      ("detail", .text (messages.headD "")),
      ("chain", .text (Text.quoteAll messages))]⟩
  | .rejected status stage messages =>
    ⟨.warn, "request rejected", [
      ("status", .number status),
      ("stage", .text stage),
      ("detail", .text (messages.headD ""))]⟩
  | .unreported status => ⟨.warn, "request failed without report", [("status", .number status)]⟩

namespace Signal

def event? : Signal → Option Event
  | .lockRecovered cache operation =>
    some ⟨.warn, "cache lock poisoned by a panicking holder, continuing with current entries",
      [("cache", .text cache), ("op", .text operation.name)]⟩
  | .cachingDisabled cache => some ⟨.warn, "caching has been DISABLED", [("cache", .text cache)]⟩
  | .disablingIgnored cache =>
    some ⟨.warn, "salt cache cannot be disabled, ignoring `enabled = false`",
      [("cache", .text cache)]⟩
  | .updateTimeUnknown cache =>
    some ⟨.warn, "can't get last update time, using current time instead", [("cache", .text cache)]⟩
  | .lookupFailed what key failure =>
    some ⟨.error, "lookup failed, treating as absent",
      [("what", .text what), ("key", .text key), ("error", .text failure.message)]⟩
  | .ended outcome => some outcome.event
  | _ => none

structure Series where
  name : String
  label : Option (String × String)
  deriving DecidableEq

def Series.text (series : Series) : String :=
  match series.label with
  | none => series.name
  | some (label, value) => series.name ++ "\x7b" ++ label ++ "=" ++ value ++ "\x7d"

def ofCache (name cache : String) : Option Series :=
  some ⟨name, some ("cache", cache)⟩

def series? : Signal → Option Series
  | .hit cache => ofCache "roller_cache_hit_total" cache
  | .miss cache => ofCache "roller_cache_miss_total" cache
  | .expired cache => ofCache "roller_cache_expired_total" cache
  | .evicted cache => ofCache "roller_cache_evict_total" cache
  | .lockRecovered cache _ => ofCache "roller_cache_lock_poisoned_total" cache
  | .visited .homepage => some ⟨"roller_page_hits_total", some ("kind", "homepage")⟩
  | .visited .content => some ⟨"roller_page_hits_total", some ("kind", "content")⟩
  | .rendered => some ⟨"roller_render_ms", none⟩
  | .classified kind => some ⟨"roller_requests_classified_total", some ("profile", kind.name)⟩
  | .refused kind => some ⟨"roller_requests_rejected_total", some ("profile", kind.name)⟩
  | _ => none

def question? : Signal → Option Site.Question
  | .asked question => some question
  | _ => none

end Signal

def events (signals : List Signal) : List Event :=
  signals.filterMap Signal.event?

def questions (signals : List Signal) : List Site.Question :=
  signals.filterMap Signal.question?

def addOne (series : Signal.Series) : List (Signal.Series × Nat) → List (Signal.Series × Nat)
  | [] => [(series, 1)]
  | (present, total) :: rest =>
    if series = present then (present, total + 1) :: rest
    else (present, total) :: addOne series rest

def totals (signals : List Signal) : List (Signal.Series × Nat) :=
  (signals.filterMap Signal.series?).foldl (fun sums series => addOne series sums) []

/-- One step of a stateful part: the state after it, its answer, and what it signalled on the way. -/
structure Step (σ α : Type) where
  state : σ
  result : α
  signals : List Signal

end WeblogFront
