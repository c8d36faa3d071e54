import WeblogFront.Http.Target
import WeblogFront.Request.Classifier
import WeblogFront.Text.Percent

/-! Routes. A path selects a resource, the method what is done with it. Paths are matched as they were
sent, so that the classifier sees them unchanged; only a salt in a path is decoded. -/
namespace WeblogFront.Http

inductive Resource where
  | page (path : Option String)
  | preview (path : Option String)
  | planet (path : String)
  | saltDesk
  | salt (escaped : String)
  | health
  deriving DecidableEq

def planetMount : String := "/planet"

def saltMount : String := "/roller-ui/authoring/salt"

/-- The path below a mount point: none at the mount point itself, and at least one character after
the slash anywhere else. -/
def below? (mount path : String) : Option (Option String) :=
  match Text.after? mount.toList path.toList with
  | some [] => some none
  | some ('/' :: c :: rest) => some (some (String.ofList ('/' :: c :: rest)))
  | _ => none

def resource? (path : String) : Option Resource :=
  match below? Request.Profile.page.mount path with
  | some rest => some (.page rest)
  | none =>
    match below? Request.Profile.preview.mount path with
    | some rest => some (.preview rest)
    | none =>
      match below? planetMount path with
      | some (some rest) => some (.planet rest)
      | some none => none
      | none =>
        match below? saltMount path with
        | some none => some .saltDesk
        | some (some rest) =>
          let salt := rest.toList.drop 1
          if salt.contains '/' then none else some (.salt (String.ofList salt))
        | none => if path = "/_health" then some .health else none

inductive Action where
  | page (path : Option String)
  | preview (path : Option String)
  | planet (path : String)
  | issueSalt
  | spendSalt (escaped : String)
  | health
  deriving DecidableEq

inductive Dispatch where
  | run (action : Action)
  | wrongMethod (allowed : String)
  | unknown
  deriving DecidableEq

def reads (method : String) : Bool :=
  method = "GET" || method = "HEAD"

def reading (method : String) (action : Action) : Dispatch :=
  if reads method then .run action else .wrongMethod "GET,HEAD"

def dispatch (method path : String) : Dispatch :=
  match resource? path with
  | some (.page rest) => reading method (.page rest)
  | some (.preview rest) => reading method (.preview rest)
  | some (.planet rest) => reading method (.planet rest)
  | some .saltDesk => reading method .issueSalt
  | some (.salt escaped) =>
    if method = "DELETE" then .run (.spendSalt escaped) else .wrongMethod "DELETE"
  | some .health => reading method .health
  | none => .unknown

end WeblogFront.Http
