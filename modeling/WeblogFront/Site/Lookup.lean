import WeblogFront.Site.Record

/-! Asking a site by the names that stand in addresses. An answer is a record or the news that there is
none; a failure means that the question itself could not be answered. -/
namespace WeblogFront.Site

inductive LookupFailure where
  | unknownWeblog (handle : String)
  | backend (message : String)
  deriving DecidableEq

def LookupFailure.message : LookupFailure → String
  | .unknownWeblog handle => "weblog `" ++ handle ++ "` not found"
  | .backend message => "lookup backend failure: " ++ message

inductive Question where
  | weblog (handle : String)
  | entry (handle anchor : String)
  | category (handle name : String)
  | template (handle link : String)
  | theme (name : String)
  deriving DecidableEq

abbrev Answer (α : Type) := Except LookupFailure (Option α)

/-- Whatever can answer the five questions: a site in memory, or a store that may be out of reach. -/
structure Lookups where
  weblog : String → Answer Weblog
  entry : String → String → Answer Entry
  category : String → String → Answer Category
  template : String → String → Answer Template
  theme : String → Answer Theme

end WeblogFront.Site
