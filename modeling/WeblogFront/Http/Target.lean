import WeblogFront.Text.Cut

/-! Request targets. The path and the query are kept as they were sent; scheme, authority and fragment
play no part in serving a request. -/
namespace WeblogFront.Http

structure Target where
  path : String
  query : String
  deriving DecidableEq

def afterAuthority (text : List Char) : List Char :=
  match text with
  | '/' :: _ => text
  | _ =>
    match Text.cutOnce ':' text with
    | (_, some ('/' :: '/' :: rest)) => rest.dropWhile fun c => c != '/' && c != '?'
    | _ => text

def Target.parse (uri : String) : Target :=
  let address := (Text.cutOnce '#' uri.toList).1
  let parts := Text.cutOnce '?' (afterAuthority address)
  let path := if parts.1.isEmpty then ['/'] else parts.1
  ⟨String.ofList path, String.ofList (parts.2.getD [])⟩

end WeblogFront.Http
