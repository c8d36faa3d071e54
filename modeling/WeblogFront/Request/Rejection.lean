import WeblogFront.Text.Numeral

/-! Why a request is no page request. Each cause carries what its sender has to see, the address
included. -/
namespace WeblogFront

inductive Rejection where
  | destination (mount url : String)
  | missingWeblog (url : String)
  | unsupportedContext (context url : String)
  | invalidDate (value url : String)
  | tooManyTags (limit : Nat) (url : String)
  | bareContext (context url : String)
  deriving DecidableEq

def Rejection.message : Rejection → String
  | .destination mount url => "invalid destination `" ++ mount ++ "` for request `" ++ url ++ "`"
  | .missingWeblog url => "not a weblog request, `" ++ url ++ "`"
  | .unsupportedContext context url => "context `" ++ context ++ "` not supported, `" ++ url ++ "`"
  | .invalidDate value url => "invalid date `" ++ value ++ "`, `" ++ url ++ "`"
  | .tooManyTags limit url =>
    "max number of tags allowed is " ++ String.ofList (Text.decimal limit) ++ ", `" ++ url ++ "`"
  | .bareContext context url => "invalid index page `" ++ context ++ "`, `" ++ url ++ "`"

end WeblogFront
