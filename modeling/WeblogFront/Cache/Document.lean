import WeblogFront.Cache.Store

/-! A rendered view, ready to be sent. -/
namespace WeblogFront

structure Document where
  contentType : String
  body : String
  deriving DecidableEq

end WeblogFront
