import WeblogFront.Query

/-! A request before it is understood: the mount point it came through, the path below that mount
point, its parameters, and who sent it. -/
namespace WeblogFront

structure RawRequest where
  mount : String
  path : Option String
  query : Query
  principal : Option String
  deriving DecidableEq

/-- What the sender would recognise as the address; it names the request in every rejection. -/
def RawRequest.url (raw : RawRequest) : String :=
  raw.mount ++ raw.path.getD ""

end WeblogFront
