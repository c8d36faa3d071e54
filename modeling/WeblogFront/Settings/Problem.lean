/-! What can be wrong with the settings: a source that cannot be read as settings at all, or a value
that no run could use. -/
namespace WeblogFront.Settings

inductive Problem where
  | unbuildable
  | invalid (key reason : String)
  deriving DecidableEq

def Problem.message : Problem → String
  | .unbuildable => "failed to build configuration"
  | .invalid key reason => "invalid configuration for `" ++ key ++ "`: " ++ reason

end WeblogFront.Settings
