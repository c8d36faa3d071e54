import WeblogFront.Files
import WeblogFront.Settings.Address

/-! What surrounds a run of the program: its files, its environment variables, and the addresses at which
its machine can be reached. -/
namespace WeblogFront

structure Surroundings where
  files : Files
  environment : List (String × String)
  owns : Settings.Address → Bool

end WeblogFront
