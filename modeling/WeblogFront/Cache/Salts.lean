import WeblogFront.Cache.Store

/-! One-time salts for forms. A salt is stored with the user it was given to, and whoever takes it out
has spent it. There is no way to turn this cache off. -/
namespace WeblogFront.Cache

def saltsId : String := "cache.salt"

/-- A salt lives an hour, or less when the cache says so. -/
def saltLifetime : Nat := 3600

abbrev Salts := Store String

namespace Salts

def new (settings : Settings) : Salts :=
  Store.new saltsId { settings with enabled := true }

def openingSignals (settings : Settings) : List Signal :=
  if settings.enabled then [] else [.disablingIgnored saltsId]

def put (salts : Salts) (now : Nat) (salt user : String) : Step Salts Unit :=
  salts.putFor now salt user saltLifetime

def issue (salts : Salts) (now : Nat) (drawn user : String) : Step Salts String :=
  let step := put salts now drawn user
  ⟨step.state, drawn, step.signals⟩

def consume (salts : Salts) (now : Nat) (salt : String) : Step Salts (Option String) :=
  let step := salts.take now salt
  ⟨step.state, step.result.value?, step.signals⟩

/-- A salt that somebody else presents stays valid for its owner. -/
def spend (salts : Salts) (now : Nat) (salt user : String) : Step Salts Bool :=
  let step := salts.takeIf now salt fun owner => owner == user
  ⟨step.state, step.result.value?.isSome, step.signals⟩

end Salts

end WeblogFront.Cache
