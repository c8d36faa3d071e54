import WeblogFront.Text.Numeral

/-! How one cache is set up. Lifetimes are whole seconds. -/
namespace WeblogFront.Cache

structure Settings where
  enabled : Bool
  size : Nat
  timeout : Nat
  deriving DecidableEq

namespace Settings

def planet : Settings := ⟨true, 100, 900⟩

def pages : Settings := ⟨true, 400, 3600⟩

def salts : Settings := ⟨true, 5000, 3600⟩

def disabled (settings : Settings) : Settings :=
  { settings with enabled := false }

def withSize (settings : Settings) (size : Nat) : Settings :=
  { settings with size := size }

def withTimeout (settings : Settings) (timeout : Nat) : Settings :=
  { settings with timeout := timeout }

/-- A cache that is enabled has room for one entry at least. -/
def capacity (settings : Settings) : Nat :=
  max settings.size 1

theorem capacity_positive (settings : Settings) : 0 < settings.capacity :=
  Nat.lt_of_lt_of_le Nat.one_pos (Nat.le_max_right _ _)

end Settings

end WeblogFront.Cache
