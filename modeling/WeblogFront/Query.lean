import WeblogFront.Text.Form
import WeblogFront.Text.Json

/-! Query parameters: for each name the values it carries, in the order in which they came. Names are
kept in ascending order of code points, which is also the order of their octets, so two query
strings that give every name the same values give the same parameters. -/
namespace WeblogFront

abbrev NamedValues := String × List String

def addValue (name value : String) : List NamedValues → List NamedValues
  | [] => [(name, [value])]
  | (present, values) :: rest =>
    if name < present then (name, [value]) :: (present, values) :: rest
    else if name = present then (present, values ++ [value]) :: rest
    else (present, values) :: addValue name value rest

theorem mem_add_value {name value : String} {entries : List NamedValues} {entry : NamedValues}
    (member : entry ∈ addValue name value entries) :
    entry.1 = name ∨ ∃ old ∈ entries, old.1 = entry.1 := by
  induction entries with
  | nil => simp [addValue] at member; exact .inl (by rw [member])
  | cons head rest ih =>
    obtain ⟨present, values⟩ := head
    simp only [addValue] at member
    split at member
    · rcases List.mem_cons.mp member with same | later
      · exact .inl (by rw [same])
      · exact .inr ⟨entry, later, rfl⟩
    · split at member
      · rcases List.mem_cons.mp member with same | later
        · exact .inr ⟨(present, values), by simp, by rw [same]⟩
        · exact .inr ⟨entry, List.mem_cons_of_mem _ later, rfl⟩
      · rcases List.mem_cons.mp member with same | later
        · exact .inr ⟨(present, values), by simp, by rw [same]⟩
        · rcases ih later with named | ⟨old, held, same⟩
          · exact .inl named
          · exact .inr ⟨old, List.mem_cons_of_mem _ held, same⟩

theorem add_value_ordered (name value : String) {entries : List NamedValues}
    (ordered : entries.Pairwise fun left right => left.1 < right.1) :
    (addValue name value entries).Pairwise fun left right => left.1 < right.1 := by
  induction entries with
  | nil => simp [addValue]
  | cons head rest ih =>
    obtain ⟨present, values⟩ := head
    have parts := List.pairwise_cons.mp ordered
    simp only [addValue]
    split
    case isTrue before =>
      refine List.pairwise_cons.mpr ⟨fun entry member => ?_, ordered⟩
      rcases List.mem_cons.mp member with same | later
      · rw [same]; exact before
      · exact String.lt_trans before (parts.1 entry later)
    case isFalse notBefore =>
      split
      · exact List.pairwise_cons.mpr ⟨parts.1, parts.2⟩
      case isFalse different =>
        refine List.pairwise_cons.mpr ⟨fun entry member => ?_, ih parts.2⟩
        rcases mem_add_value member with named | ⟨old, held, same⟩
        · rw [named]
          exact String.not_le.mp fun le =>
            different (String.le_antisymm le (String.not_lt.mp notBefore))
        · rw [← same]; exact parts.1 old held

theorem add_value_filled (name value : String) {entries : List NamedValues}
    (filled : ∀ entry ∈ entries, entry.2 ≠ []) :
    ∀ entry ∈ addValue name value entries, entry.2 ≠ [] := by
  induction entries with
  | nil => simp [addValue]
  | cons head rest ih =>
    obtain ⟨present, values⟩ := head
    simp only [addValue]
    split
    · simpa using filled
    · split
      · simp only [List.mem_cons, forall_eq_or_imp]
        exact ⟨by simp, fun entry member => filled entry (List.mem_cons_of_mem _ member)⟩
      · simp only [List.mem_cons, forall_eq_or_imp]
        exact ⟨filled (present, values) (by simp),
          ih fun entry member => filled entry (List.mem_cons_of_mem _ member)⟩

/-- A name stands once, and a name that stands carries at least one value. -/
structure Query where
  entries : List NamedValues
  ordered : entries.Pairwise fun left right => left.1 < right.1
  filled : ∀ entry ∈ entries, entry.2 ≠ []
  deriving DecidableEq

namespace Query

def empty : Query :=
  ⟨[], .nil, by simp⟩

instance : Inhabited Query := ⟨empty⟩

def append (query : Query) (name value : String) : Query :=
  ⟨addValue name value query.entries, add_value_ordered name value query.ordered,
    add_value_filled name value query.filled⟩

def keep (query : Query) (passes : String → Bool) : Query :=
  ⟨query.entries.filter fun entry => passes entry.1, query.ordered.filter _,
    fun entry member => query.filled entry (List.mem_filter.mp member).1⟩

def ofPairs (pairs : List (String × String)) : Query :=
  pairs.foldl (fun query pair => query.append pair.1 pair.2) empty

def parse (text : String) : Query :=
  ofPairs (Text.formPairs text)

def find? (query : Query) (name : String) : Option (List String) :=
  (query.entries.find? fun entry => entry.1 == name).map (·.2)

def all (query : Query) (name : String) : List String :=
  (query.find? name).getD []

/-- Where one value is asked for, the first one answers. -/
def first? (query : Query) (name : String) : Option String :=
  (query.all name).head?

def contains (query : Query) (name : String) : Bool :=
  (query.find? name).isSome

def remove (query : Query) (name : String) : Query :=
  query.keep fun present => present != name

/-- The number of names, not of values. -/
def size (query : Query) : Nat :=
  query.entries.length

def isEmpty (query : Query) : Bool :=
  query.entries.isEmpty

/-- The names with a meaning of their own; every other parameter is the page's. -/
def reserved : List String :=
  ["entry", "anchor", "date", "cat", "page", "tags"]

def custom (query : Query) : Query :=
  query.keep fun name => !reserved.contains name

def toJson (query : Query) : Json :=
  .record (query.entries.map fun entry => (entry.1, Json.ofTexts entry.2))

end Query

end WeblogFront
