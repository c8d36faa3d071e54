import WeblogFront.Cache.PageKey
import WeblogFront.Proofs.Text.Cut
import WeblogFront.Proofs.Text.Form
import Mathlib.Data.List.Sort

/-! The text of parameters that goes into the digest of a page key. It names every value, and as a query
string it is read back as the same parameters, whatever the names and the values hold: so it loses
nothing, and other parameters have another text. Parameters are known by what they give to each name;
in which order a query string mentions its names makes no difference. -/
namespace WeblogFront.Query

section Values

variable {entries : List NamedValues}

def valuesOf (name : String) (pairs : List (String × String)) : List String :=
  (pairs.filter fun pair => pair.1 = name).map (·.2)

def held (name : String) (entries : List NamedValues) : List String :=
  ((entries.find? fun entry => entry.1 == name).map (·.2)).getD []

theorem held_absent {name : String} (absent : ∀ entry ∈ entries, entry.1 ≠ name) :
    held name entries = [] := by
  have missing : entries.find? (fun entry => entry.1 == name) = none := by
    simpa using absent
  rw [held, missing]
  rfl

theorem held_cons (name present : String) (values : List String) (rest : List NamedValues) :
    held name ((present, values) :: rest) = if present = name then values else held name rest := by
  by_cases same : present = name
  · simp [held, same]
  · simp [held, same]

theorem held_behind {present : String} {values : List String} {rest : List NamedValues}
    (ordered : ((present, values) :: rest).Pairwise fun left right => left.1 < right.1) :
    held present rest = [] := by
  apply held_absent
  intro entry member same
  have later := (List.pairwise_cons.mp ordered).1 entry member
  rw [same] at later
  exact String.lt_irrefl present later

theorem held_add_value (name added value : String)
    (ordered : entries.Pairwise fun left right => left.1 < right.1) :
    held name (addValue added value entries) =
      held name entries ++ if added = name then [value] else [] := by
  induction entries with
  | nil => by_cases same : added = name <;> simp [addValue, held, same]
  | cons head rest ih =>
    obtain ⟨present, values⟩ := head
    have later := List.pairwise_cons.mp ordered
    simp only [addValue]
    split
    case isTrue before =>
      rw [held_cons]
      by_cases same : added = name
      · subst same
        have fresh : held added ((present, values) :: rest) = [] := by
          apply held_absent
          intro entry member named
          rcases List.mem_cons.mp member with rfl | behind
          · exact absurd named (String.ne_of_lt before).symm
          · have ahead := String.lt_trans before (later.1 entry behind)
            exact absurd named (String.ne_of_lt ahead).symm
        simp [fresh]
      · simp [same]
    case isFalse =>
      split
      case isTrue same =>
        subst same
        by_cases named : added = name <;> simp [held_cons, named]
      case isFalse different =>
        rw [held_cons, held_cons, ih later.2]
        by_cases named : present = name
        · have other : added ≠ name := fun same => different (same.trans named.symm)
          simp [named, other]
        · simp [named]

end Values

section Parameters

theorem all_eq_held (query : Query) (name : String) : query.all name = held name query.entries := rfl

theorem all_of_pairs (name : String) (pairs : List (String × String)) :
    (ofPairs pairs).all name = valuesOf name pairs := by
  induction pairs using List.reverseRecOn with
  | nil => rfl
  | append_singleton pairs pair ih =>
    rw [ofPairs, List.foldl_append]
    change held name (addValue pair.1 pair.2 (ofPairs pairs).entries) = _
    rw [held_add_value name pair.1 pair.2 (ofPairs pairs).ordered, ← all_eq_held, ih]
    by_cases same : pair.1 = name <;> simp [valuesOf, same]

theorem mem_entries_iff (query : Query) (entry : NamedValues) :
    entry ∈ query.entries ↔ entry.2 ≠ [] ∧ query.all entry.1 = entry.2 := by
  constructor
  · intro member
    obtain ⟨front, back, whole⟩ := List.append_of_mem member
    have ahead : ∀ earlier ∈ front, (!(earlier.1 == entry.1)) = true := by
      intro earlier before
      have ordered := query.ordered
      rw [whole] at ordered
      have less := (List.pairwise_append.mp ordered).2.2 earlier before entry List.mem_cons_self
      simpa using String.ne_of_lt less
    have found : query.entries.find? (fun other => other.1 == entry.1) = some entry :=
      List.find?_eq_some_iff_append.mpr ⟨beq_self_eq_true _, front, back, whole, ahead⟩
    refine ⟨query.filled entry member, ?_⟩
    rw [all_eq_held, held, found]
    rfl
  · rintro ⟨nonempty, valued⟩
    cases found : query.entries.find? fun other => other.1 == entry.1 with
    | none =>
      rw [all_eq_held, held, found] at valued
      exact absurd valued.symm nonempty
    | some other =>
      rw [all_eq_held, held, found] at valued
      have same : other = entry := Prod.ext (by simpa using List.find?_some found) valued
      exact same ▸ List.mem_of_find?_eq_some found

theorem ext_all {left right : Query} (same : ∀ name, left.all name = right.all name) :
    left = right := by
  have irreflexive : Std.Irrefl fun left right : NamedValues => left.1 < right.1 :=
    ⟨fun entry => String.lt_irrefl entry.1⟩
  have antisymmetric : Std.Antisymm fun left right : NamedValues => left.1 < right.1 :=
    ⟨fun _ _ before after => absurd after (String.lt_asymm before)⟩
  have entries : left.entries = right.entries := by
    apply left.ordered.eq_of_mem_iff right.ordered
    intro entry
    rw [mem_entries_iff, mem_entries_iff, same]
  cases left
  cases right
  cases entries
  rfl

theorem parse_eq_iff {left right : String} :
    parse left = parse right ↔
      ∀ name, valuesOf name (Text.formPairs left) = valuesOf name (Text.formPairs right) := by
  constructor
  · intro same name
    rw [← all_of_pairs, ← all_of_pairs]
    exact congrArg (fun query => query.all name) same
  · intro same
    apply ext_all
    intro name
    rw [parse, parse, all_of_pairs, all_of_pairs, same name]

end Parameters

section Texts

def pairsOf (entries : List NamedValues) : List (String × String) :=
  entries.flatMap fun entry => entry.2.map fun value => (entry.1, value)

def writePair (pair : String × String) : List Char :=
  Text.segment pair.1.toList ++ '=' :: Text.segment pair.2.toList ++ ['&']

theorem canonical_text_eq (query : Query) :
    query.canonicalText = (pairsOf query.entries).flatMap writePair := by
  simp [canonicalText, pairsOf, writePair, List.flatMap_assoc, List.flatMap_map]

theorem segment_signless (text : String) :
    '&' ∉ Text.segment text.toList ∧ '=' ∉ Text.segment text.toList :=
  ⟨Text.separator_not_in_segment (by decide) (by decide) _,
    Text.separator_not_in_segment (by decide) (by decide) _⟩

theorem written_unparted (pair : String × String) :
    ∀ c ∈ Text.segment pair.1.toList ++ '=' :: Text.segment pair.2.toList, (c == '&') = false := by
  intro c member
  apply beq_false_of_ne
  rintro rfl
  rcases List.mem_append.mp member with inName | inValue
  · exact (segment_signless pair.1).1 inName
  · rcases List.mem_cons.mp inValue with sign | inValue
    · cases sign
    · exact (segment_signless pair.2).1 inValue

theorem form_pairs_written (pairs : List (String × String)) :
    Text.formPairs (String.ofList (pairs.flatMap writePair)) = pairs := by
  induction pairs with
  | nil => rfl
  | cons pair rest ih =>
    let name := Text.segment pair.1.toList
    let value := Text.segment pair.2.toList
    have whole : (pair :: rest).flatMap writePair =
        (name ++ '=' :: value) ++ '&' :: rest.flatMap writePair := by
      simp [writePair, name, value]
    have cut : Text.cutOnce '=' (name ++ '=' :: value) = (name, some value) :=
      Text.cut_at (segment_signless pair.1).2 value
    have names : Text.readForm name = pair.1.toList :=
      Text.read_form_of_octets (Text.spelled_segment _)
    have values : Text.readForm value = pair.2.toList :=
      Text.read_form_of_octets (Text.spelled_segment _)
    rw [Text.formPairs, String.toList_ofList] at ih ⊢
    rw [whole, Text.pieces_at (written_unparted pair) (beq_self_eq_true '&'),
      List.filter_cons_of_pos (by simp), List.map_cons, ih, cut]
    simp [names, values]

theorem values_of_pairs_cons (name present : String) (values : List String)
    (rest : List NamedValues) :
    valuesOf name (pairsOf ((present, values) :: rest)) =
      (if present = name then values else []) ++ valuesOf name (pairsOf rest) := by
  have own : valuesOf name (values.map fun value => (present, value)) =
      if present = name then values else [] := by
    by_cases same : present = name <;> simp [valuesOf, List.filter_map, Function.comp_def, same]
  rw [← own]
  simp [valuesOf, pairsOf]

theorem values_of_pairs (name : String) {entries : List NamedValues}
    (ordered : entries.Pairwise fun left right => left.1 < right.1) :
    valuesOf name (pairsOf entries) = held name entries := by
  induction entries with
  | nil => rfl
  | cons head rest ih =>
    obtain ⟨present, values⟩ := head
    rw [values_of_pairs_cons, held_cons, ih (List.pairwise_cons.mp ordered).2]
    by_cases same : present = name
    · subst same
      simp [held_behind ordered]
    · simp [same]

theorem parse_canonical_text (query : Query) : parse (String.ofList query.canonicalText) = query := by
  apply ext_all
  intro name
  rw [parse, all_of_pairs, canonical_text_eq, form_pairs_written, values_of_pairs name query.ordered]
  rfl

theorem canonical_text_injective {left right : Query}
    (same : left.canonicalText = right.canonicalText) : left = right := by
  rw [← parse_canonical_text left, same, parse_canonical_text]

theorem canonical_text_nil_iff {query : Query} : query.canonicalText = [] ↔ query.isEmpty = true := by
  constructor
  · intro written
    rw [← parse_canonical_text query, written]
    rfl
  · intro nothing
    rw [canonicalText, List.isEmpty_iff.mp nothing]
    rfl

/-- The text that is hashed for some parameters spells them out: it reads back as the same parameters,
so that other parameters have another one and only the lack of any parameter has none. Two query strings
give the same parameters just when they have the same values for each name, in the same order. -/
theorem parameters_spelled_out :
    (∀ query : Query, query.digest = (Sha256.hex (Text.octets query.canonicalText)).take 16 ∧
      parse (String.ofList query.canonicalText) = query) ∧
    (∀ left right : Query,
      Text.octets left.canonicalText = Text.octets right.canonicalText ↔ left = right) ∧
    (∀ query : Query, Text.octets query.canonicalText = [] ↔ query.isEmpty = true) ∧
    ∀ left right : String, parse left = parse right ↔
      ∀ name, valuesOf name (Text.formPairs left) = valuesOf name (Text.formPairs right) := by
  refine ⟨fun query => ⟨rfl, parse_canonical_text query⟩,
    fun left right => ⟨fun same => ?_, fun same => by rw [same]⟩,
    fun query => ?_, fun left right => parse_eq_iff⟩
  · exact canonical_text_injective (Text.octets_injective same)
  · rw [← canonical_text_nil_iff, ← Text.octets_nil]
    exact ⟨Text.octets_injective, fun nothing => by rw [nothing]⟩

end Texts

end WeblogFront.Query
