import WeblogFront.Proofs.Text.Numeral
import WeblogFront.Text.Json
import Mathlib.Data.List.Basic

/-! A document can be read back from its compact text. Every value shows by its first character what it
is; a string runs to the first quote that is not escaped, a list or a record to its bracket, and a
number as far as its digits go, for a comma or a bracket follows. So no two documents have one text. -/
namespace WeblogFront.Json

section Strings

def readChar : List Char → Option (Char × List Char)
  | '\\' :: 'u' :: _ :: _ :: high :: low :: rest =>
    match Text.hexDigit? high, Text.hexDigit? low with
    | some h, some l => some (Char.ofNat (16 * h + l), rest)
    | _, _ => none
  | '\\' :: 'b' :: rest => some (Char.ofNat 0x08, rest)
  | '\\' :: 't' :: rest => some (Char.ofNat 0x09, rest)
  | '\\' :: 'n' :: rest => some (Char.ofNat 0x0A, rest)
  | '\\' :: 'f' :: rest => some (Char.ofNat 0x0C, rest)
  | '\\' :: 'r' :: rest => some (Char.ofNat 0x0D, rest)
  | '\\' :: c :: rest => some (c, rest)
  | c :: rest => some (c, rest)
  | [] => none

theorem control_digits : ∀ value < 0x20,
    Text.hexDigit? (Nat.digitChar (value / 16)) = some (value / 16) ∧
      Text.hexDigit? (Nat.digitChar (value % 16)) = some (value % 16) := by
  decide

theorem char_of_value {c : Char} {value : Nat} (same : c.toNat = value) : c = Char.ofNat value := by
  rw [← same, Char.ofNat_toNat]

-- The escapes are tried in the order in which they are written.
theorem read_char (c : Char) (rest : List Char) : readChar (escapeChar c ++ rest) = some (c, rest) := by
  unfold escapeChar
  split
  case isTrue quote => rw [quote]; rfl
  case isFalse =>
  split
  case isTrue solidus => rw [solidus]; rfl
  case isFalse solidus =>
  split
  case isTrue value => rw [char_of_value value]; rfl
  case isFalse =>
  split
  case isTrue value => rw [char_of_value value]; rfl
  case isFalse =>
  split
  case isTrue value => rw [char_of_value value]; rfl
  case isFalse =>
  split
  case isTrue value => rw [char_of_value value]; rfl
  case isFalse =>
  split
  case isTrue value => rw [char_of_value value]; rfl
  case isFalse =>
  split
  case isTrue control =>
    have digits := control_digits c.toNat control
    have whole : 16 * (c.toNat / 16) + c.toNat % 16 = c.toNat := Nat.div_add_mod c.toNat 16
    simp only [List.cons_append, List.nil_append, readChar, digits.1, digits.2, whole, Char.ofNat_toNat]
  case isFalse =>
    rw [List.singleton_append]
    unfold readChar
    split <;> simp_all

theorem escape_char_opens (c : Char) (rest : List Char) :
    ∃ first others, escapeChar c ++ rest = first :: others ∧ first ≠ '"' := by
  unfold escapeChar
  by_cases quote : c = '"'
  · rw [if_pos quote]
    exact ⟨'\\', _, rfl, by decide⟩
  · rw [if_neg quote]
    split_ifs <;> first | exact ⟨'\\', _, rfl, by decide⟩ | exact ⟨c, rest, rfl, quote⟩

theorem escaped_append_inj {left right leftRest rightRest : List Char}
    (same : left.flatMap escapeChar ++ '"' :: leftRest = right.flatMap escapeChar ++ '"' :: rightRest) :
    left = right ∧ leftRest = rightRest := by
  induction left generalizing right with
  | nil =>
    cases right with
    | nil => exact ⟨rfl, (List.cons.inj same).2⟩
    | cons d others =>
      rw [List.flatMap_cons, List.append_assoc] at same
      obtain ⟨first, _, opened, different⟩ :=
        escape_char_opens d (others.flatMap escapeChar ++ '"' :: rightRest)
      rw [opened] at same
      exact absurd (List.cons.inj same).1.symm different
  | cons c rest ih =>
    cases right with
    | nil =>
      rw [List.flatMap_cons, List.append_assoc] at same
      obtain ⟨first, _, opened, different⟩ :=
        escape_char_opens c (rest.flatMap escapeChar ++ '"' :: leftRest)
      rw [opened] at same
      exact absurd (List.cons.inj same).1 different
    | cons d others =>
      rw [List.flatMap_cons, List.flatMap_cons, List.append_assoc, List.append_assoc] at same
      have read := congrArg readChar same
      rw [read_char, read_char, Option.some.injEq, Prod.mk.injEq] at read
      obtain ⟨rfl, later⟩ := read
      obtain ⟨rfl, rests⟩ := ih later
      exact ⟨rfl, rests⟩

theorem quoted_append_inj {left right : String} {leftRest rightRest : List Char}
    (same : quoted left ++ leftRest = quoted right ++ rightRest) :
    left = right ∧ leftRest = rightRest := by
  simp only [quoted, List.cons_append, List.append_assoc, List.nil_append, List.cons.injEq,
    true_and] at same
  obtain ⟨texts, rests⟩ := escaped_append_inj same
  exact ⟨String.toList_inj.mp texts, rests⟩

end Strings

section Openings

inductive Kind where
  | null
  | flag
  | number
  | text
  | list
  | record
  deriving DecidableEq

def kind : Json → Kind
  | .null => .null
  | .flag _ => .flag
  | .number _ => .number
  | .text _ => .text
  | .list _ => .list
  | .record _ => .record

def kindAt (c : Char) : Kind :=
  if c = 'n' then .null
  else if c = 't' ∨ c = 'f' then .flag
  else if c = '"' then .text
  else if c = '[' then .list
  else if c = '{' then .record
  else .number

/-- No value opens with what may stand behind a value. -/
def isStop (c : Char) : Bool :=
  c = ',' || c = ']' || c = '}'

theorem digit_opening {c : Char} (digit : c.isDigit = true) :
    kindAt c = .number ∧ isStop c = false := by
  have different (named : Char) (plain : named.isDigit = false) : c ≠ named := by
    rintro rfl
    rw [plain] at digit
    cases digit
  constructor
  · unfold kindAt
    rw [if_neg (different 'n' rfl), if_neg (not_or.mpr ⟨different 't' rfl, different 'f' rfl⟩),
      if_neg (different '"' rfl), if_neg (different '[' rfl), if_neg (different '\x7b' rfl)]
  · simp [isStop, different ',' rfl, different ']' rfl, different '\x7d' rfl]

theorem opening (document : Json) :
    ∃ c rest, compactChars document = c :: rest ∧ kindAt c = document.kind ∧ isStop c = false := by
  cases document with
  | null => exact ⟨'n', _, rfl, by decide, by decide⟩
  | flag value => cases value <;> exact ⟨_, _, rfl, by decide, by decide⟩
  | number value =>
    cases digits : Text.decimal value with
    | nil => exact absurd digits (Text.decimal_nonempty value)
    | cons c rest =>
      have digit : c.isDigit = true := Text.decimal_digit (digits ▸ List.mem_cons_self)
      exact ⟨c, rest, by rw [compactChars, digits], digit_opening digit⟩
  | text value => exact ⟨'"', _, by rw [compactChars, quoted]; rfl, rfl, rfl⟩
  | list items => exact ⟨'[', _, by rw [compactChars]; rfl, rfl, rfl⟩
  | record members => exact ⟨'\x7b', _, by rw [compactChars]; rfl, rfl, rfl⟩

end Openings

section Lists

def Stops (rest : List Char) : Prop :=
  ∀ c ∈ rest.head?, isStop c = true

theorem stops_not_digit {rest : List Char} (stops : Stops rest) :
    ∀ c ∈ rest.head?, c.isDigit = false := by
  intro c first
  cases digit : c.isDigit with
  | false => rfl
  | true =>
    have never := (digit_opening digit).2
    rw [stops c first] at never
    cases never

/-- The one value of a list can be told from what follows it. -/
def Readable (write : α → List Char) (item : α) : Prop :=
  ∀ {other leftRest rightRest}, Stops leftRest → Stops rightRest →
    write item ++ leftRest = write other ++ rightRest → item = other ∧ leftRest = rightRest

def joined (write : α → List Char) : List α → List Char
  | [] => []
  | [item] => write item
  | item :: other :: rest => write item ++ ',' :: joined write (other :: rest)

def behind (write : α → List Char) : List α → List Char
  | [] => []
  | other :: rest => ',' :: joined write (other :: rest)

theorem joined_cons (write : α → List Char) (item : α) (rest : List α) :
    joined write (item :: rest) = write item ++ behind write rest := by
  cases rest with
  | nil => exact (List.append_nil (write item)).symm
  | cons other others => rfl

theorem behind_stops {write : α → List Char} {close : Char} (stop : isStop close = true)
    (items : List α) (rest : List Char) : Stops (behind write items ++ close :: rest) := by
  intro c first
  cases items with
  | nil =>
    cases first
    exact stop
  | cons other others =>
    cases first
    decide

theorem joined_append_inj {write : α → List Char} {close : Char} {left right : List α}
    {leftRest rightRest : List Char} (stop : isStop close = true) (comma : close ≠ ',')
    (opens : ∀ item, ∃ c rest, write item = c :: rest ∧ isStop c = false)
    (readable : ∀ item ∈ left, Readable write item)
    (same : joined write left ++ close :: leftRest = joined write right ++ close :: rightRest) :
    left = right ∧ leftRest = rightRest := by
  -- a list that is over shows its bracket, where the other one has the opening of an item
  have unlike {item : α} {others : List α} {rest otherRest : List Char} :
      close :: rest ≠ joined write (item :: others) ++ close :: otherRest := by
    intro same
    obtain ⟨c, _, opened, open_⟩ := opens item
    rw [joined_cons, opened] at same
    rw [← (List.cons.inj same).1, stop] at open_
    cases open_
  induction left generalizing right with
  | nil =>
    cases right with
    | nil => exact ⟨rfl, (List.cons.inj same).2⟩
    | cons other others => exact absurd same unlike
  | cons item rest ih =>
    cases right with
    | nil => exact absurd same.symm unlike
    | cons other others =>
      rw [joined_cons, joined_cons, List.append_assoc, List.append_assoc] at same
      obtain ⟨rfl, later⟩ := readable item List.mem_cons_self (behind_stops stop rest leftRest)
        (behind_stops stop others rightRest) same
      cases rest with
      | nil =>
        cases others with
        | nil => exact ⟨rfl, (List.cons.inj later).2⟩
        | cons next more => exact absurd (List.cons.inj later).1 comma
      | cons first tail =>
        cases others with
        | nil => exact absurd (List.cons.inj later).1.symm comma
        | cons next more =>
          obtain ⟨tails, rests⟩ := ih (fun item member => readable item (List.mem_cons_of_mem _ member))
            (List.cons.inj later).2
          exact ⟨by rw [tails], rests⟩

theorem compact_items (items : List Json) : compactItems items = joined compactChars items := by
  induction items with
  | nil => rfl
  | cons item rest ih =>
    cases rest with
    | nil => rw [compactItems, joined]
    | cons other others => rw [compactItems, joined, ih]

def writeMember (member : String × Json) : List Char :=
  quoted member.1 ++ ':' :: compactChars member.2

theorem compact_members (members : List (String × Json)) :
    compactMembers members = joined writeMember members := by
  induction members with
  | nil => rfl
  | cons member rest ih =>
    obtain ⟨name, value⟩ := member
    cases rest with
    | nil => rw [compactMembers, joined, writeMember]
    | cons other others => rw [compactMembers, joined, ih, writeMember, List.append_assoc, List.cons_append]

end Lists

section Documents

theorem same_kind {left right : Json} {leftRest rightRest : List Char}
    (same : compactChars left ++ leftRest = compactChars right ++ rightRest) :
    left.kind = right.kind := by
  obtain ⟨c, _, leftOpened, leftKind, _⟩ := opening left
  obtain ⟨d, _, rightOpened, rightKind, _⟩ := opening right
  rw [leftOpened, rightOpened] at same
  rw [← leftKind, ← rightKind, (List.cons.inj same).1]

theorem member_readable {member : String × Json} (readable : Readable compactChars member.2) :
    Readable writeMember member := by
  intro other leftRest rightRest leftStops rightStops same
  simp only [writeMember, List.append_assoc, List.cons_append] at same
  obtain ⟨names, values⟩ := quoted_append_inj same
  obtain ⟨value, rests⟩ := readable leftStops rightStops (List.cons.inj values).2
  exact ⟨Prod.ext names value, rests⟩

theorem member_opens (member : String × Json) :
    ∃ c rest, writeMember member = c :: rest ∧ isStop c = false :=
  ⟨'"', _, by rw [writeMember, quoted]; rfl, rfl⟩

theorem null_readable : Readable compactChars .null := by
  intro other leftRest rightRest _ _ same
  have kinds := same_kind same
  cases other <;> cases kinds
  exact ⟨rfl, List.append_cancel_left same⟩

theorem flag_readable (value : Bool) : Readable compactChars (.flag value) := by
  intro other leftRest rightRest _ _ same
  have kinds := same_kind same
  cases other with
  | flag second =>
    cases value <;> cases second <;> simp_all [compactChars, flagText]
  | _ => cases kinds

theorem number_readable (value : Nat) : Readable compactChars (.number value) := by
  intro other leftRest rightRest leftStops rightStops same
  have kinds := same_kind same
  cases other <;> cases kinds
  rw [compactChars, compactChars] at same
  obtain ⟨rfl, rests⟩ := Text.decimal_append_inj (stops_not_digit leftStops)
    (stops_not_digit rightStops) same
  exact ⟨rfl, rests⟩

theorem text_readable (value : String) : Readable compactChars (.text value) := by
  intro other leftRest rightRest _ _ same
  have kinds := same_kind same
  cases other <;> cases kinds
  rw [compactChars, compactChars] at same
  obtain ⟨rfl, rests⟩ := quoted_append_inj same
  exact ⟨rfl, rests⟩

theorem list_readable {items : List Json} (readable : ∀ item ∈ items, Readable compactChars item) :
    Readable compactChars (.list items) := by
  intro other leftRest rightRest _ _ same
  have kinds := same_kind same
  have opens (item : Json) : ∃ c rest, compactChars item = c :: rest ∧ isStop c = false := by
    obtain ⟨c, rest, opened, _, other⟩ := opening item
    exact ⟨c, rest, opened, other⟩
  cases other <;> cases kinds
  simp only [compactChars, compact_items, List.cons_append, List.append_assoc, List.nil_append,
    List.cons.injEq, true_and] at same
  obtain ⟨rfl, rests⟩ := joined_append_inj (by decide) (by decide) opens readable same
  exact ⟨rfl, rests⟩

theorem record_readable {members : List (String × Json)}
    (readable : ∀ member ∈ members, Readable compactChars member.2) :
    Readable compactChars (.record members) := by
  intro other leftRest rightRest _ _ same
  have kinds := same_kind same
  have each : ∀ member ∈ members, Readable writeMember member :=
    fun member present => member_readable (readable member present)
  cases other <;> cases kinds
  simp only [compactChars, compact_members, List.cons_append, List.append_assoc, List.nil_append,
    List.cons.injEq, true_and] at same
  obtain ⟨rfl, rests⟩ := joined_append_inj (by decide) (by decide) member_opens each same
  exact ⟨rfl, rests⟩

theorem member_value_smaller {member : String × Json} {members : List (String × Json)}
    (present : member ∈ members) : sizeOf member.2 < 1 + sizeOf members := by
  have smaller := List.sizeOf_lt_of_mem present
  obtain ⟨name, value⟩ := member
  simp only [Prod.mk.sizeOf_spec] at *
  omega

-- The recursion is that of the writer: into the items of a list and the values of a record.
theorem compact_readable : ∀ document : Json, Readable compactChars document
  | .null => null_readable
  | .flag value => flag_readable value
  | .number value => number_readable value
  | .text value => text_readable value
  | .list items => list_readable fun item _ => compact_readable item
  | .record members => record_readable fun member present =>
    have := member_value_smaller present
    compact_readable member.2
termination_by document => document

theorem compact_injective {left right : Json} (same : left.compact = right.compact) : left = right := by
  have stops : Stops [] := fun c first => nomatch first
  have texts := String.ofList_injective same
  exact (compact_readable left stops stops (congrArg (· ++ []) texts)).1

end Documents

end WeblogFront.Json
