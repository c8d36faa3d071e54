import WeblogFront.Proofs.Text.Octets

/-! Octets that are not the octets of a text. What can stand in a text is said without the reader, by the
octets that a character is written with; a maximal subpart is the longest beginning of a character
where none stands. The lossy reader comes to the one text in which every maximal subpart is a
replacement character and all else is read as it is written. -/
namespace WeblogFront.Text

def Begins (part : List UInt8) : Prop :=
  ∃ c, part <+: charOctets c

def Unreadable (input : List UInt8) : Prop :=
  ∀ c, ¬ charOctets c <+: input

/-- The longest head of an input that some character begins with, or one octet if there is none. -/
structure MaximalSubpart (input part : List UInt8) : Prop where
  nonempty : part ≠ []
  heads : part <+: input
  begins : Begins part ∨ part.length = 1
  longest : ∀ other, other <+: input → Begins other → other.length ≤ part.length

/-- A text that octets read as, with one replacement character for each maximal subpart. -/
inductive Reads : List UInt8 → List Char → Prop where
  | nothing : Reads [] []
  | char (c : Char) {rest : List UInt8} {text : List Char} (others : Reads rest text) :
      Reads (charOctets c ++ rest) (c :: text)
  | replaced {part rest : List UInt8} {text : List Char} (unreadable : Unreadable (part ++ rest))
      (maximal : MaximalSubpart (part ++ rest) part) (others : Reads rest text) :
      Reads (part ++ rest) ('\uFFFD' :: text)

/-! The octets of a character have a shape: the lead says how many there are, the second one depends on
the lead, the others are tails. -/
section Shapes

variable {first : UInt8} {tail input rest others : List UInt8} {c : Char}

structure Shaped (first : UInt8) (tail : List UInt8) : Prop where
  long : tail.length + 1 = width first.toNat
  second : ∀ octet ∈ tail.head?, isSecond first.toNat octet.toNat = true
  tails : ∀ octet ∈ tail.tail, isTail octet.toNat = true

theorem char_value {value : Nat} (valid : value.isValidChar) : (Char.ofNat value).toNat = value := by
  rw [Char.ofNat, dif_pos valid]
  rfl

theorem width_le_four (lead : Nat) : width lead ≤ 4 := by
  unfold width
  split_ifs <;> omega

theorem lead_cases (lead : Nat) :
    width lead = 0 ∨ width lead = 1 ∧ lead < 0x80 ∨ width lead = 2 ∧ 0xC2 ≤ lead ∧ lead < 0xE0 ∨
      width lead = 3 ∧ 0xE0 ≤ lead ∧ lead < 0xF0 ∨ width lead = 4 ∧ 0xF0 ≤ lead ∧ lead < 0xF5 := by
  unfold width
  split_ifs <;> simp <;> omega

theorem tail_bounds {octet : Nat} (tail : isTail octet = true) : 0x80 ≤ octet ∧ octet ≤ 0xBF := by
  simpa [isTail] using tail

theorem second_bounds {lead octet : Nat} (second : isSecond lead octet = true) :
    (0x80 ≤ octet ∧ octet ≤ 0xBF) ∧ (lead = 0xE0 → 0xA0 ≤ octet) ∧ (lead = 0xED → octet ≤ 0x9F) ∧
      (lead = 0xF0 → 0x90 ≤ octet) ∧ (lead = 0xF4 → octet ≤ 0x8F) := by
  unfold isSecond at second
  split_ifs at second
  case neg => exact ⟨tail_bounds second, by omega⟩
  all_goals
    simp only [Bool.and_eq_true, decide_eq_true_eq] at second
    omega

theorem written_octet {octet : UInt8} {value : Nat} (same : value = octet.toNat) :
    UInt8.ofNat value = octet := by
  rw [same, UInt8.ofNat_toNat]

/-! The character that is written with given octets is the one of their value; the bounds on the second
octet keep it clear of the surrogates and of what lies above the last character. -/

theorem char_of_one (lead : first.toNat < 0x80) : ∃ c, charOctets c = [first] := by
  have value := char_value (.inl (by omega) : first.toNat.isValidChar)
  refine ⟨Char.ofNat first.toNat, ?_⟩
  rw [char_octets_ascii (by omega), value, UInt8.ofNat_toNat]

theorem char_of_two {second : UInt8} (lead : 0xC2 ≤ first.toNat ∧ first.toNat < 0xE0)
    (allowed : isSecond first.toNat second.toNat = true) : ∃ c, charOctets c = [first, second] := by
  have next := (second_bounds allowed).1
  have value := char_value (.inl (by omega) :
    ((first.toNat - 0xC0) * 0x40 + (second.toNat - 0x80)).isValidChar)
  refine ⟨Char.ofNat ((first.toNat - 0xC0) * 0x40 + (second.toNat - 0x80)), ?_⟩
  rw [charOctets, value, if_neg (by omega), if_pos (by omega)]
  simp only [List.cons.injEq, and_true]
  exact ⟨written_octet (by omega), written_octet (by omega)⟩

theorem char_of_three {second third : UInt8} (lead : 0xE0 ≤ first.toNat ∧ first.toNat < 0xF0)
    (allowed : isSecond first.toNat second.toNat = true) (last : isTail third.toNat = true) :
    ∃ c, charOctets c = [first, second, third] := by
  have next := second_bounds allowed
  have last := tail_bounds last
  have value := char_value (by unfold Nat.isValidChar; omega :
    ((first.toNat - 0xE0) * 0x1000 + (second.toNat - 0x80) * 0x40 + (third.toNat - 0x80)).isValidChar)
  refine ⟨Char.ofNat ((first.toNat - 0xE0) * 0x1000 + (second.toNat - 0x80) * 0x40
    + (third.toNat - 0x80)), ?_⟩
  rw [charOctets, value, if_neg (by omega), if_neg (by omega), if_pos (by omega)]
  simp only [List.cons.injEq, and_true]
  exact ⟨written_octet (by omega), written_octet (by omega), written_octet (by omega)⟩

theorem char_of_four {second third fourth : UInt8} (lead : 0xF0 ≤ first.toNat ∧ first.toNat < 0xF5)
    (allowed : isSecond first.toNat second.toNat = true) (continued : isTail third.toNat = true)
    (last : isTail fourth.toNat = true) : ∃ c, charOctets c = [first, second, third, fourth] := by
  have next := second_bounds allowed
  have continued := tail_bounds continued
  have last := tail_bounds last
  have value := char_value (by unfold Nat.isValidChar; omega :
    ((first.toNat - 0xF0) * 0x40000 + (second.toNat - 0x80) * 0x1000 + (third.toNat - 0x80) * 0x40
      + (fourth.toNat - 0x80)).isValidChar)
  refine ⟨Char.ofNat ((first.toNat - 0xF0) * 0x40000 + (second.toNat - 0x80) * 0x1000
    + (third.toNat - 0x80) * 0x40 + (fourth.toNat - 0x80)), ?_⟩
  rw [charOctets, value, if_neg (by omega), if_neg (by omega), if_neg (by omega)]
  simp only [List.cons.injEq, and_true]
  exact ⟨written_octet (by omega), written_octet (by omega), written_octet (by omega),
    written_octet (by omega)⟩

theorem char_of_shaped (shaped : Shaped first tail) : ∃ c, charOctets c = first :: tail := by
  obtain ⟨long, second, tails⟩ := shaped
  have leads := lead_cases first.toNat
  match tail with
  | [] =>
    have one : width first.toNat = 1 := long.symm
    exact char_of_one (by omega)
  | [b] =>
    have two : width first.toNat = 2 := long.symm
    exact char_of_two (by omega) (second b rfl)
  | [b, c] =>
    have three : width first.toNat = 3 := long.symm
    exact char_of_three (by omega) (second b rfl) (tails c (by simp))
  | [b, c, d] =>
    have four : width first.toNat = 4 := long.symm
    exact char_of_four (by omega) (second b rfl) (tails c (by simp)) (tails d (by simp))
  | _ :: _ :: _ :: _ :: _ =>
    have wide := width_le_four first.toNat
    simp only [List.length_cons] at long
    omega

theorem shaped_of_scalar (read : scalar? (first :: rest) = some (c, others)) :
    ∃ tail, rest = tail ++ others ∧ Shaped first tail := by
  unfold scalar? at read
  dsimp only at read
  split at read
  case h_1 one =>
    cases read
    exact ⟨[], rfl, one.symm, by simp, by simp⟩
  case h_2 second rest two =>
    split at read
    case isTrue agrees =>
      obtain ⟨-, rfl⟩ := Prod.mk.inj (Option.some.inj read)
      exact ⟨[second], rfl, two.symm, by simpa using agrees, by simp⟩
    case isFalse => cases read
  case h_3 second third rest three =>
    split at read
    case isTrue agrees =>
      obtain ⟨-, rfl⟩ := Prod.mk.inj (Option.some.inj read)
      rw [Bool.and_eq_true] at agrees
      exact ⟨[second, third], rfl, three.symm, by simpa using agrees.1, by simpa using agrees.2⟩
    case isFalse => cases read
  case h_4 second third fourth rest four =>
    split at read
    case isTrue agrees =>
      obtain ⟨-, rfl⟩ := Prod.mk.inj (Option.some.inj read)
      rw [Bool.and_eq_true, Bool.and_eq_true] at agrees
      exact ⟨[second, third, fourth], rfl, four.symm, by simpa using agrees.1.1,
        by simpa using ⟨agrees.1.2, agrees.2⟩⟩
    case isFalse => cases read
  case h_5 => cases read

theorem shaped_of_char (written : charOctets c = first :: tail) : Shaped first tail := by
  have read := scalar_char_octets c []
  rw [List.append_nil, written] at read
  obtain ⟨_, same, shaped⟩ := shaped_of_scalar read
  rwa [same, List.append_nil]

theorem scalar_written (read : scalar? input = some (c, rest)) : input = charOctets c ++ rest := by
  cases input with
  | nil => simp [scalar?] at read
  | cons first others =>
    obtain ⟨tail, rfl, shaped⟩ := shaped_of_scalar read
    obtain ⟨other, written⟩ := char_of_shaped shaped
    have reread := scalar_char_octets other rest
    rw [written, List.cons_append, read] at reread
    cases reread
    rw [written, List.cons_append]

theorem scalar_none_iff : scalar? input = none ↔ Unreadable input := by
  constructor
  · rintro unread c ⟨rest, rfl⟩
    cases unread.symm.trans (scalar_char_octets c rest)
  · intro unreadable
    cases read : scalar? input with
    | none => rfl
    | some found => exact absurd ⟨found.2, (scalar_written read).symm⟩ (unreadable found.1)

end Shapes

section Subparts

variable {first : UInt8} {part input rest other : List UInt8} {text : List Char}

theorem begins_shape (begins : Begins (first :: part)) :
    part.length < width first.toNat ∧
      (∀ octet ∈ part.head?, isSecond first.toNat octet.toNat = true) ∧
      ∀ octet ∈ part.tail, isTail octet.toNat = true := by
  obtain ⟨c, behind, written⟩ := begins
  have shaped : Shaped first (part ++ behind) := shaped_of_char written.symm
  refine ⟨?_, fun octet head => shaped.second octet ?_, fun octet member => shaped.tails octet ?_⟩
  · have long := shaped.long
    rw [List.length_append] at long
    omega
  · cases part with
    | nil => cases head
    | cons second others => exact head
  · cases part with
    | nil => cases member
    | cons second others => exact List.mem_append_left behind member

theorem begins_of_shape {second : UInt8} {tails : List UInt8}
    (short : tails.length + 2 ≤ width first.toNat) (allowed : isSecond first.toNat second.toNat = true)
    (continued : ∀ octet ∈ tails, isTail octet.toNat = true) : Begins (first :: second :: tails) := by
  -- the octets that are missing can be any tails
  let missing : List UInt8 := List.replicate (width first.toNat - (tails.length + 2)) 0x80
  have shaped : Shaped first (second :: (tails ++ missing)) := by
    refine ⟨?_, by simpa using allowed, List.forall_mem_append.mpr ⟨continued, ?_⟩⟩
    · simp only [missing, List.length_cons, List.length_append, List.length_replicate]
      omega
    · intro octet member
      rw [List.eq_of_mem_replicate member]
      decide
  obtain ⟨c, written⟩ := char_of_shaped shaped
  exact ⟨c, missing, written.symm⟩

theorem unreadable_shape (part : List UInt8) (unreadable : Unreadable (first :: (part ++ rest))) :
    ¬ Shaped first part := by
  intro shaped
  obtain ⟨c, written⟩ := char_of_shaped shaped
  exact unreadable c ⟨rest, by rw [written, List.cons_append]⟩

/-- The reader goes on as long as what it has read is how a character begins. -/
theorem begins_agreeing (unreadable : Unreadable (first :: (part ++ rest)))
    (begins : Begins (first :: part)) :
    part.length ≤ agreeing first.toNat (part ++ rest) := by
  obtain ⟨short, allowed, tails⟩ := begins_shape begins
  have wide := width_le_four first.toNat
  cases part with
  | nil => exact Nat.zero_le _
  | cons second others =>
    have agrees : (1 < width first.toNat && isSecond first.toNat second.toNat) = true := by
      simp only [List.length_cons] at short
      simp only [allowed second rfl, Bool.and_true, decide_eq_true_eq]
      omega
    simp only [List.cons_append, agreeing, agrees, if_true]
    cases others with
    | nil =>
      split
      · split <;> simp
      · simp
    | cons third more =>
      -- a character of three octets would be there
      have four : width first.toNat = 4 := by
        have unshaped := unreadable_shape [second, third] unreadable
        have long : width first.toNat ≠ 3 := fun three => unshaped
          ⟨three.symm, allowed, List.forall_mem_singleton.mpr (tails third List.mem_cons_self)⟩
        simp only [List.length_cons] at short
        omega
      have third_tail := tails third List.mem_cons_self
      cases more with
      | nil => simp [four, third_tail]
      | cons fourth beyond =>
        -- and so would one of four
        have unshaped := unreadable_shape [second, third, fourth] unreadable
        have fourth_tail := tails fourth (List.mem_cons_of_mem third List.mem_cons_self)
        exact absurd ⟨four.symm, allowed, List.forall_mem_cons.mpr
          ⟨third_tail, List.forall_mem_singleton.mpr fourth_tail⟩⟩ unshaped

theorem agreeing_begins (first : UInt8) (rest : List UInt8) :
    Begins (first :: rest.take (agreeing first.toNat rest)) ∨
      (first :: rest.take (agreeing first.toNat rest)).length = 1 := by
  cases rest with
  | nil => exact .inr rfl
  | cons second others =>
    rw [agreeing.eq_def]
    dsimp only
    split
    case isFalse => exact .inr rfl
    case isTrue agrees =>
      rw [Bool.and_eq_true, decide_eq_true_eq] at agrees
      have pair : Begins [first, second] := begins_of_shape agrees.1 agrees.2 (List.forall_mem_nil _)
      cases others with
      | nil => exact .inl pair
      | cons third more =>
        dsimp only
        split
        case isFalse => exact .inl pair
        case isTrue four =>
          rw [Bool.and_eq_true, decide_eq_true_eq] at four
          refine .inl (begins_of_shape (?_ : 3 ≤ _) agrees.2 (List.forall_mem_singleton.mpr four.2))
          omega

theorem agreeing_maximal (unreadable : Unreadable (first :: rest)) :
    MaximalSubpart (first :: rest) (first :: rest.take (agreeing first.toNat rest)) where
  nonempty := List.cons_ne_nil _ _
  heads := List.cons_prefix_cons.mpr ⟨rfl, List.take_prefix _ _⟩
  begins := agreeing_begins first rest
  longest other heads begins := by
    cases other with
    | nil => exact Nat.zero_le _
    | cons lead part =>
      obtain ⟨rfl, behind, rfl⟩ := List.cons_prefix_cons.mp heads
      have agreed := begins_agreeing unreadable begins
      simp only [List.length_cons, List.length_take, List.length_append]
      omega

theorem MaximalSubpart.unique (maximal : MaximalSubpart input part) (also : MaximalSubpart input other) :
    part = other := by
  have bounded {part other : List UInt8} (maximal : MaximalSubpart input part)
      (also : MaximalSubpart input other) : part.length ≤ other.length := by
    rcases maximal.begins with begins | single
    · exact also.longest part maximal.heads begins
    · rw [single]
      exact List.length_pos_iff.mpr also.nonempty
  exact (List.prefix_of_prefix_length_le maximal.heads also.heads (bounded maximal also)).eq_of_length_le
    (bounded also maximal)

end Subparts

section Reading

variable {first : UInt8} {input rest : List UInt8} {text : List Char} {c : Char}

theorem lossy_of_scalar (read : scalar? input = some (c, rest)) : lossy input = c :: lossy rest := by
  cases input with
  | nil => simp [scalar?] at read
  | cons first others =>
    rw [lossy]
    split
    · next found => rw [read] at found; cases found; rfl
    · next failed => rw [read] at failed; cases failed

theorem lossy_of_unreadable (unread : scalar? (first :: rest) = none) :
    lossy (first :: rest) = '\uFFFD' :: lossy (rest.drop (agreeing first.toNat rest)) := by
  rw [lossy]
  split
  · next found => rw [unread] at found; cases found
  · rfl

theorem reads_lossy (input : List UInt8) : Reads input (lossy input) := by
  induction input using lossy.induct with
  | case1 =>
    rw [lossy]
    exact .nothing
  | case2 first rest c others read ih =>
    rw [lossy_of_scalar read, scalar_written read]
    exact .char c ih
  | case3 first rest unread ih =>
    rw [lossy_of_unreadable unread]
    have whole : first :: rest = (first :: rest.take (agreeing first.toNat rest)) ++
        rest.drop (agreeing first.toNat rest) := by
      rw [List.cons_append, List.take_append_drop]
    have unreadable := scalar_none_iff.mp unread
    have maximal := agreeing_maximal unreadable
    rw [whole] at unreadable ⊢
    refine .replaced unreadable ?_ ih
    rwa [← whole]

/-- The lossy reader is the only one that replaces maximal subparts and nothing else. -/
theorem reads_iff : Reads input text ↔ text = lossy input := by
  constructor
  · intro reads
    induction reads with
    | nothing => rw [lossy]
    | char c others ih => rw [lossy_of_scalar (scalar_char_octets c _), ih]
    | @replaced part rest text unreadable maximal others ih =>
      obtain ⟨first, more, rfl⟩ := List.exists_cons_of_ne_nil maximal.nonempty
      have same := maximal.unique (agreeing_maximal unreadable)
      have rested : (more ++ rest).drop (agreeing first.toNat (more ++ rest)) = rest := by
        have taken : more = (more ++ rest).take (agreeing first.toNat (more ++ rest)) :=
          (List.cons.inj same).2
        have whole := List.take_append_drop (agreeing first.toNat (more ++ rest)) (more ++ rest)
        rw [← taken] at whole
        exact List.append_cancel_left whole
      have unread : scalar? (first :: (more ++ rest)) = none := scalar_none_iff.mpr unreadable
      rw [List.cons_append, lossy_of_unreadable unread, rested, ih]
  · rintro rfl
    exact reads_lossy input

end Reading

end WeblogFront.Text
