import WeblogFront.Proofs.Text.Form
import WeblogFront.Proofs.Text.Replacement

/-! What a form text spells, and what is read from it. A text spells octets by escapes with digits of
either case, by `+` and by characters that stand for themselves; a `%` that begins no escape is one of
these. Every text spells exactly one list of octets and is read as these octets are, lossily: where
they are the octets of a text, the strict reader and the lossy one come to the same. -/
namespace WeblogFront.Text

def HexDigit (c : Char) (value : Nat) : Prop :=
  value < 16 ∧ (c = hexDigit value ∨ c = Nat.digitChar value)

/-- Octets as they are properly written: escaped, or raw where they are ASCII and mean nothing else. -/
inductive Spells : List Char → List UInt8 → Prop where
  | nothing : Spells [] []
  | escape {high low : Char} {h l : Nat} {rest : List Char} {octets : List UInt8}
      (upper : HexDigit high h) (lower : HexDigit low l) (others : Spells rest octets) :
      Spells ('%' :: high :: low :: rest) (UInt8.ofNat (h * 16 + l) :: octets)
  | raw {c : Char} {rest : List Char} {octets : List UInt8} (ascii : c.toNat < 0x80)
      (noPercent : c ≠ '%') (noPlus : c ≠ '+') (others : Spells rest octets) :
      Spells (c :: rest) (UInt8.ofNat c.toNat :: octets)
  | plus {rest : List Char} {octets : List UInt8} (others : Spells rest octets) :
      Spells ('+' :: rest) (0x20 :: octets)

def OpensEscape (text : List Char) : Prop :=
  ∃ high low h l rest, text = high :: low :: rest ∧ HexDigit high h ∧ HexDigit low l

/-- The octets that any text stands for: what is no escape and no `+` is kept. -/
inductive Means : List Char → List UInt8 → Prop where
  | nothing : Means [] []
  | escape {high low : Char} {h l : Nat} {rest : List Char} {octets : List UInt8}
      (upper : HexDigit high h) (lower : HexDigit low l) (others : Means rest octets) :
      Means ('%' :: high :: low :: rest) (UInt8.ofNat (h * 16 + l) :: octets)
  | plus {rest : List Char} {octets : List UInt8} (others : Means rest octets) :
      Means ('+' :: rest) (0x20 :: octets)
  | kept {c : Char} {rest : List Char} {octets : List UInt8} (noPlus : c ≠ '+')
      (stray : c = '%' → ¬ OpensEscape rest) (others : Means rest octets) :
      Means (c :: rest) (charOctets c ++ octets)

section Digits

variable {c : Char} {value : Nat}

theorem hex_digit_octet (digit : HexDigit c value) :
    (c ≠ '+' ∧ c ≠ ' ') ∧ c.toNat < 0x80 ∧ hexValue? (UInt8.ofNat c.toNat) = some value := by
  have digits : ∀ value < 16, [hexDigit value, Nat.digitChar value].all fun c =>
      (c ≠ '+' ∧ c ≠ ' ') ∧ c.toNat < 0x80 ∧ hexValue? (UInt8.ofNat c.toNat) = some value := by
    decide
  obtain ⟨small, written⟩ := digit
  have spelled := List.all_eq_true.mp (digits value small) c (by simpa using written)
  exact of_decide_eq_true spelled

theorem digit_of_hex_value {octet : UInt8} (read : hexValue? octet = some value) :
    ∃ c, HexDigit c value ∧ c.toNat = octet.toNat := by
  have digits : ∀ octet < 0x100, ∀ value ∈ hexValue? (UInt8.ofNat octet),
      value < 16 ∧ ((hexDigit value).toNat = octet ∨ (Nat.digitChar value).toNat = octet) := by
    decide +kernel
  have same : UInt8.ofNat octet.toNat = octet := UInt8.ofNat_toNat
  obtain ⟨small, upper | lower⟩ := digits octet.toNat octet.toNat_lt value (by rw [same]; exact read)
  · exact ⟨hexDigit value, ⟨small, .inl rfl⟩, upper⟩
  · exact ⟨Nat.digitChar value, ⟨small, .inr rfl⟩, lower⟩

end Digits

section Spelled

variable {c : Char} {text rest : List Char} {octets : List UInt8}

theorem spelled_nil : spelled [] = [] := by
  simp [spelled, exchange, unescape]

theorem exchange_cons (old new c : Char) (rest : List Char) :
    exchange old new (c :: rest) = (if c = old then new else c) :: exchange old new rest := rfl

theorem spelled_escape {high low : Char} {h l : Nat} (upper : HexDigit high h) (lower : HexDigit low l)
    (rest : List Char) :
    spelled ('%' :: high :: low :: rest) = UInt8.ofNat (h * 16 + l) :: spelled rest := by
  obtain ⟨⟨highSign, _⟩, highAscii, highValue⟩ := hex_digit_octet upper
  obtain ⟨⟨lowSign, _⟩, lowAscii, lowValue⟩ := hex_digit_octet lower
  unfold spelled
  rw [exchange_cons, exchange_cons, exchange_cons, if_neg (by decide), if_neg highSign, if_neg lowSign,
    octets_cons, octets_cons, octets_cons, char_octets_ascii (by decide), char_octets_ascii highAscii,
    char_octets_ascii lowAscii]
  simp only [List.cons_append, List.nil_append]
  rw [unescape, if_pos (by decide), highValue, lowValue]

theorem unescape_unmarked {front : List UInt8} (unmarked : (0x25 : UInt8) ∉ front) (rest : List UInt8) :
    unescape (front ++ rest) = front ++ unescape rest := by
  induction front with
  | nil => rfl
  | cons octet others ih =>
    obtain ⟨head, tail⟩ := not_or.mp (mt List.mem_cons.mpr unmarked)
    rw [List.cons_append, unescape_plain (Ne.symm head), ih tail, List.cons_append]

theorem unescape_stray {rest : List UInt8}
    (stray : ∀ high low others, rest = high :: low :: others →
      hexValue? high = none ∨ hexValue? low = none) : unescape (0x25 :: rest) = 0x25 :: unescape rest := by
  match rest with
  | [] => simp [unescape]
  | [_] => simp [unescape]
  | high :: low :: others =>
    rw [unescape, if_pos rfl]
    rcases stray high low others rfl with unread | unread
    · rw [unread]
    · rw [unread]
      split
      · next found => cases found
      · rfl

theorem char_octets_nonempty (c : Char) : charOctets c ≠ [] := by
  unfold charOctets
  dsimp only
  split_ifs <;> exact List.cons_ne_nil _ _

-- Octets beyond ASCII are neither marks nor digits, so an octet of ASCII is a character of its own.
theorem char_octets_cases (c : Char) :
    c.toNat < 0x80 ∧ charOctets c = [UInt8.ofNat c.toNat] ∨
      ∀ octet ∈ charOctets c, 0x80 ≤ octet.toNat := by
  by_cases ascii : c.toNat < 0x80
  · exact .inl ⟨ascii, char_octets_ascii ascii⟩
  · right
    have valid : c.toNat < 0xD800 ∨ 0xDFFF < c.toNat ∧ c.toNat < 0x110000 := c.valid
    intro octet member
    unfold charOctets at member
    dsimp only at member
    split_ifs at member <;>
      simp only [List.mem_cons, List.not_mem_nil, or_false] at member <;>
      rcases member with rfl | rfl | rfl | rfl <;>
      rw [octet_value (by omega)] <;> omega

theorem percent_unmarked (noPercent : c ≠ '%') : (0x25 : UInt8) ∉ charOctets c := by
  intro member
  rcases char_octets_cases c with ⟨ascii, single⟩ | beyond
  · rw [single, List.mem_singleton] at member
    have value := congrArg UInt8.toNat member
    rw [octet_value (by omega)] at value
    refine noPercent ?_
    rw [← Char.ofNat_toNat c, ← value]
    rfl
  · exact absurd (beyond 0x25 member) (by decide)

/-- Where the octets of a text go on with a digit, the text goes on with that digit. -/
theorem digit_at_head {octet : UInt8} {others : List UInt8} {value : Nat}
    (written : Text.octets text = octet :: others) (read : hexValue? octet = some value) :
    ∃ c rest, text = c :: rest ∧ HexDigit c value ∧ Text.octets rest = others := by
  obtain ⟨digit, hexadecimal, same⟩ := digit_of_hex_value read
  have ascii := (hex_digit_octet hexadecimal).2.1
  cases text with
  | nil => cases written
  | cons c rest =>
    rw [octets_cons] at written
    rcases char_octets_cases c with ⟨small, single⟩ | beyond
    · rw [single, List.singleton_append] at written
      obtain ⟨rfl, rfl⟩ := List.cons.inj written
      rw [octet_value (by omega)] at same
      have equal : digit = c := by rw [← Char.ofNat_toNat digit, same, Char.ofNat_toNat]
      exact ⟨c, rest, rfl, equal ▸ hexadecimal, rfl⟩
    · obtain ⟨first, tail, opened⟩ := List.exists_cons_of_ne_nil (char_octets_nonempty c)
      rw [opened, List.cons_append] at written
      have high := beyond octet (by rw [opened, (List.cons.inj written).1]; exact List.mem_cons_self)
      omega

theorem digit_exchanged {value : Nat} (digit : HexDigit c value)
    (exchanged : exchange '+' ' ' text = c :: rest) :
    ∃ others, text = c :: others ∧ exchange '+' ' ' others = rest := by
  cases text with
  | nil => cases exchanged
  | cons first others =>
    rw [exchange_cons] at exchanged
    obtain ⟨same, rfl⟩ := List.cons.inj exchanged
    split at same
    · exact absurd same.symm (hex_digit_octet digit).1.2
    · exact ⟨others, by rw [same], rfl⟩

theorem spelled_stray (stray : ¬ OpensEscape rest) : spelled ('%' :: rest) = 0x25 :: spelled rest := by
  unfold spelled
  rw [exchange_cons, if_neg (by decide), octets_cons, char_octets_ascii (by decide), List.singleton_append]
  refine unescape_stray fun high low others written => ?_
  -- two digits among the octets would be two digits of the text
  cases readHigh : hexValue? high with
  | none => exact .inl rfl
  | some h =>
    cases readLow : hexValue? low with
    | none => exact .inr rfl
    | some l =>
      obtain ⟨first, behind, opened, upper, tail⟩ := digit_at_head written readHigh
      obtain ⟨second, _, more, lower, _⟩ := digit_at_head tail readLow
      obtain ⟨next, rfl, exchanged⟩ := digit_exchanged upper opened
      obtain ⟨last, rfl, _⟩ := digit_exchanged lower (exchanged.trans more)
      exact absurd ⟨first, second, h, l, last, rfl, upper, lower⟩ stray

theorem spelled_kept (noPlus : c ≠ '+') (stray : c = '%' → ¬ OpensEscape rest) :
    spelled (c :: rest) = charOctets c ++ spelled rest := by
  by_cases percent : c = '%'
  · rw [percent, spelled_stray (stray percent), char_octets_ascii (by decide)]
    rfl
  · unfold spelled
    rw [exchange_cons, if_neg noPlus, octets_cons, unescape_unmarked (percent_unmarked percent)]

theorem means_spelled (text : List Char) : Means text (spelled text) := by
  match text with
  | [] =>
    rw [spelled_nil]
    exact .nothing
  | c :: rest =>
    by_cases plus : c = '+'
    · rw [plus, spelled_plus]
      exact .plus (means_spelled rest)
    · by_cases escape : c = '%' ∧ OpensEscape rest
      · obtain ⟨rfl, high, low, h, l, behind, rfl, upper, lower⟩ := escape
        rw [spelled_escape upper lower]
        exact .escape upper lower (means_spelled behind)
      · have stray : c = '%' → ¬ OpensEscape rest := fun percent opens => escape ⟨percent, opens⟩
        rw [spelled_kept plus stray]
        exact .kept plus stray (means_spelled rest)
termination_by text.length

theorem means_iff : Means text octets ↔ octets = spelled text := by
  constructor
  · intro means
    induction means with
    | nothing => rw [spelled_nil]
    | escape upper lower others ih => rw [spelled_escape upper lower, ih]
    | plus others ih =>
      rw [spelled_plus, ih]
      rfl
    | kept noPlus stray others ih => rw [spelled_kept noPlus stray, ih]
  · rintro rfl
    exact means_spelled text

theorem Spells.means (spells : Spells text octets) : Means text octets := by
  induction spells with
  | nothing => exact .nothing
  | escape upper lower others ih => exact .escape upper lower ih
  | @raw c rest octets ascii noPercent noPlus others ih =>
    have kept : Means (c :: rest) (charOctets c ++ octets) :=
      .kept noPlus (fun percent => absurd percent noPercent) ih
    rwa [char_octets_ascii ascii] at kept
  | plus others ih => exact .plus ih

end Spelled

/-! Octets are read strictly where they are a text, and lossily otherwise; the lossy reading would do for
both. -/
section Reading

variable {input : List UInt8} {text : List Char}

theorem strict_eq_some_iff : strict? input = some text ↔ octets text = input := by
  constructor
  · intro read
    induction input using strict?.induct generalizing text with
    | case1 =>
      rw [strict?] at read
      cases read
      rfl
    | case2 first rest c others found ih =>
      rw [strict_of_scalar found] at read
      obtain ⟨tail, readTail, rfl⟩ := Option.map_eq_some_iff.mp read
      rw [octets_cons, ih readTail, scalar_written found]
    | case3 first rest failed =>
      rw [strict?] at read
      split at read
      · next found => rw [failed] at found; cases found
      · cases read
  · rintro rfl
    exact strict_octets text

theorem lossy_octets (text : List Char) : lossy (octets text) = text := by
  induction text with
  | nil => rw [octets_nil, lossy]
  | cons c rest ih => rw [octets_cons, lossy_of_scalar (scalar_char_octets c (octets rest)), ih]

theorem lossy_of_strict (read : strict? input = some text) : lossy input = text := by
  rw [← strict_eq_some_iff.mp read, lossy_octets]

theorem read_form_lossy (text : List Char) : readForm text = lossy (spelled text) := by
  unfold readForm
  split
  · next exact read => exact (lossy_of_strict read).symm
  · rfl

theorem reads_decoded (text : String) (read : List Char) :
    Reads (spelled text.toList) read ↔ decode text = String.ofList read := by
  rw [reads_iff, decode, read_form_lossy, String.ofList_inj, eq_comm]

/-- A proper spelling of octets decodes to the text that they are, or to the text that is left of them when
every maximal subpart is replaced; and any other text decodes in the same way, by either branch of the
reader, with the `%` in it that begins no escape. -/
theorem decode_reads_spelled :
    (∀ (text : String) (octets : List UInt8), Spells text.toList octets →
      (∀ valid : String, Text.octets valid.toList = octets → decode text = valid) ∧
      ∀ read, Reads octets read ↔ decode text = String.ofList read) ∧
    ∀ text : String,
      (∀ octets, Means text.toList octets ↔ octets = spelled text.toList) ∧
      (∀ exact, strict? (spelled text.toList) = some exact ↔ octets exact = spelled text.toList) ∧
      (∀ exact, strict? (spelled text.toList) = some exact →
        lossy (spelled text.toList) = exact ∧ decode text = String.ofList exact) ∧
      ∀ read, Reads (spelled text.toList) read ↔ decode text = String.ofList read := by
  constructor
  · intro text octets spells
    cases means_iff.mp spells.means
    refine ⟨fun valid written => ?_, reads_decoded text⟩
    rw [decode, read_form_of_octets written.symm, String.ofList_toList]
  · intro text
    refine ⟨fun octets => means_iff, fun exact => strict_eq_some_iff, fun exact read => ?_,
      reads_decoded text⟩
    refine ⟨lossy_of_strict read, ?_⟩
    rw [decode, read_form_lossy, lossy_of_strict read]

-- Digits of both cases and a space; then an octet that begins nothing, and a character that is cut off.
theorem cut_off_character_replaced :
    let whole := "caf%C3%a9+ok"
    let broken := "caf%C3%a9+%ff%e2%82"
    let octets : List UInt8 := [0x63, 0x61, 0x66, 0xC3, 0xA9, 0x20]
    Spells whole.toList (octets ++ [0x6F, 0x6B]) ∧ decode whole = "café ok" ∧
    Spells broken.toList (octets ++ [0xFF, 0xE2, 0x82]) ∧
    Reads (octets ++ [0xFF, 0xE2, 0x82]) ("café ".toList ++ ['\uFFFD', '\uFFFD']) := by
  intro whole broken octets
  have digit {c : Char} {value : Nat} (small : value < 16)
      (written : c = hexDigit value ∨ c = Nat.digitChar value) : HexDigit c value := ⟨small, written⟩
  have front {rest : List Char} {behind : List UInt8} (others : Spells rest behind) :
      Spells ("caf%C3%a9+".toList ++ rest) (octets ++ behind) :=
    .raw (by decide) (by decide) (by decide) <| .raw (by decide) (by decide) (by decide) <|
      .raw (by decide) (by decide) (by decide) <|
      .escape (digit (by decide : 12 < 16) (by decide)) (digit (by decide : 3 < 16) (by decide)) <|
      .escape (digit (by decide : 10 < 16) (by decide)) (digit (by decide : 9 < 16) (by decide)) <|
      .plus others
  have word : Spells ['o', 'k'] [0x6F, 0x6B] :=
    .raw (by decide) (by decide) (by decide) <| .raw (by decide) (by decide) (by decide) .nothing
  have stub : Spells ['%', 'f', 'f', '%', 'e', '2', '%', '8', '2'] [0xFF, 0xE2, 0x82] :=
    .escape (digit (by decide : 15 < 16) (by decide)) (digit (by decide : 15 < 16) (by decide)) <|
      .escape (digit (by decide : 14 < 16) (by decide)) (digit (by decide : 2 < 16) (by decide)) <|
      .escape (digit (by decide : 8 < 16) (by decide)) (digit (by decide : 2 < 16) (by decide)) .nothing
  have ends : Spells whole.toList (octets ++ [0x6F, 0x6B]) := by
    have written : whole.toList = "caf%C3%a9+".toList ++ ['o', 'k'] := by decide
    rw [written]
    exact front word
  have breaks : Spells broken.toList (octets ++ [0xFF, 0xE2, 0x82]) := by
    have written : broken.toList =
        "caf%C3%a9+".toList ++ ['%', 'f', 'f', '%', 'e', '2', '%', '8', '2'] := by decide
    rw [written]
    exact front stub
  refine ⟨ends, (decode_reads_spelled.1 whole _ ends).1 "café ok" (by decide), breaks, ?_⟩
  exact ((decode_reads_spelled.1 broken _ breaks).2 _).mpr (by decide +kernel)

end Reading

end WeblogFront.Text
