import WeblogFront.Text.Utf8
import Mathlib.Tactic.SplitIfs

/-! The octets of a text are read back. A character is recovered from the head of any octet list that
starts with its octets, whatever follows, so the octets of a text determine the text. -/
namespace WeblogFront.Text

@[simp] theorem octets_nil : octets [] = [] := rfl

@[simp] theorem octets_cons (c : Char) (text : List Char) :
    octets (c :: text) = charOctets c ++ octets text := by
  simp [octets]

@[simp] theorem octets_append (left right : List Char) :
    octets (left ++ right) = octets left ++ octets right := by
  simp [octets]

theorem char_octets_ascii {c : Char} (ascii : c.toNat < 0x80) :
    charOctets c = [UInt8.ofNat c.toNat] := by
  simp [charOctets, ascii]

theorem octet_value {value : Nat} (small : value < 0x100) : (UInt8.ofNat value).toNat = value :=
  UInt8.toNat_ofNat_of_lt' small

theorem length_le_octets (text : List Char) : text.length ≤ (octets text).length := by
  induction text with
  | nil => exact Nat.le_refl 0
  | cons c rest ih =>
    have written : 1 ≤ (charOctets c).length := by
      unfold charOctets
      dsimp only
      split_ifs <;> simp
    rw [octets_cons, List.length_append, List.length_cons]
    omega

theorem octet_length_ascii {text : List Char} (ascii : ∀ c ∈ text, c.toNat < 0x80) :
    octetLength text = text.length := by
  induction text with
  | nil => rfl
  | cons c rest ih =>
    obtain ⟨head, tail⟩ := List.forall_mem_cons.mp ascii
    have others := ih tail
    rw [octetLength] at others ⊢
    rw [octets_cons, char_octets_ascii head, List.length_append, others, List.length_singleton,
      List.length_cons, Nat.add_comm]

/-! A lead octet announces how many octets its character has. The bounds below are those of the leads
that occur in a text; the second octet is the one that keeps surrogates and overlong forms out. -/
section Widths

theorem width_one {lead : Nat} (high : lead < 0x80) : width lead = 1 := by
  simp [width, high]

theorem width_two {lead : Nat} (low : 0xC2 ≤ lead) (high : lead < 0xE0) : width lead = 2 := by
  unfold width
  split_ifs <;> omega

theorem width_three {lead : Nat} (low : 0xE0 ≤ lead) (high : lead < 0xF0) : width lead = 3 := by
  unfold width
  split_ifs <;> omega

theorem width_four {lead : Nat} (low : 0xF0 ≤ lead) (high : lead < 0xF5) : width lead = 4 := by
  unfold width
  split_ifs <;> omega

theorem tail_octet (value : Nat) : isTail (0x80 + value % 0x40) = true := by
  have small := Nat.mod_lt value (by decide : 0x40 > 0)
  simp only [isTail, Bool.and_eq_true, decide_eq_true_eq]
  omega

theorem scalar_two {c : Char} (low : 0x80 ≤ c.toNat) (high : c.toNat < 0x800) (rest : List UInt8) :
    scalar? (UInt8.ofNat (0xC0 + c.toNat / 0x40) :: UInt8.ofNat (0x80 + c.toNat % 0x40) :: rest) =
      some (c, rest) := by
  have lead := octet_value (show 0xC0 + c.toNat / 0x40 < 0x100 by omega)
  have second := octet_value (show 0x80 + c.toNat % 0x40 < 0x100 by omega)
  have wide : width (0xC0 + c.toNat / 0x40) = 2 := width_two (by omega) (by omega)
  have agrees : isSecond (0xC0 + c.toNat / 0x40) (0x80 + c.toNat % 0x40) = true := by
    unfold isSecond isTail
    split_ifs <;> simp <;> omega
  have whole : (0xC0 + c.toNat / 0x40 - 0xC0) * 0x40 + (0x80 + c.toNat % 0x40 - 0x80) = c.toNat := by
    omega
  simp only [scalar?, lead, second, wide, agrees, whole, Char.ofNat_toNat, if_true]

theorem scalar_three {c : Char} (low : 0x800 ≤ c.toNat) (high : c.toNat < 0x10000)
    (rest : List UInt8) :
    scalar? (UInt8.ofNat (0xE0 + c.toNat / 0x1000) :: UInt8.ofNat (0x80 + c.toNat / 0x40 % 0x40) ::
      UInt8.ofNat (0x80 + c.toNat % 0x40) :: rest) = some (c, rest) := by
  have valid : c.toNat < 0xD800 ∨ 0xDFFF < c.toNat ∧ c.toNat < 0x110000 := c.valid
  have lead := octet_value (show 0xE0 + c.toNat / 0x1000 < 0x100 by omega)
  have second := octet_value (show 0x80 + c.toNat / 0x40 % 0x40 < 0x100 by omega)
  have third := octet_value (show 0x80 + c.toNat % 0x40 < 0x100 by omega)
  have wide : width (0xE0 + c.toNat / 0x1000) = 3 := width_three (by omega) (by omega)
  have agrees : isSecond (0xE0 + c.toNat / 0x1000) (0x80 + c.toNat / 0x40 % 0x40) = true := by
    unfold isSecond isTail
    split_ifs <;> simp <;> omega
  have whole : (0xE0 + c.toNat / 0x1000 - 0xE0) * 0x1000 + (0x80 + c.toNat / 0x40 % 0x40 - 0x80) * 0x40
      + (0x80 + c.toNat % 0x40 - 0x80) = c.toNat := by
    omega
  simp only [scalar?, lead, second, third, wide, agrees, tail_octet, whole, Char.ofNat_toNat,
    Bool.and_true, if_true]

theorem scalar_four {c : Char} (low : 0x10000 ≤ c.toNat) (rest : List UInt8) :
    scalar? (UInt8.ofNat (0xF0 + c.toNat / 0x40000) ::
      UInt8.ofNat (0x80 + c.toNat / 0x1000 % 0x40) :: UInt8.ofNat (0x80 + c.toNat / 0x40 % 0x40) ::
      UInt8.ofNat (0x80 + c.toNat % 0x40) :: rest) = some (c, rest) := by
  have valid : c.toNat < 0xD800 ∨ 0xDFFF < c.toNat ∧ c.toNat < 0x110000 := c.valid
  have lead := octet_value (show 0xF0 + c.toNat / 0x40000 < 0x100 by omega)
  have second := octet_value (show 0x80 + c.toNat / 0x1000 % 0x40 < 0x100 by omega)
  have third := octet_value (show 0x80 + c.toNat / 0x40 % 0x40 < 0x100 by omega)
  have fourth := octet_value (show 0x80 + c.toNat % 0x40 < 0x100 by omega)
  have wide : width (0xF0 + c.toNat / 0x40000) = 4 := width_four (by omega) (by omega)
  have agrees : isSecond (0xF0 + c.toNat / 0x40000) (0x80 + c.toNat / 0x1000 % 0x40) = true := by
    unfold isSecond isTail
    split_ifs <;> simp <;> omega
  have whole : (0xF0 + c.toNat / 0x40000 - 0xF0) * 0x40000
      + (0x80 + c.toNat / 0x1000 % 0x40 - 0x80) * 0x1000 + (0x80 + c.toNat / 0x40 % 0x40 - 0x80) * 0x40
      + (0x80 + c.toNat % 0x40 - 0x80) = c.toNat := by
    omega
  simp only [scalar?, lead, second, third, fourth, wide, agrees, tail_octet, whole, Char.ofNat_toNat,
    Bool.and_true, if_true]

end Widths

-- The octets after a character are arbitrary: no text is assumed to follow.
theorem scalar_char_octets (c : Char) (rest : List UInt8) :
    scalar? (charOctets c ++ rest) = some (c, rest) := by
  unfold charOctets
  dsimp only
  split_ifs with one two three
  · have lead := octet_value (show c.toNat < 0x100 by omega)
    simp only [List.cons_append, List.nil_append, scalar?, lead, width_one one, Char.ofNat_toNat]
  · exact scalar_two (by omega) two rest
  · exact scalar_three (by omega) three rest
  · exact scalar_four (by omega) rest

theorem strict_of_scalar {input rest : List UInt8} {c : Char}
    (read : scalar? input = some (c, rest)) : strict? input = (strict? rest).map (c :: ·) := by
  cases input with
  | nil => simp [scalar?] at read
  | cons first others =>
    rw [strict?]
    split
    · next found => rw [read] at found; cases found; rfl
    · next failed => rw [read] at failed; cases failed

theorem strict_octets (text : List Char) : strict? (octets text) = some text := by
  induction text with
  | nil => simp [strict?]
  | cons c rest ih =>
    rw [octets_cons, strict_of_scalar (scalar_char_octets c (octets rest)), ih]
    rfl

theorem octets_injective {left right : List Char} (same : octets left = octets right) :
    left = right := by
  have read := congrArg strict? same
  rw [strict_octets, strict_octets] at read
  exact Option.some.inj read

end WeblogFront.Text
