import WeblogFront.Proofs.Text.Octets
import WeblogFront.Text.Percent

/-! Escaped text. Reading the escapes of an escaped text gives the octets of the text back, so escaping
loses nothing; and the escaped text consists of unreserved characters and `%` alone, so no separator
is left in it. -/
namespace WeblogFront.Text

@[simp] theorem segment_nil : segment [] = [] := rfl

@[simp] theorem segment_cons (c : Char) (text : List Char) :
    segment (c :: text) =
      (if isUnreserved c then [c] else (charOctets c).flatMap escapeOctet) ++ segment text := by
  simp [segment]

theorem unreserved_plain {c : Char} (unreserved : isUnreserved c = true) :
    c.toNat < 0x80 ∧ c.toNat ≠ 0x25 := by
  unfold isUnreserved Char.isAlphanum Char.isAlpha Char.isUpper Char.isLower Char.isDigit at unreserved
  simp [UInt32.le_iff_toNat_le, Char.ext_iff, ← UInt32.toNat_inj] at unreserved
  have value : c.val.toNat = c.toNat := rfl
  omega

theorem hex_digit_unreserved : ∀ value < 16, isUnreserved (hexDigit value) = true := by
  decide

theorem hex_digit_read :
    ∀ value < 16, hexValue? (UInt8.ofNat (hexDigit value).toNat) = some value := by
  decide

theorem octet_digits (octet : UInt8) : octet.toNat / 16 < 16 ∧ octet.toNat % 16 < 16 := by
  have small := UInt8.toNat_lt octet
  omega

theorem octets_escape_octet (octet : UInt8) :
    octets (escapeOctet octet) = [0x25, UInt8.ofNat (hexDigit (octet.toNat / 16)).toNat,
      UInt8.ofNat (hexDigit (octet.toNat % 16)).toNat] := by
  have digits := octet_digits octet
  have high := (unreserved_plain (hex_digit_unreserved _ digits.1)).1
  have low := (unreserved_plain (hex_digit_unreserved _ digits.2)).1
  simp [escapeOctet, char_octets_ascii high, char_octets_ascii low,
    char_octets_ascii (show '%'.toNat < 0x80 by decide)]

theorem unescape_plain {octet : UInt8} (plain : octet ≠ 0x25) (rest : List UInt8) :
    unescape (octet :: rest) = octet :: unescape rest := by
  match rest with
  | [] => simp [unescape]
  | [_] => simp [unescape]
  | _ :: _ :: _ => rw [unescape, if_neg plain]

theorem unescape_escape (octet : UInt8) (rest : List UInt8) :
    unescape (octets (escapeOctet octet) ++ rest) = octet :: unescape rest := by
  have digits := octet_digits octet
  have whole : octet.toNat / 16 * 16 + octet.toNat % 16 = octet.toNat := by omega
  rw [octets_escape_octet, List.cons_append, List.cons_append, List.cons_append, List.nil_append,
    unescape, if_pos rfl, hex_digit_read _ digits.1, hex_digit_read _ digits.2]
  simp only [whole, UInt8.ofNat_toNat]

theorem unescape_escapes (spelled rest : List UInt8) :
    unescape (octets (spelled.flatMap escapeOctet) ++ rest) = spelled ++ unescape rest := by
  induction spelled with
  | nil => rfl
  | cons octet others ih =>
    rw [List.flatMap_cons, octets_append, List.append_assoc, unescape_escape, ih, List.cons_append]

theorem unescape_segment_append (text : List Char) (rest : List UInt8) :
    unescape (octets (segment text) ++ rest) = octets text ++ unescape rest := by
  induction text with
  | nil => rfl
  | cons c others ih =>
    rw [segment_cons, octets_append, octets_cons, List.append_assoc, List.append_assoc, ← ih]
    by_cases unreserved : isUnreserved c = true
    · obtain ⟨ascii, notPercent⟩ := unreserved_plain unreserved
      have plain : UInt8.ofNat c.toNat ≠ 0x25 := by
        intro same
        have value := congrArg UInt8.toNat same
        rw [octet_value (by omega)] at value
        exact notPercent value
      rw [if_pos unreserved, octets_cons, octets_nil, List.append_nil, char_octets_ascii ascii]
      exact unescape_plain plain _
    · rw [if_neg unreserved]
      exact unescape_escapes (charOctets c) _

theorem unescape_segment (text : List Char) : unescape (octets (segment text)) = octets text := by
  simpa [unescape] using unescape_segment_append text []

theorem segment_injective {left right : List Char} (same : segment left = segment right) :
    left = right := by
  apply octets_injective
  rw [← unescape_segment left, ← unescape_segment right, same]

theorem segment_chars (text : List Char) : ∀ c ∈ segment text, isUnreserved c = true ∨ c = '%' := by
  intro c member
  obtain ⟨source, _, written⟩ := List.mem_flatMap.mp member
  split at written
  · next unreserved =>
    rw [List.mem_singleton.mp written]
    exact .inl unreserved
  · obtain ⟨octet, _, escaped⟩ := List.mem_flatMap.mp written
    have digits := octet_digits octet
    simp only [escapeOctet, List.mem_cons, List.not_mem_nil, or_false] at escaped
    rcases escaped with rfl | rfl | rfl
    · exact .inr rfl
    · exact .inl (hex_digit_unreserved _ digits.1)
    · exact .inl (hex_digit_unreserved _ digits.2)

theorem separator_not_in_segment {separator : Char} (reserved : isUnreserved separator = false)
    (notPercent : separator ≠ '%') (text : List Char) : separator ∉ segment text := by
  intro member
  rcases segment_chars text separator member with unreserved | percent
  · rw [reserved] at unreserved; cases unreserved
  · exact notPercent percent

end WeblogFront.Text
