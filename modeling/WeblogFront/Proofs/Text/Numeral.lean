import WeblogFront.Text.Numeral

/-! Decimal numerals: digits and nothing else, at least one, and enough to tell the number. -/
namespace WeblogFront.Text

theorem decimal_digit {number : Nat} {c : Char} (member : c ∈ decimal number) : c.isDigit = true :=
  Nat.isDigit_of_mem_toDigits (by decide) (by decide) member

theorem decimal_nonempty (number : Nat) : decimal number ≠ [] :=
  Nat.toDigits_ne_nil

theorem decimal_injective {left right : Nat} (same : decimal left = decimal right) : left = right := by
  have read := congrArg (Nat.ofDigitChars 10 · 0) same
  simpa [decimal] using read

theorem decimal_append_inj {left right : Nat} {leftRest rightRest : List Char}
    (leftEnds : ∀ c ∈ leftRest.head?, c.isDigit = false)
    (rightEnds : ∀ c ∈ rightRest.head?, c.isDigit = false)
    (same : decimal left ++ leftRest = decimal right ++ rightRest) :
    left = right ∧ leftRest = rightRest := by
  have digits {number : Nat} {rest : List Char} (ends : ∀ c ∈ rest.head?, c.isDigit = false) :
      (decimal number ++ rest).takeWhile Char.isDigit = decimal number := by
    rw [List.takeWhile_append_of_pos fun c member => decimal_digit member]
    cases rest with
    | nil => rw [List.takeWhile_nil, List.append_nil]
    | cons c others =>
      have stops : ¬ c.isDigit = true := by simpa using ends c rfl
      rw [List.takeWhile_cons_of_neg stops, List.append_nil]
  have numerals : decimal left = decimal right := by
    rw [← digits leftEnds, same, digits rightEnds]
  rw [numerals] at same
  exact ⟨decimal_injective numerals, List.append_cancel_left same⟩

end WeblogFront.Text
