import WeblogFront.Proofs.Text.Escape
import WeblogFront.Text.Form

/-! Form text that escaped texts were written into. An escaped text has no `+` of its own, so a `+` that
stands between two of them is a space, and each of them spells the octets of its own text. -/
namespace WeblogFront.Text

theorem exchange_clean {old new : Char} {text : List Char} (clean : old ∉ text) :
    exchange old new text = text := by
  have same : ∀ c ∈ text, (if c = old then new else c) = id c := by
    intro c member
    exact if_neg (ne_of_mem_of_not_mem member clean)
  rw [exchange, List.map_congr_left same, List.map_id]

theorem plus_not_in_segment (text : List Char) : '+' ∉ segment text :=
  separator_not_in_segment (by decide) (by decide) text

theorem spelled_segment_append (text rest : List Char) :
    spelled (segment text ++ rest) = octets text ++ spelled rest := by
  unfold spelled
  rw [exchange, List.map_append, ← exchange, ← exchange, exchange_clean (plus_not_in_segment text),
    octets_append, unescape_segment_append]

theorem spelled_segment (text : List Char) : spelled (segment text) = octets text := by
  have whole := spelled_segment_append text []
  have nothing : spelled [] = [] := by simp [spelled, exchange, unescape]
  rwa [List.append_nil, nothing, List.append_nil] at whole

theorem spelled_plus (rest : List Char) : spelled ('+' :: rest) = octets [' '] ++ spelled rest := by
  unfold spelled
  rw [exchange, List.map_cons, ← exchange, if_pos rfl, octets_cons]
  exact unescape_plain (by decide) _

theorem read_form_of_octets {form text : List Char} (spells : spelled form = octets text) :
    readForm form = text := by
  rw [readForm, spells, strict_octets]

/-- Decoding undoes escaping, for every text. -/
theorem decode_segment (text : String) : decode (String.ofList (segment text.toList)) = text := by
  rw [decode, String.toList_ofList, read_form_of_octets (spelled_segment text.toList), String.ofList_toList]

end WeblogFront.Text
