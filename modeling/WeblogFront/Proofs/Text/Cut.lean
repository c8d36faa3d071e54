import WeblogFront.Text.Cut
import Mathlib.Data.List.Basic
import Mathlib.Data.List.Induction
import Mathlib.Data.List.TakeWhile

/-! A separator that a text does not hold ends the text. Cutting at the first separator therefore reads
such a text back from whatever it was written into, and two of them that were written in front of
separators can be told apart. What a cut finds, and what is left when an end is dropped, is said by how
the text is written. -/
namespace WeblogFront.Text

theorem cut_clean {separator : Char} {text : List Char} (clean : separator ∉ text) :
    cutOnce separator text = (text, none) := by
  induction text with
  | nil => rfl
  | cons c rest ih =>
    obtain ⟨head, tail⟩ := not_or.mp (mt List.mem_cons.mpr clean)
    rw [cutOnce, if_neg (Ne.symm head), ih tail]

theorem cut_at {separator : Char} {left : List Char} (clean : separator ∉ left)
    (rest : List Char) : cutOnce separator (left ++ separator :: rest) = (left, some rest) := by
  induction left with
  | nil => simp [cutOnce]
  | cons c others ih =>
    obtain ⟨head, tail⟩ := not_or.mp (mt List.mem_cons.mpr clean)
    rw [List.cons_append, cutOnce, if_neg (Ne.symm head), ih tail]

theorem cut_left_clean (separator : Char) (text : List Char) :
    separator ∉ (cutOnce separator text).1 := by
  induction text with
  | nil => exact List.not_mem_nil
  | cons c rest ih =>
    unfold cutOnce
    split
    case isTrue => exact List.not_mem_nil
    case isFalse different =>
      intro member
      rcases List.mem_cons.mp member with same | later
      · exact different same.symm
      · exact ih later

def Ends (separator : Char) (text : List Char) : Prop :=
  text = [] ∨ ∃ rest, text = separator :: rest

theorem cut_before {separator : Char} {left rest : List Char} (clean : separator ∉ left)
    (ends : Ends separator rest) : (cutOnce separator (left ++ rest)).1 = left := by
  rcases ends with rfl | ⟨others, rfl⟩
  · rw [List.append_nil, cut_clean clean]
  · rw [cut_at clean]

theorem clean_append_inj {separator : Char} {left right leftRest rightRest : List Char}
    (leftClean : separator ∉ left) (rightClean : separator ∉ right)
    (leftEnds : Ends separator leftRest) (rightEnds : Ends separator rightRest)
    (same : left ++ leftRest = right ++ rightRest) : left = right ∧ leftRest = rightRest := by
  have equal : left = right := by
    rw [← cut_before leftClean leftEnds, same, cut_before rightClean rightEnds]
  subst equal
  exact ⟨rfl, List.append_cancel_left same⟩

theorem ends_of_append {separator : Char} {left right : List Char} (nonempty : left ≠ [])
    (ends : Ends separator (left ++ right)) : ∃ rest, left = separator :: rest := by
  cases left with
  | nil => exact absurd rfl nonempty
  | cons c others =>
    rcases ends with empty | ⟨rest, opened⟩
    · cases empty
    · exact ⟨others, by rw [(List.cons.inj opened).1]⟩

theorem infix_before_break {separator : Char} {mark text rest : List Char} (clean : separator ∉ mark)
    (ends : Ends separator rest) (shown : mark <:+: text ++ rest) : mark <:+: text ∨ mark <:+: rest := by
  rcases List.infix_append_iff.mp shown with before | after | ⟨left, right, rfl, suffixed, starts⟩
  · exact .inl before
  · exact .inr after
  · cases right with
    | nil =>
      rw [List.append_nil]
      exact .inl suffixed.isInfix
    | cons c others =>
      obtain ⟨tail, whole⟩ := starts
      obtain ⟨_, opened⟩ := ends_of_append (List.cons_ne_nil c others) (whole ▸ ends)
      refine absurd ?_ clean
      rw [opened]
      exact List.mem_append_right left List.mem_cons_self

/-- A mark that ends with a sign is not continued where the sign does not occur. -/
theorem infix_before_clean {sign : Char} {name label value : List Char} (clean : sign ∉ value)
    (shown : name ++ [sign] <:+: label ++ value) : name ++ [sign] <:+: label := by
  have signed : sign ∈ name ++ [sign] := List.mem_append_right name List.mem_cons_self
  rcases List.infix_append_iff.mp shown with before | after | ⟨left, right, whole, suffixed, starts⟩
  · exact before
  · exact absurd (after.mem signed) clean
  · cases right using List.reverseRecOn with
    | nil =>
      rw [whole, List.append_nil]
      exact suffixed.isInfix
    | append_singleton others last =>
      rw [← List.append_assoc] at whole
      obtain ⟨_, same⟩ := List.append_inj' whole rfl
      cases same
      exact absurd (starts.mem (List.mem_append_right others List.mem_cons_self)) clean

theorem pieces_clean {isSeparator : Char → Bool} {text : List Char}
    (clean : ∀ c ∈ text, isSeparator c = false) : pieces isSeparator text = [text] := by
  induction text with
  | nil => rfl
  | cons c rest ih =>
    have head := clean c List.mem_cons_self
    have tail := ih fun other member => clean other (List.mem_cons_of_mem c member)
    simp [pieces, head, tail]

theorem pieces_at {isSeparator : Char → Bool} {left : List Char} {separator : Char}
    (clean : ∀ c ∈ left, isSeparator c = false) (separates : isSeparator separator = true)
    (rest : List Char) :
    pieces isSeparator (left ++ separator :: rest) = left :: pieces isSeparator rest := by
  induction left with
  | nil => simp [pieces, separates]
  | cons c others ih =>
    have head := clean c List.mem_cons_self
    have tail := ih fun other member => clean other (List.mem_cons_of_mem c member)
    simp [pieces, head, tail]

def Opens (separator : Char) (segment : List Char) (behind : Option (List Char)) (text : List Char) :
    Prop :=
  separator ∉ segment ∧
    match behind with
    | none => text = segment
    | some rest => text = segment ++ separator :: rest

theorem cut_eq_iff {separator : Char} {text segment : List Char} {behind : Option (List Char)} :
    cutOnce separator text = (segment, behind) ↔ Opens separator segment behind text := by
  constructor
  · intro cut
    have clean : separator ∉ segment := by
      have first := cut_left_clean separator text
      rwa [cut] at first
    refine ⟨clean, ?_⟩
    induction text generalizing segment with
    | nil =>
      cases cut
      rfl
    | cons c rest ih =>
      unfold cutOnce at cut
      split at cut
      case isTrue same =>
        cases cut
        rw [same]
        rfl
      case isFalse different =>
        cases tail : cutOnce separator rest with
        | mk left right =>
          rw [tail] at cut
          cases cut
          have opened := ih tail fun member => clean (List.mem_cons_of_mem c member)
          cases right <;> exact congrArg (List.cons c) opened
  · rintro ⟨clean, written⟩
    cases behind with
    | none =>
      subst written
      exact cut_clean clean
    | some rest =>
      subst written
      exact cut_at clean rest

theorem pieces_ne_nil (isSeparator : Char → Bool) (text : List Char) :
    pieces isSeparator text ≠ [] := by
  cases text with
  | nil => exact List.cons_ne_nil _ _
  | cons c rest =>
    unfold pieces
    split
    · exact List.cons_ne_nil _ _
    · split <;> exact List.cons_ne_nil _ _

-- The runs of a text are what stands before its first separator, and the runs of the rest.
theorem pieces_opens {separator : Char} {segment text : List Char} {behind : Option (List Char)}
    (opens : Opens separator segment behind text) :
    pieces (· == separator) text =
      segment :: (behind.map (pieces (· == separator))).getD [] := by
  obtain ⟨clean, written⟩ := opens
  have unseparated : ∀ c ∈ segment, (c == separator) = false :=
    fun c member => beq_false_of_ne (ne_of_mem_of_not_mem member clean)
  cases behind with
  | none =>
    subst written
    exact pieces_clean unseparated
  | some rest =>
    subst written
    exact pieces_at unseparated (beq_self_eq_true separator) rest

theorem pieces_between {isSeparator : Char → Bool} {separator : Char}
    (separates : isSeparator separator = true) (left right : List Char) :
    pieces isSeparator (left ++ separator :: right) =
      pieces isSeparator left ++ pieces isSeparator right := by
  induction left with
  | nil => simp [pieces, separates]
  | cons c rest ih =>
    obtain ⟨first, others, parted⟩ := List.exists_cons_of_ne_nil (pieces_ne_nil isSeparator rest)
    rw [parted] at ih
    by_cases stops : isSeparator c = true
    · simp [pieces, stops, ih, parted]
    · simp [pieces, stops, ih, parted]

theorem drop_lead_eq_iff {c : Char} {text rest : List Char} :
    dropLead c text = rest ↔
      ∃ lead, text = lead ++ rest ∧ (lead = [c] ∨ lead = [] ∧ ¬ [c] <+: text) := by
  cases text with
  | nil => simp [dropLead, eq_comm]
  | cons head tail =>
    rw [dropLead]
    split
    case isTrue same =>
      subst same
      constructor
      · rintro rfl
        exact ⟨[head], rfl, .inl rfl⟩
      · rintro ⟨lead, whole, rfl | ⟨rfl, unled⟩⟩
        · exact (List.cons.inj whole).2
        · exact absurd ⟨tail, rfl⟩ unled
    case isFalse different =>
      constructor
      · rintro rfl
        refine ⟨[], rfl, .inr ⟨rfl, ?_⟩⟩
        rintro ⟨others, whole⟩
        exact different (List.cons.inj whole).1.symm
      · rintro ⟨lead, whole, rfl | ⟨rfl, _⟩⟩
        · exact absurd (List.cons.inj whole).1 different
        · exact whole

theorem drop_trail_eq_iff {c : Char} {text rest : List Char} :
    dropTrail c text = rest ↔
      ∃ trail, text = rest ++ trail ∧ (trail = [c] ∨ trail = [] ∧ ¬ [c] <:+ text) := by
  unfold dropTrail
  rw [List.reverse_eq_iff, drop_lead_eq_iff]
  have turned : [c] <+: text.reverse ↔ [c] <:+ text := by
    rw [← List.reverse_prefix]
    rfl
  constructor
  · rintro ⟨lead, whole, ends⟩
    refine ⟨lead.reverse, ?_, ?_⟩
    · rw [← List.reverse_reverse text, whole, List.reverse_append, List.reverse_reverse]
    · rcases ends with rfl | ⟨rfl, untrailed⟩
      · exact .inl rfl
      · exact .inr ⟨rfl, turned.not.mp untrailed⟩
  · rintro ⟨trail, rfl, ends⟩
    refine ⟨trail.reverse, List.reverse_append, ?_⟩
    rcases ends with rfl | ⟨rfl, untrailed⟩
    · exact .inl rfl
    · exact .inr ⟨rfl, turned.not.mpr untrailed⟩

theorem filter_drop_while (drops : Char → Bool) (text : List Char) :
    (text.dropWhile drops).filter (fun c => !drops c) = text.filter fun c => !drops c := by
  induction text with
  | nil => rfl
  | cons c rest ih =>
    by_cases dropped : drops c = true
    · simpa [dropped] using ih
    · simp [dropped]

-- What is trimmed is dropped by the test, and so nothing else is lost.
theorem trim_ends_keeps (drops : Char → Bool) (text : List Char) :
    (trimEnds drops text).filter (fun c => !drops c) = text.filter fun c => !drops c := by
  rw [trimEnds, List.filter_reverse, filter_drop_while, List.filter_reverse, List.reverse_reverse,
    filter_drop_while]

/-- The inner part of a text: what stands around it is dropped by the test, and its own ends are not. -/
structure Trimmed (drops : Char → Bool) (text inner : List Char) : Prop where
  around : ∃ lead trail, text = lead ++ inner ++ trail ∧ (∀ c ∈ lead, drops c = true) ∧
    ∀ c ∈ trail, drops c = true
  opens : ∀ c ∈ inner.head?, drops c = false
  closes : ∀ c ∈ inner.getLast?, drops c = false

theorem drop_while_kept {drops : Char → Bool} {text : List Char}
    (kept : ∀ c ∈ text.head?, drops c = false) : text.dropWhile drops = text := by
  cases text with
  | nil => rfl
  | cons c rest => simp [kept c rfl]

theorem head_drop_while (drops : Char → Bool) (text : List Char) :
    ∀ c ∈ (text.dropWhile drops).head?, drops c = false := by
  intro c first
  have stopped := List.head?_dropWhile_not drops text
  rw [Option.mem_def.mp first] at stopped
  simpa using stopped

theorem trim_ends_trimmed (drops : Char → Bool) (text : List Char) :
    Trimmed drops text (trimEnds drops text) := by
  have dropped {part : List Char} : ∀ c ∈ part.takeWhile drops, drops c = true := fun c =>
    List.mem_takeWhile_imp
  -- what is left when the lead is dropped, from its end
  have turned : (text.dropWhile drops).reverse.takeWhile drops ++
      (text.dropWhile drops).reverse.dropWhile drops = (text.dropWhile drops).reverse :=
    List.takeWhile_append_dropWhile
  have rest : text.dropWhile drops =
      trimEnds drops text ++ ((text.dropWhile drops).reverse.takeWhile drops).reverse := by
    rw [trimEnds, ← List.reverse_append, turned, List.reverse_reverse]
  refine ⟨⟨text.takeWhile drops, ((text.dropWhile drops).reverse.takeWhile drops).reverse, ?_, dropped,
    fun c member => dropped c (List.mem_reverse.mp member)⟩, fun c first => ?_, fun c last => ?_⟩
  · rw [List.append_assoc, ← rest, List.takeWhile_append_dropWhile]
  · refine head_drop_while drops text c ?_
    rw [rest, List.head?_append, Option.mem_def.mp first]
    rfl
  · rw [trimEnds, List.getLast?_reverse] at last
    exact head_drop_while drops _ c last

theorem Trimmed.trim_ends {drops : Char → Bool} {text inner : List Char}
    (trimmed : Trimmed drops text inner) : trimEnds drops text = inner := by
  obtain ⟨⟨lead, trail, rfl, leads, trails⟩, opens, closes⟩ := trimmed
  rw [trimEnds, List.append_assoc, List.dropWhile_append_of_pos leads]
  by_cases empty : inner = []
  · subst empty
    rw [List.nil_append, List.dropWhile_eq_nil_iff.mpr trails]
    rfl
  · have kept : (inner ++ trail).dropWhile drops = inner ++ trail := by
      refine drop_while_kept fun c first => opens c ?_
      rwa [List.head?_append_of_ne_nil _ empty] at first
    rw [kept, List.reverse_append,
      List.dropWhile_append_of_pos fun c member => trails c (List.mem_reverse.mp member),
      drop_while_kept (by rwa [List.head?_reverse]), List.reverse_reverse]

theorem trim_ends_eq_iff {drops : Char → Bool} {text inner : List Char} :
    trimEnds drops text = inner ↔ Trimmed drops text inner := by
  refine ⟨?_, Trimmed.trim_ends⟩
  rintro rfl
  exact trim_ends_trimmed drops text

end WeblogFront.Text
