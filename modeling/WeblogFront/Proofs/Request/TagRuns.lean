import WeblogFront.Proofs.Request.Grammar
import WeblogFront.Proofs.Request.Tags
import Mathlib.Data.Set.Card

/-! What the tags of a text are. They are its runs without a separator that cannot be made any longer, each
of them once and in the order of the text, however the separators between them are mixed. So nothing
else than separators is lost, tags come back from any text into which they were written, and a limit
on tags is a limit on runs. -/
namespace WeblogFront.Request

def Gap (gap : List Char) : Prop :=
  ∀ c ∈ gap, isTagSeparator c = true

instance (gap : List Char) : Decidable (Gap gap) :=
  List.decidableBAll _ _

/-- A run of a text that holds no separator and cannot be made longer, and what stands before it. -/
structure MaximalRun (text before run : List Char) : Prop where
  nonempty : run ≠ []
  clean : ∀ c ∈ run, isTagSeparator c = false
  parted : ∀ c ∈ before.getLast?, isTagSeparator c = true
  stands : ∃ behind, text = before ++ run ++ behind ∧ ∀ c ∈ behind.head?, isTagSeparator c = true

/-- The places of these runs; what stands before a run tells it from an equal one elsewhere. -/
def maximalRuns (text : List Char) : Set (List Char × List Char) :=
  {place | MaximalRun text place.1 place.2}

section Runs

variable {text left right before run : List Char} {separator : Char}

theorem parted_induction {motive : List Char → Prop}
    (clean : ∀ text, (∀ c ∈ text, isTagSeparator c = false) → motive text)
    (parted : ∀ left separator rest, (∀ c ∈ left, isTagSeparator c = false) →
      isTagSeparator separator = true → motive rest → motive (left ++ separator :: rest))
    (text : List Char) : motive text := by
  -- the clean part grows until a separator ends it
  suffices grows : ∀ left, (∀ c ∈ left, isTagSeparator c = false) → motive (left ++ text) from
    grows [] (List.forall_mem_nil _)
  induction text with
  | nil =>
    intro left cleanLeft
    rw [List.append_nil]
    exact clean left cleanLeft
  | cons c rest ih =>
    intro left cleanLeft
    by_cases separates : isTagSeparator c = true
    · exact parted left c rest cleanLeft separates (ih [] (List.forall_mem_nil _))
    · rw [← List.concat_append, List.concat_eq_append]
      refine ih (left ++ [c]) (List.forall_mem_append.mpr ⟨cleanLeft, ?_⟩)
      exact List.forall_mem_singleton.mpr (Bool.eq_false_of_not_eq_true separates)

theorem nil_of_parted (clean : ∀ c ∈ text, isTagSeparator c = false)
    (parted : ∀ c ∈ text.getLast?, isTagSeparator c = true) : text = [] := by
  cases text using List.reverseRecOn with
  | nil => rfl
  | append_singleton others last =>
    have separates := parted last (by simp)
    rw [clean last (List.mem_append_right others List.mem_cons_self)] at separates
    cases separates

theorem nil_of_ended (clean : ∀ c ∈ text, isTagSeparator c = false)
    (ends : ∀ c ∈ text.head?, isTagSeparator c = true) : text = [] := by
  cases text with
  | nil => rfl
  | cons c rest => cases (ends c rfl).symm.trans (clean c List.mem_cons_self)

theorem maximal_run_clean (clean : ∀ c ∈ text, isTagSeparator c = false) :
    MaximalRun text before run ↔ text ≠ [] ∧ before = [] ∧ run = text := by
  constructor
  · rintro ⟨nonempty, _, parted, behind, rfl, ends⟩
    obtain ⟨cleanFront, cleanBehind⟩ := List.forall_mem_append.mp clean
    cases nil_of_parted (List.forall_mem_append.mp cleanFront).1 parted
    cases nil_of_ended cleanBehind ends
    simp [nonempty]
  · rintro ⟨nonempty, rfl, rfl⟩
    exact ⟨nonempty, clean, by simp, [], by simp, by simp⟩

theorem maximal_run_sides (separates : isTagSeparator separator = true)
    (maximal : MaximalRun (left ++ separator :: right) before run) :
    MaximalRun left before run ∨
      ∃ others, before = left ++ separator :: others ∧ MaximalRun right others run := by
  obtain ⟨nonempty, clean, parted, behind, whole, ends⟩ := maximal
  rw [List.append_assoc] at whole
  rcases List.append_eq_append_iff.mp whole with ⟨more, rfl, tail⟩ | ⟨more, rfl, tail⟩
  · -- the run stands behind the separator
    cases more with
    | nil =>
      obtain ⟨c, others, rfl⟩ := List.exists_cons_of_ne_nil nonempty
      cases (List.cons.inj tail).1
      cases separates.symm.trans (clean separator List.mem_cons_self)
    | cons c others =>
      obtain ⟨rfl, rfl⟩ := List.cons.inj tail
      refine .inr ⟨others, rfl, nonempty, clean, fun c last => parted c ?_, behind, ?_, ends⟩
      · cases others with
        | nil => cases last
        | cons next more => simpa [List.getLast?_append] using last
      · exact (List.append_assoc others run behind).symm
  · rcases List.append_eq_append_iff.mp tail with ⟨after, rfl, rest⟩ | ⟨after, rfl, rest⟩
    · refine .inl ⟨nonempty, clean, parted, after, (List.append_assoc before run after).symm, ?_⟩
      intro c first
      cases after with
      | nil => cases first
      | cons next more => exact ends c (by simpa [rest] using first)
    · -- what is left of the run would begin with the separator
      cases after with
      | nil => exact .inl ⟨nonempty, clean, parted, [], by simp, by simp⟩
      | cons c others =>
        cases (List.cons.inj rest).1
        have held := clean separator (List.mem_append_right more List.mem_cons_self)
        cases separates.symm.trans held

theorem MaximalRun.before_separator (separates : isTagSeparator separator = true)
    (maximal : MaximalRun left before run) : MaximalRun (left ++ separator :: right) before run := by
  obtain ⟨nonempty, clean, parted, behind, rfl, ends⟩ := maximal
  refine ⟨nonempty, clean, parted, behind ++ separator :: right, by simp, fun c first => ?_⟩
  cases behind with
  | nil =>
    have same : separator = c := by simpa using first
    rwa [← same]
  | cons next more => exact ends c first

theorem MaximalRun.behind_separator (separates : isTagSeparator separator = true)
    (maximal : MaximalRun right before run) :
    MaximalRun (left ++ separator :: right) (left ++ separator :: before) run := by
  obtain ⟨nonempty, clean, parted, behind, rfl, ends⟩ := maximal
  refine ⟨nonempty, clean, fun c last => ?_, behind, by simp, ends⟩
  cases before with
  | nil =>
    have same : separator = c := by simpa using last
    rwa [← same]
  | cons next more => exact parted c (by simpa [List.getLast?_append] using last)

theorem maximal_run_between (separates : isTagSeparator separator = true) :
    MaximalRun (left ++ separator :: right) before run ↔
      MaximalRun left before run ∨
        ∃ others, before = left ++ separator :: others ∧ MaximalRun right others run := by
  refine ⟨maximal_run_sides separates, ?_⟩
  rintro (maximal | ⟨others, rfl, maximal⟩)
  · exact maximal.before_separator separates
  · exact maximal.behind_separator separates

theorem split_clean (clean : ∀ c ∈ text, isTagSeparator c = false) :
    splitTags (String.ofList text) = if text = [] then [] else [String.ofList text] := by
  rw [splitTags, String.toList_ofList, Text.pieces_clean clean]
  by_cases empty : text = []
  · simp [empty]
  · simp [empty]

theorem tags_are_runs (text : List Char) :
    ∃ places : List (List Char × List Char),
      places.map (fun place => String.ofList place.2) = splitTags (String.ofList text) ∧
      places.Pairwise (fun place later => place.1.length < later.1.length) ∧
      ∀ place, place ∈ places ↔ place ∈ maximalRuns text := by
  have of_clean {text : List Char} (clean : ∀ c ∈ text, isTagSeparator c = false) (place) :
      place ∈ (if text = [] then [] else [([], text)]) ↔ place ∈ maximalRuns text := by
    obtain ⟨before, run⟩ := place
    rw [maximalRuns, Set.mem_ofPred_eq, maximal_run_clean clean]
    by_cases empty : text = []
    · simp [empty]
    · simp [empty]
  induction text using parted_induction with
  | clean text clean =>
    refine ⟨if text = [] then [] else [([], text)], ?_, ?_, of_clean clean⟩
    · rw [split_clean clean]
      split <;> rfl
    · split <;> simp
  | parted left separator rest clean separates ih =>
    obtain ⟨places, tags, ordered, runs⟩ := ih
    let moved := places.map fun place => (left ++ separator :: place.1, place.2)
    refine ⟨(if left = [] then [] else [([], left)]) ++ moved, ?_, ?_, ?_⟩
    · rw [split_tags_between separates, ← tags, split_clean clean, List.map_append, List.map_map]
      congr 1
      split <;> rfl
    · refine List.pairwise_append.mpr ⟨by split <;> simp, ?_, ?_⟩
      · exact List.pairwise_map.mpr (ordered.imp (by simp))
      · intro place first later member
        obtain ⟨_, _, rfl⟩ := List.mem_map.mp member
        split at first
        · cases first
        · cases List.mem_singleton.mp first
          simp
    · rintro ⟨before, run⟩
      rw [List.mem_append, of_clean clean, List.mem_map]
      simp only [maximalRuns, Set.mem_ofPred_eq, maximal_run_between separates]
      refine or_congr_right ⟨?_, ?_⟩
      · rintro ⟨place, member, same⟩
        cases same
        exact ⟨place.1, rfl, (runs place).mp member⟩
      · rintro ⟨others, rfl, maximal⟩
        exact ⟨(others, run), (runs _).mpr maximal, rfl⟩

theorem runs_counted (text : String) :
    (maximalRuns text.toList).ncard = (splitTags text).length := by
  obtain ⟨places, tags, ordered, runs⟩ := tags_are_runs text.toList
  rw [String.ofList_toList] at tags
  have distinct : places.Nodup := ordered.imp fun shorter same => by
    rw [same] at shorter
    exact Nat.lt_irrefl _ shorter
  have same : maximalRuns text.toList = places.toFinset := by
    ext place
    rw [List.coe_toFinset, Set.mem_ofPred_eq, runs]
  rw [same, Set.ncard_coe_finset, List.toFinset_card_of_nodup distinct, ← tags, List.length_map]

end Runs

section Tags

variable {gap : List Char}

theorem split_behind_gap (separators : Gap gap) (text : List Char) :
    splitTags (String.ofList (gap ++ text)) = splitTags (String.ofList text) := by
  induction gap with
  | nil => rfl
  | cons separator rest ih =>
    obtain ⟨separates, others⟩ := List.forall_mem_cons.mp separators
    rw [List.cons_append, ← List.nil_append (separator :: (rest ++ text)), split_tags_between separates,
      ih others]
    rfl

theorem split_across_gap (separators : Gap gap) (nonempty : gap ≠ []) (left right : List Char) :
    splitTags (String.ofList (left ++ (gap ++ right))) =
      splitTags (String.ofList left) ++ splitTags (String.ofList right) := by
  obtain ⟨separator, rest, rfl⟩ := List.exists_cons_of_ne_nil nonempty
  obtain ⟨separates, others⟩ := List.forall_mem_cons.mp separators
  rw [List.cons_append, split_tags_between separates, split_behind_gap others]

theorem split_before_gap (separators : Gap gap) (text : List Char) :
    splitTags (String.ofList (text ++ gap)) = splitTags (String.ofList text) := by
  by_cases empty : gap = []
  · rw [empty, List.append_nil]
  · have across := split_across_gap separators empty text []
    rw [List.append_nil] at across
    rw [across]
    exact List.append_nil _

/-- Tags as they may be written into a text: each with the separators behind it. -/
def spread (parts : List (String × List Char)) : List Char :=
  parts.flatMap fun part => part.1.toList ++ part.2

theorem split_spread {parts : List (String × List Char)}
    (written : ∀ part ∈ parts, TagText part.1 ∧ Gap part.2)
    (parted : ∀ part ∈ parts.dropLast, part.2 ≠ []) :
    splitTags (String.ofList (spread parts)) = parts.map (·.1) := by
  induction parts with
  | nil => rfl
  | cons part rest ih =>
    obtain ⟨⟨single, separators⟩, others⟩ := List.forall_mem_cons.mp written
    have tag : splitTags (String.ofList part.1.toList) = [part.1] := by
      rw [String.ofList_toList, split_tag single]
    rw [spread, List.flatMap_cons, List.append_assoc, ← spread, List.map_cons]
    cases rest with
    | nil =>
      rw [spread, List.flatMap_nil, List.append_nil, split_before_gap separators, tag]
      rfl
    | cons next more =>
      rw [List.dropLast_cons_cons] at parted
      obtain ⟨gapped, later⟩ := List.forall_mem_cons.mp parted
      rw [split_across_gap separators gapped, tag, ih others later]
      rfl

theorem tags_single (text : String) : ∀ tag ∈ splitTags text, TagText tag := by
  obtain ⟨places, tags, _, runs⟩ := tags_are_runs text.toList
  rw [String.ofList_toList] at tags
  intro tag member
  rw [← tags] at member
  obtain ⟨place, present, rfl⟩ := List.mem_map.mp member
  have maximal : MaximalRun text.toList place.1 place.2 := (runs place).mp present
  refine ⟨fun empty => maximal.nonempty ?_, by simpa using maximal.clean⟩
  simpa using congrArg String.toList empty

theorem filter_clean {text : List Char} (clean : ∀ c ∈ text, isTagSeparator c = false) :
    text.filter (fun c => !isTagSeparator c) = text :=
  List.filter_eq_self.mpr fun c member => by simp [clean c member]

theorem tags_joined (text : List Char) :
    (splitTags (String.ofList text)).flatMap String.toList = text.filter fun c => !isTagSeparator c := by
  have of_clean {text : List Char} (clean : ∀ c ∈ text, isTagSeparator c = false) :
      (splitTags (String.ofList text)).flatMap String.toList = text := by
    rw [split_clean clean]
    by_cases empty : text = []
    · simp [empty]
    · simp [empty]
  induction text using parted_induction with
  | clean text clean => rw [of_clean clean, filter_clean clean]
  | parted left separator rest clean separates ih =>
    rw [split_tags_between separates, List.flatMap_append, ih, of_clean clean, List.filter_append,
      filter_clean clean, List.filter_cons_of_neg (by simp [separates])]

theorem select_tags (tagLimit : Nat) (url selector : String) :
    select tagLimit url ("tags/" ++ selector) =
      if (splitTags (Text.decode selector)).length ≤ tagLimit then
        .ok (.tags (splitTags (Text.decode selector)))
      else .error (.tooManyTags tagLimit url) := by
  have written : "tags/" ++ selector = String.ofList ("tags".toList ++ '/' :: selector.toList) := by
    apply String.toList_inj.mp
    simp
  have decoded : String.ofList selector.toList = selector := String.ofList_toList
  rw [written]
  split
  case isTrue few =>
    have fits : (splitTags (Text.decode (String.ofList selector.toList))).length ≤ tagLimit := by
      rwa [decoded]
    rw [selects_accepted (.tags fits), decoded]
  case isFalse many =>
    refine misselects_refused (.tags ?_)
    rw [decoded]
    exact Nat.lt_of_not_le many

/-- Splitting takes a separator between two texts for the border between their tags; the tags are single
and hold all that is no separator; they are read back wherever gaps part them; and the view of some
tags is refused for the number of maximal runs in what its address decodes to. -/
theorem tags_spread_and_split :
    (∀ separator, isTagSeparator separator = true → ∀ left right : String,
      splitTags (left ++ String.singleton separator ++ right) = splitTags left ++ splitTags right) ∧
    (∀ text : String, (∀ tag ∈ splitTags text, TagText tag) ∧
      String.join (splitTags text) =
        String.ofList (text.toList.filter fun c => !isTagSeparator c)) ∧
    (∀ (lead : List Char) (parts : List (String × List Char)), Gap lead →
      (∀ part ∈ parts, TagText part.1 ∧ Gap part.2) → (∀ part ∈ parts.dropLast, part.2 ≠ []) →
      splitTags (String.ofList (lead ++ spread parts)) = parts.map (·.1)) ∧
    ∀ (tagLimit : Nat) (url selector : String),
      let decoded := Text.decode selector
      (splitTags decoded).length = (maximalRuns decoded.toList).ncard ∧
      select tagLimit url ("tags/" ++ selector) =
        if (maximalRuns decoded.toList).ncard ≤ tagLimit then .ok (.tags (splitTags decoded))
        else .error (.tooManyTags tagLimit url) := by
  refine ⟨?_, ?_, ?_, ?_⟩
  · intro separator separates left right
    have parted := split_tags_between separates left.toList right.toList
    have written : left ++ String.singleton separator ++ right =
        String.ofList (left.toList ++ separator :: right.toList) := by
      apply String.toList_inj.mp
      simp
    rw [written, parted, String.ofList_toList, String.ofList_toList]
  · intro text
    have joined := tags_joined text.toList
    rw [String.ofList_toList] at joined
    refine ⟨tags_single text, String.toList_inj.mp ?_⟩
    rw [String.toList_join, joined, String.toList_ofList]
  · intro lead parts separators written parted
    rw [split_behind_gap separators, split_spread written parted]
  · intro tagLimit url selector decoded
    rw [runs_counted]
    exact ⟨rfl, select_tags tagLimit url selector⟩

-- Separators of five kinds, alone and together; the tag that is named twice is counted twice.
theorem mixed_gaps_split :
    let parts := [("rust", [' ', ',']), ("go", ['\n']), ("rust", ['\r', '\n'])]
    Gap [',', '\t'] ∧ (∀ part ∈ parts, TagText part.1 ∧ Gap part.2) ∧
    (∀ part ∈ parts.dropLast, part.2 ≠ []) ∧
    splitTags ",\trust ,go\nrust\r\n" = ["rust", "go", "rust"] ∧
    (maximalRuns (Text.decode "rust+go%2Crust").toList).ncard = 3 ∧
    select 2 "/blog" "tags/rust+go%2Crust" = .error (.tooManyTags 2 "/blog") := by
  intro parts
  have lead : Gap [',', '\t'] := by decide
  have written : ∀ part ∈ parts, TagText part.1 ∧ Gap part.2 := by decide +kernel
  have parted : ∀ part ∈ parts.dropLast, part.2 ≠ [] := by decide
  obtain ⟨_, _, read, limited⟩ := tags_spread_and_split
  obtain ⟨counted, compared⟩ := limited 2 "/blog" "rust+go%2Crust"
  have three : (splitTags (Text.decode "rust+go%2Crust")).length = 3 := by decide +kernel
  rw [← counted, three] at compared
  exact ⟨lead, written, parted, read [',', '\t'] parts lead written parted, counted.symm.trans three,
    compared⟩

end Tags

end WeblogFront.Request
