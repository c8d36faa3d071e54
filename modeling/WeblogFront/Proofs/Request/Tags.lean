import WeblogFront.Proofs.Cache.PageKey
import WeblogFront.Proofs.Text.Form

/-! Tag lists as they stand in an address. A separator parts two tag lists, whatever stands before and
behind it, and so a list of tags is read back from the text in which they were joined. -/
namespace WeblogFront.Request

theorem split_tags_between {separator : Char} (separates : isTagSeparator separator = true)
    (left right : List Char) :
    splitTags (String.ofList (left ++ separator :: right)) =
      splitTags (String.ofList left) ++ splitTags (String.ofList right) := by
  simp only [splitTags, String.toList_ofList, Text.pieces_between separates, List.filter_append,
    List.map_append]

def TagText (tag : String) : Prop :=
  tag ≠ "" ∧ ∀ c ∈ tag.toList, isTagSeparator c = false

instance (tag : String) : Decidable (TagText tag) :=
  @instDecidableAnd _ _ inferInstance (List.decidableBAll _ _)

theorem split_tag {tag : String} (single : TagText tag) : splitTags tag = [tag] := by
  obtain ⟨nonempty, clean⟩ := single
  rw [splitTags, Text.pieces_clean clean]
  simp [nonempty]

open Cache.PageIdentity (joinTags)

def spaced (tags : List String) : List Char :=
  [' '].intercalate (tags.map String.toList)

theorem split_spaced {tags : List String} (single : ∀ tag ∈ tags, TagText tag) :
    splitTags (String.ofList (spaced tags)) = tags := by
  induction tags with
  | nil => rfl
  | cons tag rest ih =>
    obtain ⟨first, others⟩ := List.forall_mem_cons.mp single
    cases rest with
    | nil => simp [spaced, split_tag first]
    | cons next more =>
      have joined : spaced (tag :: next :: more) = tag.toList ++ ' ' :: spaced (next :: more) := by
        simp [spaced]
      rw [joined, split_tags_between (by decide), ih others, String.ofList_toList, split_tag first]
      rfl

theorem spelled_join_tags (tags : List String) :
    Text.spelled (joinTags tags) = Text.octets (spaced tags) := by
  induction tags with
  | nil => rfl
  | cons tag rest ih =>
    cases rest with
    | nil => simp [joinTags, Cache.PageIdentity.segment, Text.spelled_segment, spaced]
    | cons next more =>
      have joined : spaced (tag :: next :: more) = tag.toList ++ ([' '] ++ spaced (next :: more)) := by
        simp [spaced]
      rw [Cache.PageIdentity.join_tags_cons, Cache.PageIdentity.segment, Text.spelled_segment_append,
        Text.spelled_plus, ih, joined, Text.octets_append, Text.octets_append]

/-- Decoding a joined tag list and splitting it gives the tags back, in their order and with all their
repetitions. -/
theorem split_join_tags {tags : List String} (single : ∀ tag ∈ tags, TagText tag) :
    splitTags (Text.decode (String.ofList (joinTags tags))) = tags := by
  rw [Text.decode, String.toList_ofList, Text.read_form_of_octets (spelled_join_tags tags)]
  exact split_spaced single

end WeblogFront.Request
