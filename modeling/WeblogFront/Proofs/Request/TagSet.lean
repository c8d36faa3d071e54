import WeblogFront.Request.Selector
import Mathlib.Data.List.Sort

/-! The canonical list of some tags stands for the set of them: it has the same members, and a set has
only one list that ascends strictly. -/
namespace WeblogFront.Request

theorem mem_insert_tag {tag other : String} {sorted : List String} :
    other ∈ insertTag tag sorted ↔ other = tag ∨ other ∈ sorted := by
  induction sorted with
  | nil => simp [insertTag]
  | cons present rest ih =>
    simp only [insertTag]
    split
    case isTrue before => exact List.mem_cons
    case isFalse notBefore =>
      split
      case isTrue same =>
        subst same
        simp
      case isFalse different =>
        rw [List.mem_cons, ih, List.mem_cons]
        exact or_left_comm

theorem insert_tag_ordered (tag : String) {sorted : List String}
    (ordered : sorted.Pairwise (· < ·)) : (insertTag tag sorted).Pairwise (· < ·) := by
  induction sorted with
  | nil => exact List.pairwise_singleton _ tag
  | cons present rest ih =>
    have parts := List.pairwise_cons.mp ordered
    simp only [insertTag]
    split
    case isTrue before =>
      refine List.pairwise_cons.mpr ⟨fun other member => ?_, ordered⟩
      rcases List.mem_cons.mp member with rfl | later
      · exact before
      · exact String.lt_trans before (parts.1 other later)
    case isFalse notBefore =>
      split
      case isTrue same => exact ordered
      case isFalse different =>
        refine List.pairwise_cons.mpr ⟨fun other member => ?_, ih parts.2⟩
        rcases mem_insert_tag.mp member with rfl | later
        · -- neither smaller nor equal, so the tag that is put in is the greater one
          by_contra notAfter
          exact different (String.le_antisymm (String.not_lt.mp notAfter) (String.not_lt.mp notBefore))
        · exact parts.1 other later

theorem fold_tags_ordered (tags : List String) {sorted : List String}
    (ordered : sorted.Pairwise (· < ·)) :
    (tags.foldl (fun sorted tag => insertTag tag sorted) sorted).Pairwise (· < ·) := by
  induction tags generalizing sorted with
  | nil => exact ordered
  | cons tag rest ih => exact ih (insert_tag_ordered tag ordered)

theorem mem_fold_tags (tags : List String) {sorted : List String} {other : String} :
    other ∈ tags.foldl (fun sorted tag => insertTag tag sorted) sorted ↔
      other ∈ tags ∨ other ∈ sorted := by
  induction tags generalizing sorted with
  | nil => simp
  | cons tag rest ih =>
    rw [List.foldl_cons, ih, mem_insert_tag, List.mem_cons]
    constructor
    · rintro (later | rfl | before)
      · exact .inl (.inr later)
      · exact .inl (.inl rfl)
      · exact .inr before
    · rintro ((rfl | later) | before)
      · exact .inr (.inl rfl)
      · exact .inl later
      · exact .inr (.inr before)

theorem canonical_tags_ordered (tags : List String) : (canonicalTags tags).Pairwise (· < ·) :=
  fold_tags_ordered tags .nil

theorem mem_canonical_tags {tags : List String} {tag : String} :
    tag ∈ canonicalTags tags ↔ tag ∈ tags := by
  rw [canonicalTags, mem_fold_tags]
  simp

theorem canonical_tags_eq_iff {left right : List String} :
    canonicalTags left = canonicalTags right ↔ ∀ tag, tag ∈ left ↔ tag ∈ right := by
  constructor
  · intro same tag
    rw [← mem_canonical_tags, same, mem_canonical_tags]
  · intro same
    have irreflexive : Std.Irrefl (· < · : String → String → Prop) := ⟨String.lt_irrefl⟩
    have antisymmetric : Std.Antisymm (· < · : String → String → Prop) :=
      ⟨fun _ _ before after => absurd after (String.lt_asymm before)⟩
    apply (canonical_tags_ordered left).eq_of_mem_iff (canonical_tags_ordered right)
    intro tag
    rw [mem_canonical_tags, mem_canonical_tags]
    exact same tag

end WeblogFront.Request
