import WeblogFront.Cache.PageKey
import WeblogFront.Proofs.Request.TagSet
import WeblogFront.Proofs.Text.Cut
import WeblogFront.Proofs.Text.Escape
import WeblogFront.Proofs.Text.Numeral
import Mathlib.Tactic.SplitIfs

/-! The key of a page spells its identity out, and nothing else: two descriptors have one key exactly
when they agree on what the key is meant to tell apart. The key is read from the left. Its parts are
optional, but each begins with a label of its own, so that what stands after a part shows which part
comes next; and a value holds no slash, so that it ends where the next label begins. -/
namespace WeblogFront.Cache

section Layout

def Continues (labels : List String) (text : List Char) : Prop :=
  text = [] ∨ ∃ label ∈ labels, label.toList <+: text

/-- A value can be told from what is written after it, provided that this is over or begins with one
of the labels. -/
def Legible (write : α → List Char) (labels : List String) : Prop :=
  ∀ {left right leftRest rightRest}, Continues labels leftRest → Continues labels rightRest →
    write left ++ leftRest = write right ++ rightRest → left = right ∧ leftRest = rightRest

/-- A text of labelled parts, of which any may be missing: it shows the parts that it was made of. -/
structure Layout (write : α → List Char) (labels : List String) : Prop where
  slashed : ∀ label ∈ labels, ['/'] <+: label.toList
  injective : ∀ {left right}, write left = write right → left = right
  continues : ∀ value, Continues labels (write value)

def optional (label : String) (write : α → List Char) : Option α → List Char
  | none => []
  | some value => label.toList ++ write value

def Apart (label : String) (labels : List String) : Prop :=
  ['/'] <+: label.toList ∧
    ∀ other ∈ labels, ¬ label.toList <+: other.toList ∧ ¬ other.toList <+: label.toList

instance (label : String) (labels : List String) : Decidable (Apart label labels) :=
  inferInstanceAs (Decidable (_ ∧ ∀ other ∈ labels, _))

theorem labelled_not_continuing {label : String} {labels : List String} {text rest : List Char}
    (apart : Apart label labels) (continues : Continues labels text) :
    text ≠ label.toList ++ rest := by
  rintro rfl
  rcases continues with empty | ⟨other, member, starts⟩
  · exact apart.1.ne_nil (List.cons_ne_nil '/' []) (List.append_eq_nil_iff.mp empty).1
  · have either := List.prefix_or_prefix_of_prefix (List.prefix_append label.toList rest) starts
    rcases either with first | second
    · exact (apart.2 other member).1 first
    · exact (apart.2 other member).2 second

-- Where a part is missing on one side only, the other side shows its label in a place where nothing
-- but a later label can stand.
theorem Legible.optional {label : String} {labels : List String} {write : α → List Char}
    (legible : Legible write labels) (apart : Apart label labels) :
    Legible (optional label write) labels := by
  intro left right leftRest rightRest leftContinues rightContinues same
  cases left with
  | none =>
    cases right with
    | none => exact ⟨rfl, same⟩
    | some value =>
      rw [Cache.optional, Cache.optional, List.append_assoc] at same
      exact absurd same (labelled_not_continuing apart leftContinues)
  | some value =>
    cases right with
    | none =>
      rw [Cache.optional, Cache.optional, List.append_assoc] at same
      exact absurd same.symm (labelled_not_continuing apart rightContinues)
    | some other =>
      simp only [Cache.optional, List.append_assoc, List.append_cancel_left_eq] at same
      obtain ⟨rfl, rest⟩ := legible leftContinues rightContinues same
      exact ⟨rfl, rest⟩

theorem Layout.cons {label : String} {labels : List String} {write : α → List Char}
    {tail : β → List Char}
    (legible : (∀ label ∈ labels, ['/'] <+: label.toList) → Legible write labels)
    (apart : Apart label labels) (layout : Layout tail labels) :
    Layout (fun parts : Option α × β => optional label write parts.1 ++ tail parts.2)
      (label :: labels) where
  slashed := List.forall_mem_cons.mpr ⟨apart.1, layout.slashed⟩
  injective := by
    rintro ⟨left, leftTail⟩ ⟨right, rightTail⟩ same
    have part : Legible (optional label write) labels :=
      Legible.optional (legible layout.slashed) apart
    obtain ⟨rfl, rest⟩ := part (layout.continues leftTail) (layout.continues rightTail) same
    exact Prod.ext rfl (layout.injective rest)
  continues := by
    rintro ⟨part, rest⟩
    cases part with
    | none =>
      rcases layout.continues rest with empty | ⟨other, member, starts⟩
      · exact .inl empty
      · exact .inr ⟨other, List.mem_cons_of_mem label member, starts⟩
    | some value => exact .inr ⟨label, List.mem_cons_self, by simp [optional]⟩

theorem continues_ends {labels : List String} (slashed : ∀ label ∈ labels, ['/'] <+: label.toList)
    {text : List Char} (continues : Continues labels text) : Text.Ends '/' text := by
  rcases continues with rfl | ⟨label, member, starts⟩
  · exact .inl rfl
  · obtain ⟨rest, whole⟩ := (slashed label member).trans starts
    exact .inr ⟨rest, whole.symm⟩

theorem legible_slashless {labels : List String} {write : α → List Char}
    (slashed : ∀ label ∈ labels, ['/'] <+: label.toList)
    (injective : ∀ {left right}, write left = write right → left = right)
    (slashless : ∀ value, '/' ∉ write value) : Legible write labels := by
  intro left right leftRest rightRest leftContinues rightContinues same
  obtain ⟨equal, rest⟩ := Text.clean_append_inj (slashless left) (slashless right)
    (continues_ends slashed leftContinues) (continues_ends slashed rightContinues) same
  exact ⟨injective equal, rest⟩

theorem ends_labelled {label : String} (slashed : ['/'] <+: label.toList) (rest : List Char) :
    Text.Ends '/' (label.toList ++ rest) :=
  continues_ends (by simpa using slashed)
    (.inr ⟨label, List.mem_singleton_self label, List.prefix_append label.toList rest⟩)

theorem Layout.nil : Layout (fun _ : Unit => []) [] where
  slashed := fun _ member => absurd member List.not_mem_nil
  injective := fun _ => rfl
  continues := fun _ => .inl rfl

theorem legible_last {write : α → List Char}
    (injective : ∀ {left right}, write left = write right → left = right) : Legible write [] := by
  intro left right leftRest rightRest leftContinues rightContinues same
  have ended : ∀ {text}, Continues [] text → text = [] := by
    rintro text (empty | ⟨_, member, _⟩)
    · exact empty
    · cases member
  rw [ended leftContinues, ended rightContinues, List.append_nil, List.append_nil] at same
  exact ⟨injective same, (ended leftContinues).trans (ended rightContinues).symm⟩

end Layout

namespace PageIdentity

section Parts

theorem slash_not_in_segment (value : String) : '/' ∉ segment value :=
  Text.separator_not_in_segment (by decide) (by decide) value.toList

theorem segment_inj {left right : String} (same : segment left = segment right) : left = right :=
  String.toList_inj.mp (Text.segment_injective same)

theorem segment_legible {labels : List String}
    (slashed : ∀ label ∈ labels, ['/'] <+: label.toList) : Legible segment labels :=
  legible_slashless slashed segment_inj slash_not_in_segment

theorem join_tags_cons (tag next : String) (others : List String) :
    joinTags (tag :: next :: others) = segment tag ++ '+' :: joinTags (next :: others) := rfl

theorem mem_join_tags {tags : List String} {c : Char} (member : c ∈ joinTags tags) :
    c = '+' ∨ ∃ tag ∈ tags, c ∈ segment tag := by
  induction tags with
  | nil => cases member
  | cons tag rest ih =>
    cases rest with
    | nil => exact .inr ⟨tag, List.mem_cons_self, member⟩
    | cons next others =>
      rw [join_tags_cons] at member
      rcases List.mem_append.mp member with own | later
      · exact .inr ⟨tag, List.mem_cons_self, own⟩
      · rcases List.mem_cons.mp later with plus | later
        · exact .inl plus
        · rcases ih later with plus | ⟨other, present, inside⟩
          · exact .inl plus
          · exact .inr ⟨other, List.mem_cons_of_mem tag present, inside⟩

-- An empty list and the list of one empty tag are joined to the same text, so the list is not empty here.
theorem pieces_join_tags {tags : List String} (nonempty : tags ≠ []) :
    Text.pieces (· == '+') (joinTags tags) = tags.map segment := by
  have plusless : ∀ tag, ∀ c ∈ segment tag, (c == '+') = false := by
    intro tag c member
    rw [beq_eq_false_iff_ne]
    rintro rfl
    exact Text.separator_not_in_segment (by decide) (by decide) tag.toList member
  induction tags with
  | nil => exact absurd rfl nonempty
  | cons tag rest ih =>
    cases rest with
    | nil => exact Text.pieces_clean (plusless tag)
    | cons next others =>
      rw [join_tags_cons, Text.pieces_at (plusless tag) (by decide), ih (List.cons_ne_nil next others)]
      rfl

abbrev Tags : Type := { tags : List String // tags ≠ [] }

theorem tags_legible {labels : List String}
    (slashed : ∀ label ∈ labels, ['/'] <+: label.toList) :
    Legible (fun tags : Tags => joinTags tags.val) labels := by
  apply legible_slashless slashed
  · intro left right same
    have read := congrArg (Text.pieces (· == '+')) same
    rw [pieces_join_tags left.property, pieces_join_tags right.property] at read
    exact Subtype.ext (List.map_injective_iff.mpr (fun _ _ => segment_inj) read)
  · intro tags slash
    rcases mem_join_tags slash with plus | ⟨tag, _, inside⟩
    · exact absurd plus (by decide)
    · exact slash_not_in_segment tag inside

theorem number_legible {labels : List String}
    (slashed : ∀ label ∈ labels, ['/'] <+: label.toList) : Legible Text.decimal labels := by
  apply legible_slashless slashed Text.decimal_injective
  intro number slash
  cases Text.decimal_digit slash

def writePreview (preview : String × String) : List Char :=
  segment preview.1 ++ '/' :: segment preview.2

theorem preview_legible {labels : List String}
    (slashed : ∀ label ∈ labels, ['/'] <+: label.toList) : Legible writePreview labels := by
  rintro ⟨leftTheme, leftKind⟩ ⟨rightTheme, rightKind⟩ leftRest rightRest leftContinues
    rightContinues same
  simp only [writePreview, List.append_assoc, List.cons_append] at same
  obtain ⟨theme, kinds⟩ := Text.clean_append_inj (slash_not_in_segment leftTheme)
    (slash_not_in_segment rightTheme) (.inr ⟨_, rfl⟩) (.inr ⟨_, rfl⟩) same
  obtain ⟨rfl, rest⟩ := segment_legible slashed leftContinues rightContinues (List.cons.inj kinds).2
  exact ⟨by rw [segment_inj theme], rest⟩

end Parts

def tagPart (tags : List String) : Option Tags :=
  if empty : tags = [] then none else some ⟨tags, empty⟩

def numberPart (number : Nat) : Option Nat :=
  if number = 0 then none else some number

theorem tag_part_inj {left right : List String} (same : tagPart left = tagPart right) :
    left = right := by
  unfold tagPart at same
  split_ifs at same with leftEmpty rightEmpty
  · rw [leftEmpty, rightEmpty]
  · exact congrArg Subtype.val (Option.some.inj same)

theorem number_part_inj {left right : Nat} (same : numberPart left = numberPart right) :
    left = right := by
  unfold numberPart at same
  split_ifs at same with leftFirst rightFirst
  · rw [leftFirst, rightFirst]
  · exact Option.some.inj same

abbrev Parts : Type :=
  Option String × Option String × Option String × Option String × Option Tags × Option String ×
    Option String × Option Nat × Option (String × String) × Option (List Char) × Unit

def parts (page : PageIdentity) : Parts :=
  (page.customPage, page.entry, page.date, page.category, tagPart page.tags, page.locale, page.user,
    numberPart page.pageNumber, page.preview, page.parameters, ())

def partLabels : List String :=
  ["/page/", "/entry/", "/date/", "/category/", "/tags/", "/locale=", "/user=", "/page=",
    "/preview=", "/params="]

def writeParts (parts : Parts) : List Char :=
  let (customPage, entry, date, category, tags, locale, user, number, preview, parameters, ()) := parts
  optional "/page/" segment customPage ++ (optional "/entry/" segment entry ++
    (optional "/date/" segment date ++ (optional "/category/" segment category ++
    (optional "/tags/" (fun tags : Tags => joinTags tags.val) tags ++
    (optional "/locale=" segment locale ++ (optional "/user=" segment user ++
    (optional "/page=" Text.decimal number ++ (optional "/preview=" writePreview preview ++
    (optional "/params=" id parameters ++ [])))))))))

-- From the left: a part can be told from the labels that are still to come.
theorem parts_layout : Layout writeParts partLabels :=
  .cons segment_legible (by decide) <|
  .cons segment_legible (by decide) <|
  .cons segment_legible (by decide) <|
  .cons segment_legible (by decide) <|
  .cons tags_legible (by decide) <|
  .cons segment_legible (by decide) <|
  .cons segment_legible (by decide) <|
  .cons number_legible (by decide) <|
  .cons preview_legible (by decide) <|
  .cons (fun _ => legible_last fun same => same) (by decide) .nil

theorem tag_text_part (tags : List String) :
    tagText tags = optional "/tags/" (fun tags : Tags => joinTags tags.val) (tagPart tags) := by
  cases tags <;> rfl

theorem number_text_part (number : Nat) :
    numberText number = optional "/page=" Text.decimal (numberPart number) := by
  unfold numberText numberPart
  split <;> rfl

theorem text_parts (page : PageIdentity) :
    page.text = "cache.weblogpage:".toList ++ (segment page.handle ++
      ("/ctx=".toList ++ (page.context.name.toList ++ writeParts page.parts))) := by
  -- each writer of the key is the general one with its own label and value
  have labelled_part (label : String) (value : Option String) :
      labelled label value = optional label segment value := by
    cases value <;> rfl
  have preview_part (preview : Option (String × String)) :
      previewText preview = optional "/preview=" writePreview preview := by
    rcases preview with _ | ⟨theme, kind⟩
    · rfl
    · exact List.append_assoc "/preview=".toList (segment theme) ('/' :: segment kind)
  have parameters_part (digest : Option (List Char)) :
      parametersText digest = optional "/params=" id digest := by
    cases digest <;> rfl
  unfold text writeParts parts
  simp only [tag_text_part, number_text_part, labelled_part, preview_part, parameters_part,
    List.append_assoc, List.append_nil]

theorem context_name_inj {left right : PageContext} (same : left.name.toList = right.name.toList) :
    left = right := by
  cases left <;> cases right <;> first | rfl | exact absurd same (by decide)

theorem slash_not_in_context (context : PageContext) : '/' ∉ context.name.toList := by
  cases context <;> decide

theorem text_injective {left right : PageIdentity} (same : left.text = right.text) : left = right := by
  have slashed := parts_layout.slashed
  rw [text_parts, text_parts, List.append_cancel_left_eq] at same
  obtain ⟨handle, same⟩ := Text.clean_append_inj (slash_not_in_segment left.handle)
    (slash_not_in_segment right.handle) (ends_labelled (by decide) _) (ends_labelled (by decide) _) same
  rw [List.append_cancel_left_eq] at same
  obtain ⟨context, same⟩ := Text.clean_append_inj (slash_not_in_context left.context)
    (slash_not_in_context right.context) (continues_ends slashed (parts_layout.continues left.parts))
    (continues_ends slashed (parts_layout.continues right.parts)) same
  have parts := parts_layout.injective same
  cases left
  cases right
  simp only [PageIdentity.parts, Prod.mk.injEq] at parts
  obtain ⟨customPage, entry, date, category, tags, locale, user, number, preview, parameters, _⟩ := parts
  rw [mk.injEq]
  exact ⟨segment_inj handle, context_name_inj context, customPage, entry, date, category,
    tag_part_inj tags, locale, user, number_part_inj number, preview, parameters⟩

end PageIdentity

section Descriptors

/-- Both without preview, or both with one of the same theme and kind. No theme is the one without a
name, and which entry is previewed is left to the anchor. -/
def SamePreview : Option Preview → Option Preview → Prop
  | none, none => True
  | some left, some right => left.theme.getD "" = right.theme.getD "" ∧ left.kind = right.kind
  | _, _ => False

def SameParameters (left right : Query) : Prop :=
  (left.isEmpty ∧ right.isEmpty) ∨ (¬ left.isEmpty ∧ ¬ right.isEmpty ∧ left.digest = right.digest)

/-- What the key of a page is meant to tell apart. -/
structure SamePage (left right : Descriptor) : Prop where
  handle : left.handle = right.handle
  context : left.context = right.context
  customPage : left.customPage = right.customPage
  /-- A previewed entry stands in for the one in the path. -/
  entry : (left.preview.bind (·.entry)).or left.anchor = (right.preview.bind (·.entry)).or right.anchor
  date : left.date = right.date
  category : left.category = right.category
  tags : ∀ tag, tag ∈ left.tags.getD [] ↔ tag ∈ right.tags.getD []
  locale : left.locale = right.locale
  user : (if left.showsIdentity then left.principal else none) =
    if right.showsIdentity then right.principal else none
  pageNumber : left.pageNumber = right.pageNumber
  preview : SamePreview left.preview right.preview
  parameters : SameParameters left.parameters right.parameters

theorem SamePage.entry_anchor {left right : Descriptor} (same : SamePage left right) :
    left.entryAnchor = right.entryAnchor := by
  rw [left.entry_anchor_eq, right.entry_anchor_eq, same.entry]

theorem SamePage.visible_user {left right : Descriptor} (same : SamePage left right) :
    left.user = right.user :=
  same.user

theorem preview_part_eq_iff {left right : Option Preview} :
    (left.map fun preview => (preview.theme.getD "", preview.kind)) =
        (right.map fun preview => (preview.theme.getD "", preview.kind)) ↔
      SamePreview left right := by
  cases left <;> cases right <;> simp [SamePreview]

theorem parameters_part_eq_iff {left right : Query} :
    (if left.isEmpty then none else some left.digest) =
        (if right.isEmpty then none else some right.digest) ↔
      SameParameters left right := by
  unfold SameParameters
  cases left.isEmpty <;> cases right.isEmpty <;> simp

theorem identity_eq_iff {left right : Descriptor} :
    PageIdentity.of left = PageIdentity.of right ↔ SamePage left right := by
  simp only [PageIdentity.of, PageIdentity.mk.injEq, Request.canonical_tags_eq_iff, preview_part_eq_iff,
    parameters_part_eq_iff, Descriptor.entry_anchor_eq, Descriptor.user]
  constructor
  · rintro ⟨handle, context, customPage, entry, date, category, tags, locale, user, pageNumber, preview,
      parameters⟩
    exact ⟨handle, context, customPage, entry, date, category, tags, locale, user, pageNumber, preview,
      parameters⟩
  · intro same
    exact ⟨same.handle, same.context, same.customPage, same.entry, same.date, same.category, same.tags,
      same.locale, same.user, same.pageNumber, same.preview, same.parameters⟩

theorem identity_of_page_key {left right : Descriptor} (same : pageKey left = pageKey right) :
    PageIdentity.of left = PageIdentity.of right :=
  PageIdentity.text_injective (String.ofList_injective same)

/-- Two descriptors share a key exactly when they ask for one page, whatever texts they hold. -/
theorem page_key_eq_iff_same_page (left right : Descriptor) :
    pageKey left = pageKey right ↔ SamePage left right := by
  rw [← identity_eq_iff]
  constructor
  · exact identity_of_page_key
  · intro same
    rw [pageKey, pageKey, same]

end Descriptors

end WeblogFront.Cache
