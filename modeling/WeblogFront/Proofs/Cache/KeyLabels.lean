import WeblogFront.Proofs.Cache.PageKey
import Mathlib.Data.List.Infix

/-! Which labels a page key shows. A value is written without an equals sign, and each part opens with a
slash, so that a name in front of an equals sign can only be the name of a label: no value can be
mistaken for one. A key therefore names a user exactly when its descriptor has one. -/
namespace WeblogFront.Sha256

theorem word_hex_digits {word : UInt32} {c : Char} (member : c ∈ wordHex word) :
    ∃ value < 16, c = Nat.digitChar value := by
  obtain ⟨shift, _, rfl⟩ := List.mem_map.mp member
  exact ⟨_, Nat.mod_lt _ (by decide), rfl⟩

theorem hex_digits {message : List UInt8} {c : Char} (member : c ∈ hex message) :
    ∃ value < 16, c = Nat.digitChar value := by
  obtain ⟨word, _, inside⟩ := List.mem_flatMap.mp member
  exact word_hex_digits inside

end WeblogFront.Sha256

namespace WeblogFront.Cache

namespace PageIdentity

section Labels

variable {name value rest : List Char} {label : String}

def Unlike (name : List Char) (label : String) : Prop :=
  ['/'] <+: label.toList ∧ ¬ name ++ ['='] <:+: label.toList

instance (name : List Char) (label : String) : Decidable (Unlike name label) :=
  inferInstanceAs (Decidable (_ ∧ _))

structure Silent (name text : List Char) : Prop where
  slashless : '/' ∉ name
  ends : Text.Ends '/' text
  unnamed : ¬ name ++ ['='] <:+: text

theorem Silent.before {label : List Char} (silent : Silent name rest)
    (unlike : ¬ name ++ ['='] <:+: label) (clean : '=' ∉ value) :
    ¬ name ++ ['='] <:+: label ++ value ++ rest := by
  intro shown
  have slashless : '/' ∉ name ++ ['='] := by simpa using silent.slashless
  rcases Text.infix_before_break slashless silent.ends shown with part | later
  · exact unlike (Text.infix_before_clean clean part)
  · exact silent.unnamed later

theorem Silent.optional {α : Type} {write : α → List Char} {part : Option α}
    (unlike : Unlike name label) (clean : ∀ value ∈ part, '=' ∉ write value)
    (silent : Silent name rest) : Silent name (optional label write part ++ rest) := by
  cases part with
  | none => exact silent
  | some value =>
    refine ⟨silent.slashless, ?_, silent.before unlike.2 (clean value rfl)⟩
    rw [Cache.optional, List.append_assoc]
    exact ends_labelled unlike.1 _

theorem equals_not_in_segment (value : String) : '=' ∉ segment value :=
  Text.separator_not_in_segment (by decide) (by decide) value.toList

theorem equals_not_in_tags (tags : List String) : '=' ∉ joinTags tags := by
  intro equals
  rcases mem_join_tags equals with plus | ⟨tag, _, inside⟩
  · exact absurd plus (by decide)
  · exact equals_not_in_segment tag inside

theorem equals_not_in_decimal (number : Nat) : '=' ∉ Text.decimal number := by
  intro equals
  exact absurd (Text.decimal_digit equals) (by decide)

theorem equals_not_in_preview (preview : String × String) : '=' ∉ writePreview preview := by
  intro equals
  rcases List.mem_append.mp equals with theme | kind
  · exact equals_not_in_segment preview.1 theme
  · rcases List.mem_cons.mp kind with slash | kind
    · exact absurd slash (by decide)
    · exact equals_not_in_segment preview.2 kind

theorem equals_not_in_digest (query : Query) : '=' ∉ query.digest := by
  intro equals
  obtain ⟨value, small, digit⟩ := Sha256.hex_digits (List.mem_of_mem_take equals)
  have others : ∀ value < 16, '=' ≠ Nat.digitChar value := by decide
  exact others value small digit

theorem Silent.missing {α : Type} {write : α → List Char} (silent : Silent name rest) :
    Silent name (Cache.optional label write none ++ rest) :=
  silent

-- From the right: every part but the user's has another label.
theorem parts_silent {page : PageIdentity} (userless : page.user = none)
    (clean : ∀ digest ∈ page.parameters, '=' ∉ digest) :
    Silent "user".toList (writeParts page.parts) := by
  have spelled (part : Option String) : ∀ value ∈ part, '=' ∉ segment value :=
    fun value _ => equals_not_in_segment value
  unfold writeParts parts
  rw [userless]
  exact
    .optional (by decide) (spelled _) <|
    .optional (by decide) (spelled _) <|
    .optional (by decide) (spelled _) <|
    .optional (by decide) (spelled _) <|
    .optional (by decide) (fun tags _ => equals_not_in_tags tags.val) <|
    .optional (by decide) (spelled _) <|
    .missing <|
    .optional (by decide) (fun number _ => equals_not_in_decimal number) <|
    .optional (by decide) (fun preview _ => equals_not_in_preview preview) <|
    .optional (by decide) clean ⟨by decide, .inl rfl, by decide⟩

theorem equals_not_in_context (context : PageContext) : '=' ∉ context.name.toList := by
  cases context <;> decide

theorem text_unnamed {page : PageIdentity} (userless : page.user = none)
    (clean : ∀ digest ∈ page.parameters, '=' ∉ digest) : ¬ "user=".toList <:+: page.text := by
  have label : "user=".toList = "user".toList ++ ['='] := by decide
  have parts := parts_silent userless clean
  have context : Silent "user".toList
      ("/ctx=".toList ++ page.context.name.toList ++ writeParts page.parts) := by
    refine ⟨by decide, ?_, parts.before (by decide) (equals_not_in_context page.context)⟩
    rw [List.append_assoc]
    exact ends_labelled (by decide) _
  rw [label, text_parts, ← List.append_assoc, ← List.append_assoc "/ctx=".toList]
  exact context.before (by decide) (equals_not_in_segment page.handle)

end Labels

end PageIdentity

theorem digest_unnamed (descriptor : Descriptor) :
    ∀ digest ∈ (PageIdentity.of descriptor).parameters, '=' ∉ digest := by
  intro digest present
  unfold PageIdentity.of at present
  dsimp only at present
  split at present
  · cases present
  · cases present
    exact PageIdentity.equals_not_in_digest descriptor.parameters

theorem user_named_iff (descriptor : Descriptor) :
    "user=".toList <:+: (pageKey descriptor).toList ↔ descriptor.user.isSome = true := by
  have spelled : (pageKey descriptor).toList = (PageIdentity.of descriptor).text := String.toList_ofList
  rw [spelled]
  constructor
  · intro named
    cases user : (PageIdentity.of descriptor).user with
    | none => exact absurd named (PageIdentity.text_unnamed user (digest_unnamed descriptor))
    | some sender => exact Option.isSome_iff_exists.mpr ⟨sender, user⟩
  · intro present
    obtain ⟨sender, user⟩ := Option.isSome_iff_exists.mp present
    have labelled : PageIdentity.labelled "/user=" (PageIdentity.of descriptor).user =
        "/user=".toList ++ PageIdentity.segment sender :=
      congrArg (PageIdentity.labelled "/user=") user
    have label : "user=".toList <:+: "/user=".toList := by decide
    unfold PageIdentity.text
    rw [labelled]
    iterate 3 apply List.infix_append_of_infix_left
    exact List.infix_append_of_infix_right (List.infix_append_of_infix_left label)

end WeblogFront.Cache
