import WeblogFront.Proofs.Request.Classified
import WeblogFront.Proofs.Request.Tags

/-! Writing an address and reading it. An address is a weblog, a locale where one is wanted, and the
segments of a view, each behind a slash; the values in it are escaped like those of a cache key. What is
classified from such an address is what it was written for, whatever characters the values hold. -/
namespace WeblogFront.Request

section Segments

def slashed (segments : List (List Char)) : List Char :=
  segments.flatMap ('/' :: ·)

def path? : List (List Char) → Option (List Char)
  | [] => none
  | first :: rest => some (first ++ slashed rest)

def address (handle : String) (locale : Option String) (view : List (List Char)) : String :=
  String.ofList (slashed (handle.toList :: ((locale.map String.toList).toList ++ view)))

def Solid (segment : List Char) : Prop :=
  segment ≠ [] ∧ '/' ∉ segment

instance (segment : List Char) : Decidable (Solid segment) :=
  inferInstanceAs (Decidable (_ ∧ _))

theorem opens_path {first : List Char} (clean : '/' ∉ first) (rest : List (List Char)) :
    Text.Opens '/' first (path? rest) (first ++ slashed rest) := by
  cases rest with
  | nil => exact ⟨clean, List.append_nil first⟩
  | cons next more => exact ⟨clean, rfl⟩

theorem solid_unended {first : List Char} (solid : Solid first) {rest : List (List Char)}
    (others : ∀ segment ∈ rest, Solid segment) : ¬ ['/'] <:+ first ++ slashed rest := by
  induction rest generalizing first with
  | nil =>
    intro ends
    rw [slashed, List.flatMap_nil, List.append_nil] at ends
    exact solid.2 (ends.mem List.mem_cons_self)
  | cons next more ih =>
    obtain ⟨nextSolid, moreSolid⟩ := List.forall_mem_cons.mp others
    intro ends
    -- the end of the whole is the end of what follows the next slash
    have behind : next ++ slashed more <:+ first ++ slashed (next :: more) :=
      ⟨first ++ ['/'], by simp [slashed]⟩
    have something : ['/'].length ≤ (next ++ slashed more).length := by
      have filled := List.length_pos_of_ne_nil nextSolid.1
      rw [List.length_append, List.length_singleton]
      omega
    exact ih nextSolid moreSolid (List.suffix_of_suffix_length_le ends behind something)

theorem printed_length {rest : List Char} {c : Char} (member : c ∈ rest)
    (printed : Text.isBlank c = false) : 1 < Text.octetLength (Text.trim ('/' :: rest)) := by
  have kept : c ∈ rest.filter fun c => !Text.isBlank c := List.mem_filter.mpr ⟨member, by simp [printed]⟩
  calc 1 < (('/' :: rest).filter fun c => !Text.isBlank c).length := by
        rw [List.filter_cons_of_pos (by decide), List.length_cons]
        have filled := List.length_pos_of_mem kept
        omega
    _ ≤ Text.octetLength (Text.trim ('/' :: rest)) := printed_le_octets _

variable {handle : String} {locale : Option String} {view : List (List Char)}

def HandleText (handle : String) : Prop :=
  '/' ∉ handle.toList ∧ ∃ c ∈ handle.toList, Text.isBlank c = false

instance (handle : String) : Decidable (HandleText handle) :=
  @instDecidableAnd _ _ inferInstance (List.decidableBEx _ _)

theorem HandleText.solid (named : HandleText handle) : Solid handle.toList := by
  obtain ⟨clean, c, member, _⟩ := named
  exact ⟨List.ne_nil_of_mem member, clean⟩

theorem locale_solid {text : List Char} (clean : '/' ∉ text) (located : LocaleText text) : Solid text := by
  obtain ⟨language, country, ⟨_, written⟩, two, _⟩ := located
  have filled : language ≠ [] := by
    rintro rfl
    cases two
  refine ⟨?_, clean⟩
  cases country with
  | none =>
    rw [written]
    exact filled
  | some code =>
    rw [written]
    exact List.append_ne_nil_of_left_ne_nil filled _

theorem address_named {below : List (List Char)} (named : HandleText handle)
    (solid : ∀ segment ∈ below, Solid segment) :
    NamesWeblog (some (String.ofList (slashed (handle.toList :: below)))) handle.toList (path? below) := by
  obtain ⟨c, member, printed⟩ := named.2
  have whole : slashed (handle.toList :: below) = '/' :: (handle.toList ++ slashed below) := rfl
  refine ⟨_, handle.toList ++ slashed below, rfl, ?_, ?_, opens_path named.1 below, named.solid.1⟩
  · rw [String.toList_ofList, whole]
    exact printed_length (List.mem_append_left _ member) printed
  · rw [String.toList_ofList, whole]
    exact ⟨['/'], [], by simp, .inl rfl, .inr ⟨rfl, solid_unended named.solid solid⟩⟩

theorem address_leaves (located : ∀ text ∈ locale, '/' ∉ text.toList ∧ LocaleText text.toList)
    (kind : ∀ segment ∈ view.head?, '/' ∉ segment ∧ ¬ LocaleText segment) :
    Leaves (path? ((locale.map String.toList).toList ++ view)) (locale.map String.toList) (path? view) := by
  cases locale with
  | none =>
    cases view with
    | nil => exact .nothing
    | cons first rest =>
      obtain ⟨clean, other⟩ := kind first rfl
      exact .path (opens_path clean rest) other
  | some text =>
    obtain ⟨clean, language⟩ := located text rfl
    exact .locale (opens_path clean view) language

end Segments

section Destinations

open Cache.PageIdentity (joinTags segment)

inductive Destination where
  | entry (anchor : String)
  | category (name : String)
  | tags (tags : List String)
  | homepage (category : String)

namespace Destination

/-- The view that leads there; the category of a homepage is left to a parameter. -/
def view : Destination → List (List Char)
  | .entry anchor => ["entry".toList, segment anchor]
  | .category name => ["category".toList, segment name]
  | .tags listed => ["tags".toList, joinTags listed]
  | .homepage _ => []

/-- What an address and its parameters have to be, so that it can be written. -/
def Writable (tagLimit : Nat) (query : Query) : Destination → Prop
  | .entry anchor => anchor ≠ ""
  | .category name => name ≠ ""
  | .tags listed => listed ≠ [] ∧ listed.length ≤ tagLimit ∧ ∀ tag ∈ listed, TagText tag
  | .homepage name =>
    query.first? "cat" = some (String.ofList (segment name)) ∧ query.contains "entry" = false ∧
      query.contains "anchor" = false ∧ query.contains "date" = false

def Shows (descriptor : Descriptor) : Destination → Prop
  | .entry anchor => descriptor.context = .entry ∧ descriptor.anchor = some anchor
  | .category name => descriptor.context = .category ∧ descriptor.category = some name
  | .tags listed => descriptor.context = .tags ∧ descriptor.tags = some listed
  | .homepage name =>
    descriptor.context = .home ∧ descriptor.homepageHit = true ∧ descriptor.category = some name

end Destination

variable {classifier : Classifier} {raw : RawRequest} {handle : List Char}
  {below locale rest : Option (List Char)} {tagLimit : Nat} {query : Query}

theorem segment_solid {text : String} (nonempty : text ≠ "") : Solid (segment text) := by
  refine ⟨fun empty => nonempty ?_, Cache.PageIdentity.slash_not_in_segment text⟩
  exact Cache.PageIdentity.segment_inj (empty : segment text = segment "")

theorem join_tags_solid {tags : List String} (some : tags ≠ []) (single : ∀ tag ∈ tags, TagText tag) :
    Solid (joinTags tags) := by
  constructor
  · cases tags with
    | nil => exact absurd rfl some
    | cons tag rest =>
      have first := segment_solid (single tag List.mem_cons_self).1
      cases rest with
      | nil => exact first.1
      | cons next others => exact List.append_ne_nil_of_left_ne_nil first.1 _
  · intro slash
    rcases Cache.PageIdentity.mem_join_tags slash with plus | ⟨tag, _, inside⟩
    · exact absurd plus (by decide)
    · exact Cache.PageIdentity.slash_not_in_segment tag inside

theorem view_solid {destination : Destination} (writable : destination.Writable tagLimit query) :
    ∀ segment ∈ destination.view, Solid segment := by
  have pair {word value : List Char} (fixed : Solid word) (solid : Solid value) :
      ∀ segment ∈ [word, value], Solid segment :=
    List.forall_mem_cons.mpr ⟨fixed, List.forall_mem_singleton.mpr solid⟩
  cases destination with
  | entry anchor => exact pair (by decide) (segment_solid writable)
  | category name => exact pair (by decide) (segment_solid writable)
  | tags listed => exact pair (by decide) (join_tags_solid writable.1 writable.2.2)
  | homepage name => exact fun segment member => absurd member List.not_mem_nil

theorem word_no_locale {kind : String} (long : isLocale kind = false) : ¬ LocaleText kind.toList := by
  rw [← is_locale_iff, String.ofList_toList, long]
  exact Bool.false_ne_true

-- None of the words that open a view is as short as a locale.
theorem view_kind (destination : Destination) :
    ∀ segment ∈ destination.view.head?, '/' ∉ segment ∧ ¬ LocaleText segment := by
  intro segment opens
  cases destination with
  | entry anchor =>
    obtain rfl := Option.some.inj opens
    exact ⟨by decide, word_no_locale (by decide)⟩
  | category name =>
    obtain rfl := Option.some.inj opens
    exact ⟨by decide, word_no_locale (by decide)⟩
  | tags listed =>
    obtain rfl := Option.some.inj opens
    exact ⟨by decide, word_no_locale (by decide)⟩
  | homepage name => exact nomatch (show none = some segment from opens)

theorem place_query_category {placed : Descriptor} {url name : String} (unplaced : placed.anchor = none)
    (untagged : placed.tags = none) (entryless : query.contains "entry" = false)
    (anchorless : query.contains "anchor" = false) (undated : query.contains "date" = false)
    (written : query.first? "cat" = some name) :
    placeQuery placed query url = .ok { placed with category := some (Text.decode name) } := by
  rw [contains_eq_false_iff] at entryless anchorless undated
  rw [placeQuery, queryAnchor, entryless, anchorless]
  simp [unplaced, untagged, undated, written]

theorem view_selects {destination : Destination} (writable : destination.Writable tagLimit query) :
    (∃ name, destination = .homepage name) ∨
    ∃ path selection, path? destination.view = some path ∧ Selects tagLimit path selection ∧
      (∀ link, selection ≠ .page link) ∧ ∀ start, destination.Shows (place start query selection) := by
  have decoded (text : String) : Text.decode (String.ofList (segment text)) = text :=
    Text.decode_segment text
  have path (word value : List Char) : path? [word, value] = some (word ++ '/' :: value) := by
    simp [path?, slashed]
  cases destination with
  | homepage name => exact .inl ⟨name, rfl⟩
  | entry anchor =>
    have selects : Selects tagLimit ("entry".toList ++ '/' :: segment anchor) (.entry anchor) := by
      simpa only [decoded] using Selects.entry (segment anchor)
    exact .inr ⟨_, _, path _ _, selects, fun _ => Selection.noConfusion, fun _ => ⟨rfl, rfl⟩⟩
  | category name =>
    have selects : Selects tagLimit ("category".toList ++ '/' :: segment name) (.category name) := by
      simpa only [decoded] using Selects.category (segment name)
    exact .inr ⟨_, _, path _ _, selects, fun _ => Selection.noConfusion, fun _ => ⟨rfl, rfl⟩⟩
  | tags listed =>
    obtain ⟨_, few, single⟩ := writable
    have read := split_join_tags single
    have selects : Selects tagLimit ("tags".toList ++ '/' :: joinTags listed) (.tags listed) := by
      have within : (splitTags (Text.decode (String.ofList (joinTags listed)))).length ≤ tagLimit := by
        rwa [read]
      have taken : Selects tagLimit ("tags".toList ++ '/' :: joinTags listed) _ := .tags within
      rwa [read] at taken
    exact .inr ⟨_, _, path _ _, selects, fun _ => Selection.noConfusion, fun _ => ⟨rfl, rfl⟩⟩

/-- Whatever the weblog, the locale and the values are, and whoever asks with whatever other parameters:
an address that is written for a destination is accepted, and what is classified from it shows the
weblog, the locale and the destination. -/
theorem classify_written {handle : String} {locale : Option String} {destination : Destination}
    (named : HandleText handle) (located : ∀ text ∈ locale, '/' ∉ text.toList ∧ isLocale text = true)
    (writable : destination.Writable tagLimit query) (principal : Option String) :
    ∃ descriptor,
      (Classifier.page tagLimit).classify
        ⟨Profile.page.mount, some (address handle locale destination.view), query, principal⟩ =
          .ok descriptor ∧
      descriptor.handle = handle ∧ descriptor.locale = locale ∧ destination.Shows descriptor := by
  have localeText : ∀ text ∈ locale, '/' ∉ text.toList ∧ LocaleText text.toList := by
    intro text present
    obtain ⟨clean, accepted⟩ := located text present
    exact ⟨clean, is_locale_iff.mp (by rwa [String.ofList_toList])⟩
  have solid : ∀ segment ∈ (locale.map String.toList).toList ++ destination.view, Solid segment := by
    intro segment member
    rcases List.mem_append.mp member with language | inView
    · obtain ⟨text, present, rfl⟩ := Option.map_eq_some_iff.mp (Option.mem_toList.mp language)
      exact locale_solid (localeText text present).1 (localeText text present).2
    · exact view_solid writable segment inView
  have names := address_named named solid
  have leaves := address_leaves localeText (view_kind destination)
  have handled : String.ofList handle.toList = handle := String.ofList_toList
  have localed : (locale.map String.toList).map String.ofList = locale := by
    cases locale <;> simp
  let raw : RawRequest :=
    ⟨Profile.page.mount, some (address handle locale destination.view), query, principal⟩
  rcases view_selects writable with ⟨name, rfl⟩ | ⟨path, selection, written, selects, other, shows⟩
  · obtain ⟨category, entryless, anchorless, undated⟩ := writable
    have read : (Classifier.page tagLimit).classify raw = _ := classify_home rfl names leaves nofun
    refine ⟨_, read.trans (place_query_category rfl rfl entryless anchorless undated category), handled,
      localed, rfl, rfl, ?_⟩
    exact congrArg some (Text.decode_segment name)
  · rw [written] at leaves
    have read : (Classifier.page tagLimit).classify raw = _ :=
      classify_selected rfl names leaves selects other
    refine ⟨_, read, ?_, ?_, shows _⟩
    · exact (congrArg Descriptor.handle (place_outline selection)).trans handled
    · exact (congrArg Descriptor.locale (place_outline selection)).trans localed

-- Slashes, signs, a blank and a character of three octets in the tags, one of them twice.
theorem signed_tags_written :
    let tags := ["a/b", "50%+1", "日本", "a/b"]
    address "my blog" (some "pt_BR") (Destination.tags tags).view =
      "/my blog/pt_BR/tags/a%2Fb+50%25%2B1+%E6%97%A5%E6%9C%AC+a%2Fb" ∧
    ∃ descriptor,
      (Classifier.page 4).classify
        ⟨"/roller-ui/rendering/page",
          some "/my blog/pt_BR/tags/a%2Fb+50%25%2B1+%E6%97%A5%E6%9C%AC+a%2Fb", .empty, none⟩ =
            .ok descriptor ∧
      descriptor.handle = "my blog" ∧ descriptor.locale = some "pt_BR" ∧ descriptor.context = .tags ∧
      descriptor.tags = some tags := by
  intro tags
  have written : address "my blog" (some "pt_BR") (Destination.tags tags).view =
      "/my blog/pt_BR/tags/a%2Fb+50%25%2B1+%E6%97%A5%E6%9C%AC+a%2Fb" := by
    decide +kernel
  have writable : (Destination.tags tags).Writable 4 .empty :=
    ⟨by decide, by decide, by decide +kernel⟩
  have named : HandleText "my blog" := by decide +kernel
  have located : ∀ text ∈ some "pt_BR", '/' ∉ text.toList ∧ isLocale text = true := by decide +kernel
  have read := classify_written named located writable none
  rw [written] at read
  exact ⟨written, read⟩

end Destinations

end WeblogFront.Request
