import WeblogFront.Proofs.Text.Cut
import WeblogFront.Proofs.Text.Octets
import WeblogFront.Request.Envelope

/-! The outer form of an address, said without the functions that read it: the slashes around it, the
segment that names the weblog, the locale and what is left for the view. Reading an address gives the
one way in which it has this form, and fails only where there is none. -/
namespace WeblogFront.Request

/-- A language of two octets, alone or with a country of two octets. -/
def LocaleText (text : List Char) : Prop :=
  ∃ language country, Text.Opens '_' language country text ∧ Text.octetLength language = 2 ∧
    ∀ code ∈ country, '_' ∉ code ∧ Text.octetLength code = 2

theorem is_locale_iff {text : List Char} :
    isLocale (String.ofList text) = true ↔ LocaleText text := by
  cases cut : Text.cutOnce '_' text with | mk language country =>
  have opens := Text.cut_eq_iff.mp cut
  have parts : LocaleText text ↔ Text.octetLength language = 2 ∧
      ∀ code ∈ country, '_' ∉ code ∧ Text.octetLength code = 2 := by
    constructor
    · rintro ⟨_, _, also, sized⟩
      cases cut.symm.trans (Text.cut_eq_iff.mpr also)
      exact sized
    · exact fun sized => ⟨language, country, opens, sized⟩
  rw [parts, isLocale, String.toList_ofList, Text.pieces_opens opens]
  cases country with
  | none => simp
  | some code =>
    cases more : Text.cutOnce '_' code with | mk first behind =>
    have opened := Text.cut_eq_iff.mp more
    rw [Option.map_some, Option.getD_some, Text.pieces_opens opened]
    cases behind with
    | none =>
      obtain ⟨clean, rfl⟩ := opened
      simp [clean]
    | some rest =>
      obtain ⟨_, rfl⟩ := opened
      obtain ⟨run, runs, parted⟩ := List.exists_cons_of_ne_nil (Text.pieces_ne_nil (· == '_') rest)
      simp [parted]

/-- The path without its wrapping: at most one slash in front, and then at most one at the end. -/
def Wraps (path inner : List Char) : Prop :=
  ∃ lead trail, path = lead ++ (inner ++ trail) ∧
    (lead = ['/'] ∨ lead = [] ∧ ¬ ['/'] <+: path) ∧
    (trail = ['/'] ∨ trail = [] ∧ ¬ ['/'] <:+ inner)

theorem unwrap_eq_iff {path inner : List Char} : unwrap path = inner ↔ Wraps path inner := by
  unfold unwrap Wraps
  rw [Text.drop_trail_eq_iff]
  constructor
  · rintro ⟨trail, dropped, ends⟩
    obtain ⟨lead, whole, opens⟩ := Text.drop_lead_eq_iff.mp dropped
    refine ⟨lead, trail, whole, opens, ?_⟩
    rcases ends with closed | ⟨rfl, untrailed⟩
    · exact .inl closed
    · rw [dropped, List.append_nil] at untrailed
      exact .inr ⟨rfl, untrailed⟩
  · rintro ⟨lead, trail, whole, opens, ends⟩
    have dropped := Text.drop_lead_eq_iff.mpr ⟨lead, whole, opens⟩
    refine ⟨trail, dropped, ?_⟩
    rcases ends with closed | ⟨rfl, untrailed⟩
    · exact .inl closed
    · rw [dropped, List.append_nil]
      exact .inr ⟨rfl, untrailed⟩

/-- Trimming keeps all that is printed, and each character has an octet at least. -/
theorem printed_le_octets (text : List Char) :
    (text.filter fun c => !Text.isBlank c).length ≤ Text.octetLength (Text.trim text) :=
  calc (text.filter fun c => !Text.isBlank c).length
      = ((Text.trim text).filter fun c => !Text.isBlank c).length := by
        rw [Text.trim, Text.trim_ends_keeps]
    _ ≤ (Text.trim text).length := List.length_filter_le _ _
    _ ≤ Text.octetLength (Text.trim text) := Text.length_le_octets _

def NamesWeblog (path : Option String) (handle : List Char) (below : Option (List Char)) : Prop :=
  ∃ text inner, path = some text ∧ 1 < Text.octetLength (Text.trim text.toList) ∧
    Wraps text.toList inner ∧ Text.Opens '/' handle below inner ∧ handle ≠ []

theorem names_weblog_iff {text : String} {handle : List Char} {below : Option (List Char)} :
    NamesWeblog (some text) handle below ↔
      1 < Text.octetLength (Text.trim text.toList) ∧
        Text.cutOnce '/' (unwrap text.toList) = (handle, below) ∧ handle ≠ [] := by
  rw [Text.cut_eq_iff]
  constructor
  · rintro ⟨_, inner, same, long, wraps, opens, named⟩
    cases same
    rw [unwrap_eq_iff.mpr wraps]
    exact ⟨long, opens, named⟩
  · rintro ⟨long, opens, named⟩
    exact ⟨text, _, rfl, long, unwrap_eq_iff.mp rfl, opens, named⟩

theorem not_names_weblog {handle : List Char} {below : Option (List Char)} :
    ¬ NamesWeblog none handle below := by
  rintro ⟨_, _, absent, _⟩
  cases absent

/-- Below the weblog there may be a locale, and after it there may be a path for the view. -/
inductive Leaves : Option (List Char) → Option (List Char) → Option (List Char) → Prop where
  | nothing : Leaves none none none
  | locale {below first : List Char} {behind : Option (List Char)}
      (opens : Text.Opens '/' first behind below) (named : LocaleText first) :
      Leaves (some below) (some first) behind
  | path {below first : List Char} {behind : Option (List Char)}
      (opens : Text.Opens '/' first behind below) (named : ¬ LocaleText first) :
      Leaves (some below) none (some below)

theorem leaves_some (below : List Char) : ∃ locale rest, Leaves (some below) locale rest := by
  cases cut : Text.cutOnce '/' below with | mk first behind =>
  have opens := Text.cut_eq_iff.mp cut
  by_cases named : LocaleText first
  · exact ⟨some first, behind, .locale opens named⟩
  · exact ⟨none, some below, .path opens named⟩

theorem leaves_split {below : List Char} {locale rest : Option (List Char)}
    (leaves : Leaves (some below) locale rest) :
    splitLocale below = (locale.map String.ofList, rest.map String.ofList) := by
  cases leaves with
  | locale opens named =>
    rw [splitLocale, Text.cut_eq_iff.mpr opens, if_pos (is_locale_iff.mpr named)]
    rfl
  | path opens named =>
    rw [splitLocale, Text.cut_eq_iff.mpr opens, if_neg (mt is_locale_iff.mp named)]
    rfl

def Envelope.ofParts (handle : List Char) (locale rest : Option (List Char)) : Envelope :=
  ⟨String.ofList handle, locale.map String.ofList, rest.map String.ofList⟩

theorem named_split {path : Option String} {handle : List Char} {below locale rest : Option (List Char)}
    (named : NamesWeblog path handle below) (leaves : Leaves below locale rest) :
    Envelope.split? path = some (.ofParts handle locale rest) := by
  cases path with
  | none => exact absurd named not_names_weblog
  | some text =>
    obtain ⟨long, cut, nonempty⟩ := names_weblog_iff.mp named
    obtain ⟨c, others, rfl⟩ := List.exists_cons_of_ne_nil nonempty
    unfold Envelope.split?
    dsimp only
    rw [if_neg (Nat.not_le.mpr long), cut]
    cases below with
    | none =>
      cases leaves
      rfl
    | some below =>
      dsimp only
      rw [leaves_split leaves, Envelope.ofParts]

theorem split_named {path : Option String} {envelope : Envelope}
    (split : Envelope.split? path = some envelope) :
    ∃ handle below locale rest, NamesWeblog path handle below ∧ Leaves below locale rest ∧
      envelope = .ofParts handle locale rest := by
  cases path with
  | none => cases split
  | some text =>
    simp only [names_weblog_iff]
    unfold Envelope.split? at split
    dsimp only at split
    split at split
    case isTrue => cases split
    case isFalse long =>
      have long := Nat.lt_of_not_le long
      split at split
      case h_1 => cases split
      case h_2 handle nonempty cut =>
        cases split
        exact ⟨handle, none, none, none, ⟨long, cut, nonempty⟩, .nothing, rfl⟩
      case h_3 handle below nonempty cut =>
        cases split
        obtain ⟨locale, rest, leaves⟩ := leaves_some below
        refine ⟨handle, some below, locale, rest, ⟨long, cut, nonempty⟩, leaves, ?_⟩
        rw [leaves_split leaves, Envelope.ofParts]

theorem split_eq_some_iff {path : Option String} {envelope : Envelope} :
    Envelope.split? path = some envelope ↔
      ∃ handle below locale rest, NamesWeblog path handle below ∧ Leaves below locale rest ∧
        envelope = .ofParts handle locale rest := by
  constructor
  · exact split_named
  · rintro ⟨handle, below, locale, rest, named, leaves, rfl⟩
    exact named_split named leaves

end WeblogFront.Request
