import WeblogFront.Proofs.Request.Envelope
import Mathlib.Data.List.TakeWhile

/-! The parts of an address against its text. Joined with slashes, the parts are the address without its
wrapping, so that nothing is lost; and there is only one way to take an address apart like this, because
the first segment below the weblog is the locale whenever it can be one. -/
namespace WeblogFront.Request

section Joining

def firstSegment (text : List Char) : List Char :=
  text.takeWhile (· != '/')

def Envelope.joined (envelope : Envelope) : List Char :=
  ['/'].intercalate
    ((envelope.handle :: (envelope.locale.toList ++ envelope.rest.toList)).map String.toList)

/-- The parts spell this path: none of it is lost, and each of them is what it is taken for. -/
structure Envelope.Spells (envelope : Envelope) (inner : List Char) : Prop where
  handle : envelope.handle ≠ "" ∧ '/' ∉ envelope.handle.toList
  whole : envelope.joined = inner
  locale : ∀ locale, envelope.locale = some locale → '/' ∉ locale.toList ∧ isLocale locale = true
  view : envelope.locale = none → ∀ rest, envelope.rest = some rest →
    isLocale (String.ofList (firstSegment rest.toList)) = false

/-- A path that names no weblog: it is absent, or next to nothing is printed of it, or it has nothing up to
its first slash once it is unwrapped. -/
def Nameless : Option String → Prop
  | none => True
  | some text => Text.octetLength (Text.trim text.toList) ≤ 1 ∨
      ∃ inner, Wraps text.toList inner ∧ firstSegment inner = []

variable {text inner first : List Char} {behind : Option (List Char)} {envelope : Envelope}

theorem first_segment_opens (opens : Text.Opens '/' first behind text) : firstSegment text = first := by
  obtain ⟨clean, written⟩ := opens
  have kept : ∀ c ∈ first, (c != '/') = true :=
    fun c member => bne_iff_ne.mpr (ne_of_mem_of_not_mem member clean)
  unfold firstSegment
  cases behind with
  | none =>
    rw [written]
    exact List.takeWhile_eq_self_iff.mpr kept
  | some rest =>
    rw [written, List.takeWhile_append_of_pos kept, List.takeWhile_cons_of_neg (by simp), List.append_nil]

theorem opens_first_segment (text : List Char) :
    ∃ behind, Text.Opens '/' (firstSegment text) behind text := by
  have opens := Text.cut_eq_iff.mp (rfl : Text.cutOnce '/' text = _)
  rw [← first_segment_opens opens] at opens
  exact ⟨_, opens⟩

theorem of_parts_spells {handle : List Char} {below locale rest : Option (List Char)}
    (opens : Text.Opens '/' handle below inner) (nonempty : handle ≠ [])
    (leaves : Leaves below locale rest) : (Envelope.ofParts handle locale rest).Spells inner := by
  obtain ⟨clean, written⟩ := opens
  have named : String.ofList handle ≠ "" ∧ '/' ∉ (String.ofList handle).toList := by
    rw [String.toList_ofList]
    exact ⟨fun empty => nonempty (String.ofList_injective empty), clean⟩
  cases leaves with
  | nothing =>
    constructor
    case handle => exact named
    case whole => simp [Envelope.joined, Envelope.ofParts, written]
    case locale => rintro _ ⟨⟩
    case view => rintro _ _ ⟨⟩
  | @locale below first _ opens located =>
    obtain ⟨slashless, spelled⟩ := opens
    constructor
    case handle => exact named
    case whole => cases rest <;> simp [Envelope.joined, Envelope.ofParts, written, spelled]
    case locale =>
      rintro _ ⟨⟩
      rw [String.toList_ofList]
      exact ⟨slashless, is_locale_iff.mpr located⟩
    case view => rintro ⟨⟩
  | @path below first behind opens unlocated =>
    constructor
    case handle => exact named
    case whole => simp [Envelope.joined, Envelope.ofParts, written]
    case locale => rintro _ ⟨⟩
    case view =>
      rintro _ _ ⟨⟩
      rw [String.toList_ofList, first_segment_opens opens]
      exact eq_false_of_ne_true (mt is_locale_iff.mp unlocated)

theorem spells_parts (spells : envelope.Spells inner) :
    ∃ handle below locale rest, Text.Opens '/' handle below inner ∧ handle ≠ [] ∧
      Leaves below locale rest ∧ envelope = .ofParts handle locale rest := by
  obtain ⟨handle, locale, rest⟩ := envelope
  obtain ⟨⟨nonempty, clean⟩, whole, located, view⟩ := spells
  have filled : handle.toList ≠ [] := fun empty => nonempty (String.toList_eq_nil_iff.mp empty)
  have same : Envelope.mk handle locale rest =
      .ofParts handle.toList (locale.map String.toList) (rest.map String.toList) := by
    cases locale <;> cases rest <;> simp [Envelope.ofParts]
  cases locale with
  | none =>
    cases rest with
    | none =>
      refine ⟨_, none, _, _, ⟨clean, ?_⟩, filled, .nothing, same⟩
      simpa [Envelope.joined] using whole.symm
    | some rest =>
      obtain ⟨behind, opens⟩ := opens_first_segment rest.toList
      have unlocated : ¬ LocaleText (firstSegment rest.toList) := by
        rw [← is_locale_iff, view rfl rest rfl]
        exact Bool.false_ne_true
      refine ⟨_, some rest.toList, _, _, ⟨clean, ?_⟩, filled, .path opens unlocated, same⟩
      simpa [Envelope.joined] using whole.symm
  | some locale =>
    obtain ⟨slashless, language⟩ := located locale rfl
    rw [← String.ofList_toList (s := locale), is_locale_iff] at language
    cases rest with
    | none =>
      have opens : Text.Opens '/' locale.toList none locale.toList := ⟨slashless, rfl⟩
      refine ⟨_, some locale.toList, _, _, ⟨clean, ?_⟩, filled, .locale opens language, same⟩
      simpa [Envelope.joined] using whole.symm
    | some rest =>
      have opens : Text.Opens '/' locale.toList (some rest.toList) (locale.toList ++ '/' :: rest.toList) :=
        ⟨slashless, rfl⟩
      refine ⟨_, some (locale.toList ++ '/' :: rest.toList), _, _, ⟨clean, ?_⟩, filled,
        .locale opens language, same⟩
      simpa [Envelope.joined] using whole.symm

theorem split_eq_some_iff_spells {path : Option String} :
    Envelope.split? path = some envelope ↔
      ∃ text inner, path = some text ∧ 1 < Text.octetLength (Text.trim text.toList) ∧
        Wraps text.toList inner ∧ envelope.Spells inner := by
  rw [split_eq_some_iff]
  constructor
  · rintro ⟨handle, below, locale, rest, ⟨text, inner, here, long, wraps, opens, named⟩, leaves, rfl⟩
    exact ⟨text, inner, here, long, wraps, of_parts_spells opens named leaves⟩
  · rintro ⟨text, inner, here, long, wraps, spells⟩
    obtain ⟨handle, below, locale, rest, opens, named, leaves, same⟩ := spells_parts spells
    exact ⟨handle, below, locale, rest, ⟨text, inner, here, long, wraps, opens, named⟩, leaves, same⟩

theorem split_eq_none_iff {path : Option String} : Envelope.split? path = none ↔ Nameless path := by
  cases path with
  | none => exact iff_of_true rfl trivial
  | some text =>
    rw [Option.eq_none_iff_forall_ne_some]
    constructor
    · intro fails
      by_contra named
      obtain ⟨long, filled⟩ := not_or.mp named
      have wraps : Wraps text.toList (unwrap text.toList) := unwrap_eq_iff.mp rfl
      obtain ⟨below, opens⟩ := opens_first_segment (unwrap text.toList)
      have nonempty : firstSegment (unwrap text.toList) ≠ [] := fun empty => filled ⟨_, wraps, empty⟩
      obtain ⟨locale, rest, leaves⟩ : ∃ locale rest, Leaves below locale rest := by
        cases below with
        | none => exact ⟨none, none, .nothing⟩
        | some below => exact leaves_some below
      have spells := of_parts_spells opens nonempty leaves
      exact fails _ (split_eq_some_iff_spells.mpr ⟨text, _, rfl, Nat.lt_of_not_le long, wraps, spells⟩)
    · intro nameless envelope split
      obtain ⟨_, inner, ⟨⟩, long, wraps, spells⟩ := split_eq_some_iff_spells.mp split
      obtain ⟨handle, _, _, _, opens, nonempty, _⟩ := spells_parts spells
      rcases nameless with short | ⟨other, alsoWraps, empty⟩
      · exact Nat.not_le.mpr long short
      · rw [← unwrap_eq_iff.mpr alsoWraps, unwrap_eq_iff.mpr wraps, first_segment_opens opens] at empty
        exact nonempty empty

end Joining

section TrailingSlash

variable {text inner : List Char}

theorem trim_blank (blank : ∀ c ∈ text, Text.isBlank c = true) : Text.trim text = [] := by
  rw [Text.trim, Text.trimEnds, List.dropWhile_eq_nil_iff.2 blank]
  rfl

/-- A slash is printed, so that a path with one behind it has at least as much as it needs. -/
theorem slash_lengthens (long : 1 < Text.octetLength (Text.trim text)) :
    1 < Text.octetLength (Text.trim (text ++ ['/'])) := by
  have printed : text.filter (fun c => !Text.isBlank c) ≠ [] := by
    intro nothing
    have blank : ∀ c ∈ text, Text.isBlank c = true := by simpa using nothing
    rw [trim_blank blank] at long
    exact absurd long (by decide)
  calc 1 < ((text ++ ['/']).filter fun c => !Text.isBlank c).length := by
        rw [List.filter_append, List.length_append,
          show (['/'].filter fun c => !Text.isBlank c).length = 1 from by decide]
        have filled := List.length_pos_of_ne_nil printed
        omega
    _ ≤ Text.octetLength (Text.trim (text ++ ['/'])) := printed_le_octets _

theorem wraps_slash (filled : text ≠ []) (open_ : ¬ ['/'] <:+ text) (wraps : Wraps text inner) :
    Wraps (text ++ ['/']) inner := by
  obtain ⟨lead, trail, whole, leads, ends⟩ := wraps
  rcases ends with rfl | ⟨rfl, _⟩
  · exact absurd ⟨lead ++ inner, by rw [whole, List.append_assoc]⟩ open_
  · refine ⟨lead, ['/'], by rw [whole]; simp, ?_, .inl rfl⟩
    rcases leads with led | ⟨unled, starts⟩
    · exact .inl led
    · refine .inr ⟨unled, fun also => starts ?_⟩
      obtain ⟨c, others, rfl⟩ := List.exists_cons_of_ne_nil filled
      exact (List.cons_prefix_cons.mp also).1 ▸ List.cons_prefix_cons.mpr ⟨rfl, List.nil_prefix⟩

theorem split_slash {text : String} {envelope : Envelope} (open_ : ¬ ['/'] <:+ text.toList)
    (split : Envelope.split? (some text) = some envelope) :
    Envelope.split? (some (text ++ "/")) = some envelope := by
  obtain ⟨_, inner, ⟨⟩, long, wraps, spells⟩ := split_eq_some_iff_spells.mp split
  have filled : text.toList ≠ [] := by
    intro empty
    rw [empty] at long
    exact absurd long (by decide)
  have longer : (text ++ "/").toList = text.toList ++ ['/'] := String.toList_append
  refine split_eq_some_iff_spells.mpr ⟨_, inner, rfl, ?_, ?_, spells⟩
  · rw [longer]
    exact slash_lengthens long
  · rw [longer]
    exact wraps_slash filled open_ wraps

end TrailingSlash

section Reading

variable {raw : RawRequest}

theorem read_eq_ok_iff {envelope : Envelope} :
    Envelope.read raw = .ok envelope ↔ Envelope.split? raw.path = some envelope := by
  unfold Envelope.read
  cases Envelope.split? raw.path <;> simp

theorem read_eq_error_iff {rejection : Rejection} :
    Envelope.read raw = .error rejection ↔
      Envelope.split? raw.path = none ∧ rejection = .missingWeblog raw.url := by
  unfold Envelope.read
  cases Envelope.split? raw.path <;> simp [eq_comm]

/-- Reading an envelope fails for want of a weblog, and only on a path that names none. What it reads
spells the path without its wrapping, and nothing else does; and a slash behind a path that has none
changes nothing in it. -/
theorem envelope_spells_path (raw : RawRequest) :
    (∀ rejection, Envelope.read raw = .error rejection ↔
      Nameless raw.path ∧ rejection = .missingWeblog raw.url) ∧
    (∀ envelope, Envelope.read raw = .ok envelope ↔
      ∃ text inner, raw.path = some text ∧ 1 < Text.octetLength (Text.trim text.toList) ∧
        Wraps text.toList inner ∧ envelope.Spells inner) ∧
    ∀ text envelope, raw.path = some text → ¬ ['/'] <:+ text.toList →
      Envelope.read raw = .ok envelope →
        Envelope.read { raw with path := some (text ++ "/") } = .ok envelope := by
  refine ⟨?_, ?_, ?_⟩
  · intro rejection
    rw [read_eq_error_iff, split_eq_none_iff]
  · intro envelope
    rw [read_eq_ok_iff, split_eq_some_iff_spells]
  · intro text envelope here open_ read
    rw [read_eq_ok_iff] at read ⊢
    rw [here] at read
    exact split_slash open_ read

-- The weblog has blanks for a name, and the segment behind the locale is empty; both are kept.
theorem blank_weblog_spelled :
    let raw (path : String) : RawRequest := ⟨"/page", some path, .empty, none⟩
    let envelope : Envelope := ⟨"  ", some "en_US", some "/entry"⟩
    Envelope.read (raw "/  /en_US//entry") = .ok envelope ∧
      ¬ ['/'] <:+ "/  /en_US//entry".toList ∧ envelope.Spells "  /en_US//entry".toList ∧
      Envelope.read (raw "/  /en_US//entry/") = .ok envelope ∧
      Nameless (some "//entry") ∧
      Envelope.read (raw "//entry") = .error (.missingWeblog "/page//entry") := by
  intro raw envelope
  obtain ⟨_, spelled, slashed⟩ := envelope_spells_path (raw "/  /en_US//entry")
  have read : Envelope.read (raw "/  /en_US//entry") = .ok envelope := by decide +kernel
  have unslashed : ¬ ['/'] <:+ "/  /en_US//entry".toList := by decide +kernel
  obtain ⟨_, inner, ⟨⟩, _, wraps, spells⟩ := (spelled envelope).mp read
  have inside : inner = "  /en_US//entry".toList := by
    rw [← unwrap_eq_iff.mpr wraps]
    decide +kernel
  have refused : Envelope.read (raw "//entry") = .error (.missingWeblog "/page//entry") := by
    decide +kernel
  exact ⟨read, unslashed, inside ▸ spells, slashed _ envelope rfl unslashed read,
    (((envelope_spells_path (raw "//entry")).1 _).mp refused).1, refused⟩

end Reading

end WeblogFront.Request
