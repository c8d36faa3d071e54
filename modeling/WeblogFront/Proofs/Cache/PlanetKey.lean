import WeblogFront.Cache.PlanetKey
import WeblogFront.Proofs.Cache.PageKey

/-! The key of a planet view holds its texts as they are. Two requests that ask for different views share
a key exactly when a text of one of them goes on where the other one has a separator and a label; the
four ways to do so are spelled out here. -/
namespace WeblogFront

namespace PlanetRequest

structure Addressed (request : PlanetRequest) : Prop where
  context : request.context = contextName
  kind : '/' ∉ request.kind.toList
  flavor : ∀ flavor ∈ request.flavor, '/' ∉ flavor.toList

-- The path is cut at its first slash, and a flavor with another one refuses the whole path.
theorem split_path_slashless {path kind : String} {flavor : Option String}
    (split : splitPath? path = some (kind, flavor)) :
    '/' ∉ kind.toList ∧ ∀ name ∈ flavor, '/' ∉ name.toList := by
  have clean := Text.cut_left_clean '/' (Text.trimEnds (· == '/') path.toList)
  unfold splitPath? at split
  split at split
  · cases split
  · rename_i cut
    rw [cut] at clean
    cases split
    exact ⟨by simpa using clean, by simp⟩
  · rename_i _ name _ cut
    rw [cut] at clean
    split_ifs at split with malformed
    cases split
    have slashless : '/' ∉ name := by
      intro member
      exact malformed (by simp [member])
    exact ⟨by simpa using clean, by simpa using slashless⟩

theorem addressed_of_parts {path : String} {query : Query} {principal : Option String}
    {request : PlanetRequest} (asked : ofParts? path query principal = some request) :
    request.Addressed := by
  obtain ⟨parts, split, rfl⟩ := Option.map_eq_some_iff.mp asked
  obtain ⟨kind, flavor⟩ := split_path_slashless split
  exact ⟨rfl, kind, flavor⟩

end PlanetRequest

namespace Cache

/-- The two requests ask for one view, as far as the key is meant to tell. -/
structure SamePlanetView (left right : PlanetRequest) : Prop where
  kind : left.kind = right.kind
  flavor : left.flavor = right.flavor
  language : left.language = right.language
  group : left.group = right.group
  excerpts : left.flavor.isSome → left.excerpts = right.excerpts
  user : left.flavor = none → left.user = right.user

theorem SamePlanetView.symm {left right : PlanetRequest} (same : SamePlanetView left right) :
    SamePlanetView right left where
  kind := same.kind.symm
  flavor := same.flavor.symm
  language := same.language.symm
  group := same.group.symm
  excerpts feed := (same.excerpts (same.flavor ▸ feed)).symm
  user page := (same.user (same.flavor ▸ page)).symm

section Text

def mark : Bool → Option Unit
  | true => some ()
  | false => none

theorem mark_inj {left right : Bool} (same : mark left = mark right) : left = right := by
  cases left <;> cases right <;> first | rfl | cases same

def excerptsText (request : PlanetRequest) : List Char :=
  optional "/excerpts" (fun _ : Unit => []) (mark request.excerpts)

def readerText (request : PlanetRequest) : List Char :=
  optional "/user=" String.toList request.user

def groupText (request : PlanetRequest) : List Char :=
  optional "/group=" String.toList request.group

def ending (request : PlanetRequest) : List Char :=
  (if request.flavor.isSome then excerptsText request else readerText request) ++ groupText request

def viewText (request : PlanetRequest) : List Char :=
  match request.flavor with
  | some flavor => flavor.toList ++ '/' :: (request.language.toList ++ ending request)
  | none => request.language.toList ++ ending request

theorem planet_key_text (request : PlanetRequest) :
    (planetKey request).toList =
      planetId.toList ++ (":".toList ++ (request.context.toList ++
        '/' :: (request.kind.toList ++ '/' :: viewText request))) := by
  -- the slash and the empty text are computed; the labels stay as they are written
  have slash (rest : List Char) : "/".toList ++ rest = '/' :: rest := rfl
  have empty : "".toList = [] := rfl
  obtain ⟨context, kind, flavor, language, excerpts, user, group⟩ := request
  unfold planetKey viewText ending excerptsText readerText groupText mark optional
  cases flavor with
  | none =>
    cases user <;> cases group <;>
      simp only [String.toList_append, Option.isSome_none, Bool.false_eq_true, if_false, slash, empty,
        List.append_assoc, List.cons_append, List.nil_append, List.append_nil]
  | some flavor =>
    cases excerpts <;> cases group <;>
      simp only [String.toList_append, Option.isSome_some, Bool.false_eq_true, if_true, if_false, slash,
        empty, List.append_assoc, List.cons_append, List.nil_append, List.append_nil]

theorem group_continues (request : PlanetRequest) : Continues ["/group="] (groupText request) := by
  unfold groupText
  cases request.group with
  | none => exact .inl rfl
  | some group => exact .inr ⟨"/group=", List.mem_cons_self, List.prefix_append _ _⟩

theorem ending_ends (request : PlanetRequest) : Text.Ends '/' (ending request) := by
  have group := continues_ends (by decide) (group_continues request)
  unfold ending excerptsText readerText
  split
  · cases request.excerpts with
    | false => exact group
    | true =>
      rw [mark, optional, List.append_assoc]
      exact ends_labelled (by decide) _
  · cases request.user with
    | none => exact group
    | some user =>
      rw [optional, List.append_assoc]
      exact ends_labelled (by decide) _

theorem feed_layout : Layout (fun parts : Option Unit × Option String × Unit =>
    optional "/excerpts" (fun _ => []) parts.1 ++ (optional "/group=" String.toList parts.2.1 ++ []))
    ["/excerpts", "/group="] :=
  have mark : Legible (fun _ : Unit => []) ["/group="] := fun _ _ same => ⟨rfl, same⟩
  .cons (fun _ => mark) (by decide) <|
  .cons (fun _ => legible_last String.toList_inj.mp) (by decide) .nil

-- A feed has no text of its own choice before the group, so its ending hides nothing.
theorem feed_ending_inj {left right : PlanetRequest} (leftFeed : left.flavor.isSome)
    (rightFeed : right.flavor.isSome) (same : ending left = ending right) :
    left.excerpts = right.excerpts ∧ left.group = right.group := by
  unfold ending at same
  rw [if_pos leftFeed, if_pos rightFeed] at same
  have parts : (mark left.excerpts, left.group, ()) = (mark right.excerpts, right.group, ()) := by
    apply feed_layout.injective
    simpa only [excerptsText, groupText, List.append_nil] using same
  simp only [Prod.mk.injEq] at parts
  obtain ⟨marks, groups, _⟩ := parts
  exact ⟨mark_inj marks, groups⟩

end Text

section Forgery

/-- The name of one reader ends with what the other request writes behind its reader. -/
def ReaderSwallows (forger other : PlanetRequest) : Prop :=
  ∃ (longer user : String) (swallowed : List Char), swallowed ≠ [] ∧
    forger.user = some longer ∧ other.user = some user ∧
    longer.toList = user.toList ++ swallowed ∧ groupText other = swallowed ++ groupText forger

/-- How a request comes by the key of another view. -/
inductive Forges (forger other : PlanetRequest) : Prop where
  /-- Its language ends with what the other request writes behind its language. -/
  | language (kind : forger.kind = other.kind) (flavor : forger.flavor = other.flavor)
      (swallowed : List Char) (nonempty : swallowed ≠ [])
      (longer : forger.language.toList = other.language.toList ++ swallowed)
      (rest : ending other = swallowed ++ ending forger)
  /-- Its reader is named like the other one, with a group in the name. -/
  | reader (kind : forger.kind = other.kind) (forgerPage : forger.flavor = none)
      (otherPage : other.flavor = none) (language : forger.language = other.language)
      (swallows : ReaderSwallows forger other)
  /-- Its language holds the flavor of the other one, a slash, and what goes on like the other language. -/
  | flavor (kind : forger.kind = other.kind) (forgerPage : forger.flavor = none) (name : String)
      (otherFeed : other.flavor = some name) (more : List Char)
      (longer : forger.language.toList = name.toList ++ '/' :: more)
      (rest : other.language.toList ++ ending other = more ++ ending forger)
  /-- Its language is the flavor of the other one, whose language reads like the label of a reader or a
  group. -/
  | label (kind : forger.kind = other.kind) (forgerPage : forger.flavor = none)
      (otherFeed : other.flavor = some forger.language)
      (rest : ending forger = '/' :: (other.language.toList ++ ending other))

theorem forged_key {forger other : PlanetRequest} (context : forger.context = other.context)
    (forges : Forges forger other) : planetKey forger = planetKey other := by
  have kind : forger.kind = other.kind := by cases forges <;> assumption
  have view : viewText forger = viewText other := by
    cases forges with
    | language _ flavor swallowed _ longer rest =>
      have tails : forger.language.toList ++ ending forger = other.language.toList ++ ending other := by
        rw [longer, rest, List.append_assoc]
      unfold viewText
      rw [flavor, tails]
    | reader _ forgerPage otherPage language swallows =>
      obtain ⟨longer, user, swallowed, _, forgerUser, otherUser, text, rest⟩ := swallows
      have endings : ending forger = ending other := by
        simp only [ending, forgerPage, otherPage, readerText, forgerUser, otherUser, optional, rest, text,
          Option.isSome_none, Bool.false_eq_true, if_false, List.append_assoc]
      unfold viewText
      rw [forgerPage, otherPage, language, endings]
    | flavor _ forgerPage name otherFeed more longer rest =>
      unfold viewText
      rw [forgerPage, otherFeed]
      dsimp only
      rw [longer, rest, List.append_assoc, List.cons_append]
    | label _ forgerPage otherFeed rest =>
      unfold viewText
      rw [forgerPage, otherFeed]
      dsimp only
      rw [rest]
  rw [← String.toList_inj, planet_key_text, planet_key_text, context, kind, view]

theorem forged_view_differs {forger other : PlanetRequest} (forges : Forges forger other) :
    ¬ SamePlanetView forger other := by
  intro same
  cases forges with
  | language _ _ swallowed nonempty longer _ =>
    rw [same.language, List.self_eq_append_right] at longer
    exact nonempty longer
  | reader _ forgerPage _ _ swallows =>
    obtain ⟨longer, user, swallowed, nonempty, forgerUser, otherUser, text, _⟩ := swallows
    have users := same.user forgerPage
    rw [forgerUser, otherUser] at users
    cases users
    exact nonempty (List.self_eq_append_right.mp text)
  | flavor _ forgerPage name otherFeed _ _ _ =>
    have flavors := same.flavor
    rw [forgerPage, otherFeed] at flavors
    cases flavors
  | label _ forgerPage otherFeed _ =>
    have flavors := same.flavor
    rw [forgerPage, otherFeed] at flavors
    cases flavors

theorem key_view_text {left right : PlanetRequest} (leftAsked : left.Addressed)
    (rightAsked : right.Addressed) (same : planetKey left = planetKey right) :
    left.kind = right.kind ∧ viewText left = viewText right := by
  have text := congrArg String.toList same
  rw [planet_key_text, planet_key_text, leftAsked.context, rightAsked.context,
    List.append_cancel_left_eq, List.append_cancel_left_eq, List.append_cancel_left_eq,
    List.cons.injEq] at text
  obtain ⟨kind, views⟩ := Text.clean_append_inj leftAsked.kind rightAsked.kind (.inr ⟨_, rfl⟩)
    (.inr ⟨_, rfl⟩) text.2
  exact ⟨String.toList_inj.mp kind, (List.cons.inj views).2⟩

theorem swallow_cases {left right leftRest rightRest : List Char}
    (same : left ++ leftRest = right ++ rightRest) :
    (left = right ∧ leftRest = rightRest) ∨
    (∃ swallowed, swallowed ≠ [] ∧ left = right ++ swallowed ∧ rightRest = swallowed ++ leftRest) ∨
    (∃ swallowed, swallowed ≠ [] ∧ right = left ++ swallowed ∧ leftRest = swallowed ++ rightRest) := by
  rcases List.append_eq_append_iff.mp same with ⟨more, longer, rest⟩ | ⟨more, longer, rest⟩
  · by_cases empty : more = []
    · subst empty
      exact .inl ⟨by rw [longer, List.append_nil], rest⟩
    · exact .inr (.inr ⟨more, empty, longer, rest⟩)
  · by_cases empty : more = []
    · subst empty
      exact .inl ⟨by rw [longer, List.append_nil], rest.symm⟩
    · exact .inr (.inl ⟨more, empty, longer, rest⟩)

theorem group_text_inj {left right : PlanetRequest} (same : groupText left = groupText right) :
    left.group = right.group := by
  have last : Legible String.toList [] := legible_last String.toList_inj.mp
  have part : Legible (optional "/group=" String.toList) [] := last.optional (by decide)
  exact (part (.inl rfl) (.inl rfl) (congrArg (· ++ []) same)).1

-- Only a reader's name stands before the group of a page, and it may run into it.
theorem page_ending_cases {left right : PlanetRequest} (leftPage : left.flavor = none)
    (rightPage : right.flavor = none) (same : ending left = ending right) :
    (left.user = right.user ∧ left.group = right.group) ∨
      ReaderSwallows left right ∨ ReaderSwallows right left := by
  have apart : Apart "/user=" ["/group="] := by decide
  simp only [ending, leftPage, rightPage, Option.isSome_none, Bool.false_eq_true, if_false, readerText]
    at same
  cases leftUser : left.user with
  | none =>
    cases rightUser : right.user with
    | none =>
      rw [leftUser, rightUser] at same
      exact .inl ⟨rfl, group_text_inj same⟩
    | some user =>
      rw [leftUser, rightUser, optional, optional, List.append_assoc] at same
      exact absurd same (labelled_not_continuing apart (group_continues left))
  | some user =>
    cases rightUser : right.user with
    | none =>
      rw [leftUser, rightUser, optional, optional, List.append_assoc] at same
      exact absurd same.symm (labelled_not_continuing apart (group_continues right))
    | some other =>
      rw [leftUser, rightUser, optional, optional, List.append_assoc, List.append_assoc,
        List.append_cancel_left_eq] at same
      rcases swallow_cases same with ⟨users, groups⟩ | ⟨swallowed, nonempty, longer, rest⟩ |
        ⟨swallowed, nonempty, longer, rest⟩
      · exact .inl ⟨by rw [String.toList_inj.mp users], group_text_inj groups⟩
      · exact .inr (.inl ⟨user, other, swallowed, nonempty, leftUser, rightUser, longer, rest⟩)
      · exact .inr (.inr ⟨other, user, swallowed, nonempty, rightUser, leftUser, longer, rest⟩)

theorem language_cases {left right : PlanetRequest} (kind : left.kind = right.kind)
    (flavor : left.flavor = right.flavor)
    (same : left.language.toList ++ ending left = right.language.toList ++ ending right) :
    SamePlanetView left right ∨ Forges left right ∨ Forges right left := by
  rcases swallow_cases same with ⟨languages, endings⟩ | ⟨swallowed, nonempty, longer, rest⟩ |
    ⟨swallowed, nonempty, longer, rest⟩
  -- the languages are the same, and what is left to compare stands behind them
  · have language := String.toList_inj.mp languages
    cases leftFlavor : left.flavor with
    | none =>
      have rightFlavor : right.flavor = none := flavor ▸ leftFlavor
      rcases page_ending_cases leftFlavor rightFlavor endings with ⟨user, group⟩ | swallows | swallows
      · exact .inl ⟨kind, flavor, language, group, by simp [leftFlavor], fun _ => user⟩
      · exact .inr (.inl (.reader kind leftFlavor rightFlavor language swallows))
      · exact .inr (.inr (.reader kind.symm rightFlavor leftFlavor language.symm swallows))
    | some name =>
      have rightFlavor : right.flavor = some name := flavor ▸ leftFlavor
      obtain ⟨excerpts, group⟩ := feed_ending_inj (by simp [leftFlavor]) (by simp [rightFlavor]) endings
      exact .inl ⟨kind, flavor, language, group, fun _ => excerpts, by simp [leftFlavor]⟩
  · exact .inr (.inl (.language kind flavor swallowed nonempty longer rest))
  · exact .inr (.inr (.language kind.symm flavor.symm swallowed nonempty longer rest))

/-- A page and a feed of one kind: what the page writes in front of its first slash is its language, or the
beginning of it. -/
theorem page_forges_feed {page feed : PlanetRequest} {name : String} (kind : page.kind = feed.kind)
    (noFlavor : page.flavor = none) (flavor : feed.flavor = some name) (slashless : '/' ∉ name.toList)
    (same : page.language.toList ++ ending page =
      name.toList ++ '/' :: (feed.language.toList ++ ending feed)) : Forges page feed := by
  by_cases slash : '/' ∈ page.language.toList
  · obtain ⟨before, more, whole, clean⟩ := List.eq_append_cons_of_mem slash
    rw [whole, List.append_assoc, List.cons_append] at same
    obtain ⟨names, rest⟩ := Text.clean_append_inj clean slashless (.inr ⟨_, rfl⟩) (.inr ⟨_, rfl⟩) same
    exact .flavor kind noFlavor name flavor more (names ▸ whole) (List.cons.inj rest).2.symm
  · obtain ⟨names, rest⟩ := Text.clean_append_inj slash slashless (ending_ends page) (.inr ⟨_, rfl⟩) same
    exact .label kind noFlavor (flavor.trans (by rw [String.toList_inj.mp names])) rest

theorem key_cases {left right : PlanetRequest} (leftAsked : left.Addressed) (rightAsked : right.Addressed)
    (same : planetKey left = planetKey right) :
    SamePlanetView left right ∨ Forges left right ∨ Forges right left := by
  obtain ⟨kind, views⟩ := key_view_text leftAsked rightAsked same
  unfold viewText at views
  cases leftFlavor : left.flavor with
  | none =>
    cases rightFlavor : right.flavor with
    | none =>
      rw [leftFlavor, rightFlavor] at views
      exact language_cases kind (leftFlavor.trans rightFlavor.symm) views
    | some name =>
      rw [leftFlavor, rightFlavor] at views
      exact .inr (.inl (page_forges_feed kind leftFlavor rightFlavor
        (rightAsked.flavor name rightFlavor) views))
  | some name =>
    cases rightFlavor : right.flavor with
    | none =>
      rw [leftFlavor, rightFlavor] at views
      exact .inr (.inr (page_forges_feed kind.symm rightFlavor leftFlavor
        (leftAsked.flavor name leftFlavor) views.symm))
    | some other =>
      rw [leftFlavor, rightFlavor] at views
      obtain ⟨names, rest⟩ := Text.clean_append_inj (leftAsked.flavor name leftFlavor)
        (rightAsked.flavor other rightFlavor) (.inr ⟨_, rfl⟩) (.inr ⟨_, rfl⟩) views
      have flavor : left.flavor = right.flavor := by
        rw [leftFlavor, rightFlavor, String.toList_inj.mp names]
      exact language_cases kind flavor (List.cons.inj rest).2

/-- For requests from addresses, the key keeps two views apart exactly when neither request forges the
key of the other one. -/
theorem planet_key_separates_iff_unforged {leftPath rightPath : String} {leftQuery rightQuery : Query}
    {leftReader rightReader : Option String} {left right : PlanetRequest}
    (leftAsked : PlanetRequest.ofParts? leftPath leftQuery leftReader = some left)
    (rightAsked : PlanetRequest.ofParts? rightPath rightQuery rightReader = some right) :
    (planetKey left = planetKey right → SamePlanetView left right) ↔
      ¬ (Forges left right ∨ Forges right left) := by
  have leftAddressed := PlanetRequest.addressed_of_parts leftAsked
  have rightAddressed := PlanetRequest.addressed_of_parts rightAsked
  constructor
  · rintro separates (forges | forges)
    · have shared := forged_key (leftAddressed.context.trans rightAddressed.context.symm) forges
      exact forged_view_differs forges (separates shared)
    · have shared := forged_key (rightAddressed.context.trans leftAddressed.context.symm) forges
      exact forged_view_differs forges (separates shared.symm).symm
  · intro unforged shared
    exact (key_cases leftAddressed rightAddressed shared).resolve_right unforged

theorem language_forges_excerpts :
    ∃ feed forger,
      PlanetRequest.ofParts? "feed/rss" (.parse "lang=en&excerpts=true") none = some feed ∧
      PlanetRequest.ofParts? "feed/rss" (.parse "lang=en%2Fexcerpts") none = some forger ∧
      ¬ (planetKey feed = planetKey forger → SamePlanetView feed forger) := by
  have feedAsked : PlanetRequest.ofParts? "feed/rss" (.parse "lang=en&excerpts=true") none =
      some ⟨"planet", "feed", some "rss", "en", true, none, none⟩ := by decide +kernel
  have forgerAsked : PlanetRequest.ofParts? "feed/rss" (.parse "lang=en%2Fexcerpts") none =
      some ⟨"planet", "feed", some "rss", "en/excerpts", false, none, none⟩ := by decide +kernel
  refine ⟨_, _, feedAsked, forgerAsked, ?_⟩
  rw [planet_key_separates_iff_unforged feedAsked forgerAsked, not_not]
  exact .inr (.language rfl rfl "/excerpts".toList (by decide) (by decide) (by decide))

end Forgery

end Cache
end WeblogFront
