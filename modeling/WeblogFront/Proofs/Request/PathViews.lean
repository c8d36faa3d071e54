import WeblogFront.Proofs.Request.Grammar

/-! Views that a path selects alone. The parameters are looked at for a selector only where the path leaves
one open, on the homepage and on a page of the weblog's own. Everywhere else they number the page, go to
its template and dress a preview, and that is all they can do: under other parameters the request is
refused for the same reason, or read as the same view. -/
namespace WeblogFront.Request

def withoutOptions (descriptor : Descriptor) : Descriptor :=
  { descriptor with
    pageNumber := 0
    parameters := .empty
    preview := none }

/-- Where the path names a weblog it goes on, not with blanks only, and not to a page of the weblog's
own. -/
def SelectsAlone (path : Option String) : Prop :=
  ∀ handle below locale rest, NamesWeblog path handle below → Leaves below locale rest →
    ¬ AsksHome rest ∧ ¬ AsksPage rest

section Views

variable {classifier : Classifier} {left right : RawRequest} {handle path : List Char}
  {below locale : Option (List Char)} {selection : Selection}

theorem place_options (start : Descriptor) (query : Query) (other : ∀ link, selection ≠ .page link) :
    withoutOptions (place start query selection) =
      place (withoutOptions start) .empty selection := by
  cases selection with
  | page link => exact absurd rfl (other link)
  | _ => rfl

theorem selects_other {tagLimit : Nat} (ownless : ¬ AsksPage (some path))
    (selects : Selects tagLimit path selection) : ∀ link, selection ≠ .page link := by
  rintro link rfl
  cases selects with
  | page text => exact ownless ⟨text, rfl⟩

theorem refused_alike {rejection : Rejection} (refuses : Refuses classifier left rejection)
    (also : Refuses classifier right rejection) :
    (classifier.classify left).map withoutOptions = (classifier.classify right).map withoutOptions := by
  rw [refuses_rejected refuses, refuses_rejected also]

theorem selected_alike (arrives : left.mount = classifier.profile.mount)
    (mount : left.mount = right.mount) (address : left.path = right.path)
    (sender : left.principal = right.principal) (named : NamesWeblog left.path handle below)
    (leaves : Leaves below locale (some path)) (ownless : ¬ AsksPage (some path))
    (selects : Selects classifier.tagLimit path selection) :
    (classifier.classify left).map withoutOptions = (classifier.classify right).map withoutOptions := by
  have other := selects_other ownless selects
  rw [classify_selected arrives named leaves selects other,
    classify_selected (mount ▸ arrives) (address ▸ named) leaves selects other]
  simp only [Except.map, place_options _ _ other]
  simp only [Classifier.frame, withoutOptions, sender]

/-- Two requests that differ in their parameters only are both refused, for the same reason, or both
accepted, with descriptors that differ in the options at most. -/
theorem path_selects_alone (classifier : Classifier) (mount : String) {path : Option String}
    (principal : Option String) (alone : SelectsAlone path) (left right : Query) :
    (classifier.classify ⟨mount, path, left, principal⟩).map withoutOptions =
      (classifier.classify ⟨mount, path, right, principal⟩).map withoutOptions := by
  by_cases arrives : mount = classifier.profile.mount
  case neg => exact refused_alike (.destination arrives) (.destination arrives)
  rcases named_or_nameless path with ⟨handle, below, locale, rest, named, leaves⟩ | nameless
  case inr => exact refused_alike (.weblog arrives nameless) (.weblog arrives nameless)
  obtain ⟨asked, ownless⟩ := alone handle below locale rest named leaves
  cases rest with
  | none => exact absurd (fun path absent => nomatch absent) asked
  | some view =>
    rcases selects_or_misselects classifier.tagLimit (mount ++ path.getD "") view with
      ⟨selection, selects⟩ | ⟨rejection, misselects⟩
    · exact selected_alike arrives rfl rfl rfl named leaves ownless selects
    · exact refused_alike (.view arrives named leaves asked misselects)
        (.view arrives named leaves asked misselects)

theorem selects_alone_of_split {tagLimit : Nat} {address : Option String} {weblog : String}
    {locale : Option String}
    (split : Envelope.split? address = some ⟨weblog, locale, some (String.ofList path)⟩)
    (selects : Selects tagLimit path selection) (other : ∀ link, selection ≠ .page link) :
    SelectsAlone address := by
  intro handle below locale rest named leaves
  have parts := Option.some.inj ((named_split named leaves).symm.trans split)
  obtain ⟨view, rfl, same⟩ := Option.map_eq_some_iff.mp (congrArg Envelope.rest parts)
  cases String.ofList_injective same
  refine ⟨selects_asked selects, ?_⟩
  rintro ⟨link, whole⟩
  cases whole
  have page : Selects tagLimit ("page".toList ++ '/' :: link) _ := .page link
  have read : select tagLimit "" _ = .ok selection := selects_accepted selects
  exact other _ (Except.ok.inj (read.symm.trans (selects_accepted page)))

-- On the homepage the date of these parameters would be refused, and without it their anchor be taken.
theorem dated_path_selects_alone :
    let path := some "/blog/date/20240101"
    let query : Query := .parse "anchor=post&date=soon&tags=a+b&page=2&sort=asc"
    let view : Descriptor := { Descriptor.home "blog" true with
      context := .date
      date := some "20240101"
      contentHit := true }
    SelectsAlone path ∧
      (Classifier.page 3).classify ⟨"/roller-ui/rendering/page", path, .empty, none⟩ = .ok view ∧
      ((Classifier.page 3).classify ⟨"/roller-ui/rendering/page", path, query, none⟩).map
        withoutOptions = .ok view := by
  intro path query view
  let rest := "date".toList ++ '/' :: "20240101".toList
  have selects : Selects 3 rest (.date "20240101") := .date (is_date_iff.mp (by decide +kernel))
  have split : Envelope.split? path = some ⟨"blog", none, some (String.ofList rest)⟩ := by
    decide +kernel
  have alone : SelectsAlone path := selects_alone_of_split split selects fun link => nofun
  have read : (Classifier.page 3).classify ⟨"/roller-ui/rendering/page", path, .empty, none⟩ =
      .ok view := by
    decide +kernel
  refine ⟨alone, read, ?_⟩
  rw [path_selects_alone (Classifier.page 3) "/roller-ui/rendering/page" none alone query .empty, read]
  rfl

end Views

end WeblogFront.Request
