import WeblogFront.Proofs.Render.Transparency

/-! What can be read off the body of a page. A body is the text of one view, and the view shows all that
selects a page: the handle through the weblog that was found under it, the entry through the anchor and
the preview. So two pages with one body have one key, whoever asked for them and however they were asked. -/
namespace WeblogFront

section Documents

theorem Json.of_optional_injective {α : Type} {write : α → Json}
    (reads : ∀ left right, write left = write right → left = right)
    (present : ∀ value, write value ≠ .null) {left right : Option α}
    (same : ofRecord? write left = ofRecord? write right) : left = right := by
  cases left <;> cases right
  case none.none => rfl
  case none.some value => exact absurd same.symm (present value)
  case some.none value => exact absurd same (present value)
  case some.some value other => exact congrArg some (reads value other same)

theorem Json.of_text_injective {left right : Option String}
    (same : ofText? left = ofText? right) : left = right := by
  have whole (value : Option String) : ofText? value = ofRecord? .text value := by cases value <;> rfl
  rw [whole, whole] at same
  exact of_optional_injective (fun _ _ => Json.text.inj) nofun same

theorem Json.of_texts_injective {left right : List String}
    (same : ofTexts left = ofTexts right) : left = right :=
  List.map_injective_iff.mpr (fun _ _ => Json.text.inj) (Json.list.inj same)

theorem Json.of_optional_texts_injective {left right : Option (List String)}
    (same : ofTexts? left = ofTexts? right) : left = right := by
  have whole (value : Option (List String)) : ofTexts? value = ofRecord? ofTexts value := by
    cases value <;> rfl
  rw [whole, whole] at same
  exact of_optional_injective (fun _ _ => of_texts_injective) nofun same

theorem Query.to_json_injective {left right : Query} (same : left.toJson = right.toJson) :
    left = right := by
  have written : Function.Injective fun entry : NamedValues => (entry.1, Json.ofTexts entry.2) := by
    intro entry other alike
    have parts := Prod.mk.inj alike
    exact Prod.ext parts.1 (Json.of_texts_injective parts.2)
  have entries := List.map_injective_iff.mpr written (Json.record.inj same)
  rwa [Query.mk.injEq]

theorem Preview.to_json_injective {left right : Preview} (same : left.toJson = right.toJson) :
    left = right := by
  have members := Json.record.inj same
  simp only [List.cons.injEq, Prod.mk.injEq, true_and, and_true, Json.text.injEq] at members
  rw [Preview.mk.injEq]
  exact ⟨Json.of_text_injective members.1, members.2.1, Json.of_text_injective members.2.2⟩

end Documents

namespace Render

section Views

theorem shown_of_same_view {left right : PageView} (same : left.toJson = right.toJson)
    (found : left.weblog.handle = left.descriptor.handle)
    (alsoFound : right.weblog.handle = right.descriptor.handle) :
    shown left.descriptor = shown right.descriptor := by
  have members := Json.record.inj same
  simp only [List.cons.injEq, Prod.mk.injEq, true_and, Json.record.injEq, Json.text.injEq,
    Json.number.injEq] at members
  obtain ⟨⟨handle, _⟩, context, locale, anchor, date, category, customPage, tags, pageNumber, user,
    parameters, preview, _⟩ := members
  have previewed := Json.of_optional_injective (fun _ _ => Preview.to_json_injective) nofun preview
  unfold shown
  rw [Descriptor.mk.injEq]
  exact ⟨found.symm.trans (handle.trans alsoFound), Json.of_text_injective locale,
    Json.of_text_injective user, rfl,
    Cache.PageIdentity.context_name_inj (congrArg String.toList context),
    Json.of_text_injective anchor, Json.of_text_injective date, Json.of_text_injective category,
    Json.of_text_injective customPage, Json.of_optional_texts_injective tags, pageNumber,
    Query.to_json_injective parameters, rfl, rfl, previewed⟩

/-- What a page does not show is no part of its identity either. -/
theorem identity_shown (asked : Descriptor) :
    Cache.PageIdentity.of (shown asked) = Cache.PageIdentity.of asked := rfl

variable {site : Site.Contents} {left right : PageRequest} {page other : Document}

theorem built_over_site (built : (build site.lookups left).result = .ok page) :
    ∃ view : PageView, page = .ofJson view.toJson ∧ view.descriptor = left.descriptor ∧
      view.weblog.handle = view.descriptor.handle := by
  obtain ⟨view, written, asked, found⟩ := built_view built
  have means := Site.Contents.weblog_eq_some_iff.mp (Except.ok.inj found)
  exact ⟨view, written, asked, asked ▸ means.1⟩

theorem shown_of_same_body (built : (build site.lookups left).result = .ok page)
    (alsoBuilt : (build site.lookups right).result = .ok other) (same : page.body = other.body) :
    shown left.descriptor = shown right.descriptor := by
  obtain ⟨view, rfl, asked, found⟩ := built_over_site built
  obtain ⟨otherView, rfl, alsoAsked, alsoFound⟩ := built_over_site alsoBuilt
  rw [← asked, ← alsoAsked]
  exact shown_of_same_view (Json.compact_injective same) found alsoFound

/-- Two requests of a site, fresh or changed, that are built into pages with the same body have the same
key: no two keys stand for one page. -/
theorem same_body_same_key (site : Site.Contents) (left right : PageRequest) (page other : Document)
    (built : (build site.lookups left).result = .ok page)
    (alsoBuilt : (build site.lookups right).result = .ok other) (same : page.body = other.body) :
    Cache.pageKey left.descriptor = Cache.pageKey right.descriptor := by
  have identity : Cache.PageIdentity.of left.descriptor = Cache.PageIdentity.of right.descriptor := by
    rw [← identity_shown, shown_of_same_body built alsoBuilt same, identity_shown]
  rw [Cache.pageKey, Cache.pageKey, identity]

/-- Alice hides her name and counts as a reader of the entry; the other request has no sender, counts for
nothing, and was handed the entry outright. -/
theorem hidden_reader_same_key :
    let entry : Site.Entry := ⟨"hello", "Hello", some "Java", ["java"]⟩
    let weblog : Site.Weblog := ⟨"blog", "Blog", none, "basic", [entry], [], []⟩
    let site : Site.Contents := ⟨[], [weblog]⟩
    let asked : Descriptor := { Descriptor.home "blog" false with
      context := .entry
      anchor := some "hello"
      parameters := Query.empty.append "q" "a b" }
    let left : PageRequest := .fresh { asked with principal := some "alice", contentHit := true }
    let right : PageRequest := (PageRequest.fresh asked).setEntry entry
    ∃ page other : Document, left ≠ right ∧
      (build site.lookups left).result = .ok page ∧ (build site.lookups right).result = .ok other ∧
      page.body = other.body ∧ Cache.pageKey left.descriptor = Cache.pageKey right.descriptor := by
  intro entry weblog site asked left right
  obtain ⟨page, built⟩ : ∃ page, (build site.lookups left).result = .ok page := ⟨_, rfl⟩
  have alsoBuilt : (build site.lookups right).result = .ok page := built
  exact ⟨page, page, by decide +kernel, built, alsoBuilt, rfl,
    same_body_same_key site left right page page built alsoBuilt rfl⟩

end Views

end Render

end WeblogFront
