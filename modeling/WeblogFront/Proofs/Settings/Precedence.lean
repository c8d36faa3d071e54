import WeblogFront.Proofs.Settings.Validity
import WeblogFront.Settings.Load

/-! Which value a setting gets. A flag of the chosen command comes first, then the highest layer that sets
it in any spelling, then the default; and a run starts exactly when the values that come out are valid.
There is one case in which none of this holds: the tag limit in two different spellings, be it in two
different layers, stands twice in the merged table, and nothing is loaded at all. -/
namespace WeblogFront.Settings

section Choice

def Setting.flag? : (setting : Setting) → Option CommandLine.Task → Option setting.Content
  | .host, some (.serve flags) => flags.host
  | .port, some (.serve flags) => flags.port
  | .shutdownSeconds, some (.serve flags) => flags.shutdownSeconds
  | .logLevel, some (.serve flags) => flags.logLevel
  | .logJson, some (.serve flags) => flags.logJson
  | .tagLimit, some (.serve flags) => flags.tagLimit
  | .tagLimit, some (.classify flags) => flags.tagLimit
  | .cache .planet .enabled, some (.serve flags) => if flags.noCache then some false else none
  | .cache .pages .enabled, some (.serve flags) => if flags.noCache then some false else none
  | .siteFile, some (.serve flags) => flags.siteFile
  | _, _ => none

/-- What the highest layer says for a setting that says anything for it, in any spelling. -/
def Setting.given? (setting : Setting) (layers : List Layer) : Option setting.Content :=
  (layers.reverse.findSome? fun layer => setting.paths.findSome? fun path => layer.said? path).bind
    setting.read?

def values (task : Option CommandLine.Task) (layers : List Layer) (setting : Setting) : setting.Content :=
  ((setting.flag? task).or (setting.given? layers)).getD setting.default

def Setting.all : List Setting :=
  [.host, .port, .shutdownSeconds, .logLevel, .logJson, .tagLimit, .cache .planet .enabled,
    .cache .planet .size, .cache .planet .timeout, .cache .pages .enabled, .cache .pages .size,
    .cache .pages .timeout, .cache .salts .enabled, .cache .salts .size, .cache .salts .timeout, .siteFile]

theorem Setting.mem_all (setting : Setting) : setting ∈ Setting.all := by
  cases setting with
  | cache tier field => cases tier <;> cases field <;> decide
  | _ => decide

/-- What a layer says at any place of a setting can be read as what is wanted there. -/
def Layer.WellTyped (layer : Layer) : Prop :=
  ∀ setting : Setting, ∀ path ∈ setting.paths, layer.Suits setting.reads path

instance (layer : Layer) : Decidable layer.WellTyped :=
  decidable_of_iff (∀ setting ∈ Setting.all, ∀ path ∈ setting.paths, layer.Suits setting.reads path)
    ⟨fun each setting => each setting setting.mem_all, fun each setting _ => each setting⟩

def SpelledTwice (layers : List Layer) : Prop :=
  ∃ one ∈ Setting.tagLimit.paths, ∃ other ∈ Setting.tagLimit.paths, one ≠ other ∧
    (∃ layer ∈ layers, (layer.said? one).isSome) ∧ ∃ layer ∈ layers, (layer.said? other).isSome

instance (layers : List Layer) : Decidable (SpelledTwice layers) :=
  inferInstanceAs (Decidable (∃ one ∈ Setting.tagLimit.paths, ∃ other ∈ Setting.tagLimit.paths, _))

theorem withTask_ofSettings (given : (setting : Setting) → Option setting.Content)
    (task : Option CommandLine.Task) :
    (Raw.ofSettings given).withTask task =
      Raw.ofSettings fun setting => (setting.flag? task).or (given setting) := by
  cases task with
  | none => rfl
  | some task =>
    cases task with
    | classify flags => rfl
    | serve flags =>
      simp only [Raw.withTask, Raw.withServe, Raw.ofSettings, Raw.ofSettings.tierOf, Setting.flag?]
      cases flags.noCache <;> rfl

end Choice

section Merging

variable {α β γ : Type}

theorem findSome?_lone {search : α → Option β} {items : List α} {one : α} (listed : one ∈ items)
    (others : ∀ other ∈ items, other ≠ one → search other = none) :
    items.findSome? search = search one := by
  cases found : items.findSome? search with
  | none => exact (List.findSome?_eq_none_iff.mp found one listed).symm
  | some result =>
    obtain ⟨item, here, gives⟩ := List.exists_of_findSome?_eq_some found
    by_cases same : item = one
    · rw [← same, gives]
    · cases (others item here same).symm.trans gives

/-- When at most one item has anything to say, it does not matter whether items or layers are gone through
first. -/
theorem findSome?_swap {search : α → β → Option γ} {items : List α} {layers : List β}
    (lone : ∀ one ∈ items, ∀ other ∈ items, (∃ layer ∈ layers, (search one layer).isSome) →
      (∃ layer ∈ layers, (search other layer).isSome) → one = other) :
    items.findSome? (fun item => layers.findSome? (search item)) =
      layers.findSome? fun layer => items.findSome? (search · layer) := by
  by_cases heard : ∃ one ∈ items, ∃ layer ∈ layers, (search one layer).isSome
  · obtain ⟨one, listed, speaks⟩ := heard
    have silent : ∀ other ∈ items, other ≠ one → ∀ layer ∈ layers, search other layer = none := by
      intro other alsoListed apart layer here
      by_contra said
      apply apart
      exact lone other alsoListed one listed ⟨layer, here, Option.isSome_iff_ne_none.mpr said⟩ speaks
    rw [findSome?_lone listed]
    · apply findSome?_congr
      intro layer here
      exact (findSome?_lone listed fun other alsoListed apart => silent other alsoListed apart layer here).symm
    · intro other alsoListed apart
      exact List.findSome?_eq_none_iff.mpr (silent other alsoListed apart)
  · have silent : ∀ item ∈ items, ∀ layer ∈ layers, search item layer = none := by
      intro item listed layer here
      by_contra said
      exact heard ⟨item, listed, layer, here, Option.isSome_iff_ne_none.mpr said⟩
    have first : items.findSome? (fun item => layers.findSome? (search item)) = none :=
      List.findSome?_eq_none_iff.mpr fun item listed => List.findSome?_eq_none_iff.mpr (silent item listed)
    have second : layers.findSome? (fun layer => items.findSome? (search · layer)) = none :=
      List.findSome?_eq_none_iff.mpr fun layer here =>
        List.findSome?_eq_none_iff.mpr fun item listed => silent item listed layer here
    rw [first, second]

variable {layers : List Layer}

theorem reads_table (setting : Setting) (members : Layer) : setting.reads (.table members) = false := by
  cases setting with
  | cache tier field => cases field <;> rfl
  | _ => rfl

theorem paths_cons {setting : Setting} {path : List String} (listed : path ∈ setting.paths) :
    ∃ key rest, path = key :: rest := by
  obtain ⟨spelling, -, rfl⟩ := List.mem_map.mp listed
  exact List.exists_cons_of_ne_nil (List.concat_ne_nil spelling setting.group)

theorem merged_held (typed : ∀ layer ∈ layers, layer.WellTyped) {setting : Setting} {path : List String}
    (listed : path ∈ setting.paths) :
    Settled setting.reads path (.table (merged layers)) ∧
      at? path (.table (merged layers)) = layers.reverse.findSome? (Layer.said? path) := by
  obtain ⟨key, rest, rfl⟩ := paths_cons listed
  apply merged_over (reads_table setting)
  intro layer here
  exact typed layer here setting _ listed

theorem merged_readable (typed : ∀ layer ∈ layers, layer.WellTyped) : Readable (merged layers) :=
  fun _ _ listed => (merged_held typed listed).1

theorem merged_said (typed : ∀ layer ∈ layers, layer.WellTyped) {setting : Setting} {path : List String}
    (listed : path ∈ setting.paths) :
    (at? path (.table (merged layers))).isSome ↔ ∃ layer ∈ layers, (layer.said? path).isSome := by
  rw [(merged_held typed listed).2, List.findSome?_isSome_iff]
  simp only [List.mem_reverse]

theorem paths_lone (once : ¬ SpelledTwice layers) (setting : Setting) :
    ∀ one ∈ setting.paths, ∀ other ∈ setting.paths, (∃ layer ∈ layers, (layer.said? one).isSome) →
      (∃ layer ∈ layers, (layer.said? other).isSome) → one = other := by
  intro one first other second said again
  cases setting with
  | tagLimit =>
    by_contra apart
    exact once ⟨one, first, other, second, apart, said, again⟩
  | _ => exact (List.mem_singleton.mp first).trans (List.mem_singleton.mp second).symm

theorem merged_lone (typed : ∀ layer ∈ layers, layer.WellTyped) :
    Lone ["tags", "queries"] (.table (merged layers)) ↔ ¬ SpelledTwice layers := by
  constructor
  · rintro lone ⟨_, first, _, second, apart, said, again⟩
    have saidHere := (merged_said typed first).mpr said
    have againHere := (merged_said typed second).mpr again
    obtain ⟨one, listed, rfl⟩ := List.mem_map.mp first
    obtain ⟨other, alsoListed, rfl⟩ := List.mem_map.mp second
    apply apart
    rw [lone one listed other alsoListed saidHere againHere]
  · intro once one listed other alsoListed saidHere againHere
    have first : ["tags", "queries", one] ∈ Setting.tagLimit.paths := Setting.mem_paths listed
    have second : ["tags", "queries", other] ∈ Setting.tagLimit.paths := Setting.mem_paths alsoListed
    have said := (merged_said typed first).mp saidHere
    have again := (merged_said typed second).mp againHere
    have same := paths_lone once .tagLimit _ first _ second said again
    simpa using same

theorem merged_given (typed : ∀ layer ∈ layers, layer.WellTyped) (once : ¬ SpelledTwice layers)
    (setting : Setting) : setting.held? (merged layers) = setting.given? layers := by
  apply congrArg (Option.bind · setting.read?)
  have found : (setting.paths.findSome? fun path => at? path (.table (merged layers))) =
      setting.paths.findSome? fun path => layers.reverse.findSome? (Layer.said? path) := by
    apply findSome?_congr
    intro path listed
    exact (merged_held typed listed).2
  rw [found]
  apply findSome?_swap
  simpa only [List.mem_reverse] using paths_lone once setting

end Merging

section Changes

variable {setting other : Setting} {path away : List String} {value : Value} {before after : Layer}

instance : Decidable (Apart path away) :=
  inferInstanceAs (Decidable (_ ∧ _))

theorem paths_apart (different : other ≠ setting) (listed : path ∈ setting.paths)
    (alsoListed : away ∈ other.paths) : Apart path away := by
  have each : ∀ setting ∈ Setting.all, ∀ other ∈ Setting.all, other ≠ setting →
      ∀ path ∈ setting.paths, ∀ away ∈ other.paths, Apart path away := by
    decide +kernel
  exact each setting setting.mem_all other other.mem_all different path listed away alsoListed

theorem group_plain {key : String} {rest : List String} (listed : key :: rest ∈ setting.paths) :
    keyPath key = [.member key] := by
  have each : ∀ setting ∈ Setting.all, ∀ path ∈ setting.paths, ∀ key ∈ path.head?,
      keyPath key = [.member key] := by
    decide +kernel
  exact each setting setting.mem_all _ listed key rfl

theorem given?_sets (different : other ≠ setting) (listed : path ∈ setting.paths)
    (sets : Layer.Sets path value before after) (below above : List Layer) :
    other.given? (below ++ after :: above) = other.given? (below ++ before :: above) := by
  have heard : (other.paths.findSome? fun path => after.said? path) =
      other.paths.findSome? fun path => before.said? path := by
    apply findSome?_congr
    intro away alsoListed
    obtain ⟨key, rest, rfl⟩ := paths_cons listed
    apply Layer.said?_sets sets
    · exact group_plain listed
    · exact paths_apart different listed alsoListed
  unfold Setting.given?
  simp [List.findSome?_cons, heard]

end Changes

section Loading

variable {surroundings : Surroundings} {invocation : CommandLine.Invocation} {layers : List Layer}

theorem load_eq (ready : Settings.layers surroundings invocation = .ok layers) :
    load surroundings invocation =
      match Raw.ofLayer? (merged layers) with
      | none => .error .unbuildable
      | some raw => check (raw.withTask invocation.task) := by
  unfold load
  rw [ready]
  rfl

theorem load_twice (ready : Settings.layers surroundings invocation = .ok layers)
    (typed : ∀ layer ∈ layers, layer.WellTyped) (twice : SpelledTwice layers) :
    load surroundings invocation = .error .unbuildable := by
  have met : ¬ Lone ["tags", "queries"] (.table (merged layers)) := fun lone =>
    (merged_lone typed).mp lone twice
  rw [load_eq ready, ofLayer?_twice (merged_readable typed) met]

theorem load_once (ready : Settings.layers surroundings invocation = .ok layers)
    (typed : ∀ layer ∈ layers, layer.WellTyped) (once : ¬ SpelledTwice layers) :
    Checks (Valid (values invocation.task layers)) (Checked.Holds · (values invocation.task layers))
      (load surroundings invocation) := by
  have given : (Setting.held? · (merged layers)) = (Setting.given? · layers) :=
    funext fun setting => merged_given typed once setting
  rw [load_eq ready, ofLayer?_read (merged_readable typed) ((merged_lone typed).mpr once), given]
  change Checks _ _ (check ((Raw.ofSettings (Setting.given? · layers)).withTask invocation.task))
  rw [withTask_ofSettings]
  exact check_checks _

/-- Every setting has the value of the chosen command's flag, else of the highest layer that sets it in any
of its spellings, else its default; the settings load exactly when these values are valid, and setting one
of them in one layer leaves the values of all others. But the tag limit may be set in one spelling only:
a second one, in whatever layer, is not laid over the first, and nothing loads. -/
theorem layers_precede (ready : Settings.layers surroundings invocation = .ok layers)
    (typed : ∀ layer ∈ layers, layer.WellTyped) :
    (SpelledTwice layers → load surroundings invocation = .error .unbuildable) ∧
    (¬ SpelledTwice layers →
      Checks (Valid (values invocation.task layers)) (Checked.Holds · (values invocation.task layers))
        (load surroundings invocation)) ∧
    ∀ (setting other : Setting) (path : List String) (value : Value) (before after : Layer)
      (below above : List Layer), other ≠ setting → path ∈ setting.paths →
        Layer.Sets path value before after → layers = below ++ before :: above →
          values invocation.task (below ++ after :: above) other = values invocation.task layers other := by
  refine ⟨load_twice ready typed, load_once ready typed, ?_⟩
  rintro setting other path value before after below above different listed sets rfl
  rw [values, values, given?_sets different listed sets]

def overlaid (file : String) (pair : String × String) : Surroundings where
  files path := if path = localFile ++ ".toml" then .ok file.toUTF8.toList else .error .missing
  environment := [pair]
  owns _ := false

theorem exists_ok {result : Except Problem α} {holds : α → Prop} [DecidablePred holds]
    (passes : result.toOption.any (fun value => decide (holds value)) = true) :
    ∃ value, result = .ok value ∧ holds value := by
  cases result with
  | error problem => cases passes
  | ok value => exact ⟨value, rfl, of_decide_eq_true passes⟩

theorem variable_over_file :
    (∃ layers,
      Settings.layers (overlaid "[server]\nport = 81\n" ("ROLLER__SERVER__PORT", "9000")) ⟨none, none⟩ =
        .ok layers ∧ (∀ layer ∈ layers, layer.WellTyped) ∧ ¬ SpelledTwice layers ∧
      values none layers .port = 9000 ∧
      Checks (Valid (values none layers)) (Checked.Holds · (values none layers))
        (load (overlaid "[server]\nport = 81\n" ("ROLLER__SERVER__PORT", "9000")) ⟨none, none⟩)) ∧
    load (overlaid "[tags.queries]\nmaxIntersectionSize = 5\n"
      ("ROLLER__TAGS__QUERIES__MAX_INTERSECTION_SIZE", "2")) ⟨none, none⟩ = .error .unbuildable := by
  constructor
  · have ⟨layers, ready, typed, once, port⟩ : ∃ layers,
        Settings.layers (overlaid "[server]\nport = 81\n" ("ROLLER__SERVER__PORT", "9000")) ⟨none, none⟩ =
          .ok layers ∧ (∀ layer ∈ layers, layer.WellTyped) ∧ ¬ SpelledTwice layers ∧
        values none layers .port = 9000 :=
      exists_ok (by decide +kernel)
    exact ⟨layers, ready, typed, once, port, (layers_precede ready typed).2.1 once⟩
  · have ⟨layers, ready, typed, twice⟩ : ∃ layers,
        Settings.layers (overlaid "[tags.queries]\nmaxIntersectionSize = 5\n"
          ("ROLLER__TAGS__QUERIES__MAX_INTERSECTION_SIZE", "2")) ⟨none, none⟩ =
          .ok layers ∧ (∀ layer ∈ layers, layer.WellTyped) ∧ SpelledTwice layers :=
      exists_ok (by decide +kernel)
    exact (layers_precede ready typed).1 twice

end Loading

end WeblogFront.Settings
