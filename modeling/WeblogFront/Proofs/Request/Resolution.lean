import WeblogFront.Proofs.Request.Lookups
import WeblogFront.Site.Contents
import Mathlib.Data.List.Induction

/-! A page request in use: names are changed, the entry may be given outright, the request may go on as a
copy, and its records are read in between, in any order. What is read is always the record for the name
that is given at the moment, and the question for it is put at most once until the name is changed; so
a cell never answers for a name that is gone. -/
namespace WeblogFront.PageRequest

inductive Cell where
  | entry
  | category
  | template
  | theme
  deriving DecidableEq

inductive Act where
  | setAnchor (anchor : Option String)
  | setDate (date : Option String)
  | setCategory (name : Option String)
  | setCustomPage (link : Option String)
  | setTags (tags : Option (List String))
  | setPageNumber (number : Nat)
  | setParameters (parameters : Query)
  | setEntry (entry : Site.Entry)
  | copy
  | read (cell : Cell)

namespace Cell

def label : Cell → String
  | .entry => "entry"
  | .category => "category"
  | .template => "template"
  | .theme => "theme"

def selector (asked : Descriptor) : Cell → Option String
  | .entry => (asked.preview.bind (·.entry)).or asked.anchor
  | .category => asked.category
  | .template => asked.customPage
  | .theme => asked.preview.bind (·.theme)

def question (handle name : String) : Cell → Site.Question
  | .entry => .entry handle name
  | .category => .category handle name
  | .template => .template handle name
  | .theme => .theme name

def failure? (lookups : Site.Lookups) (handle name : String) : Cell → Option Site.LookupFailure
  | .entry => (Memo.ofAnswer (lookups.entry handle name)).failure?
  | .category => (Memo.ofAnswer (lookups.category handle name)).failure?
  | .template => (Memo.ofAnswer (lookups.template handle name)).failure?
  | .theme => (Memo.ofAnswer (lookups.theme name)).failure?

def isResolved (request : PageRequest) : Cell → Bool
  | .entry => request.entryCell.isResolved
  | .category => request.categoryCell.isResolved
  | .template => request.templateCell.isResolved
  | .theme => request.themeCell.isResolved

def read (lookups : Site.Lookups) (request : PageRequest) : Cell → Step PageRequest Unit
  | .entry => let step := request.entry lookups; ⟨step.state, (), step.signals⟩
  | .category => let step := request.category lookups; ⟨step.state, (), step.signals⟩
  | .template => let step := request.template lookups; ⟨step.state, (), step.signals⟩
  | .theme => let step := request.theme lookups; ⟨step.state, (), step.signals⟩

/-- The cell that a signal is about: the one that asked, or the one whose lookup failed. -/
def ofSignal? : Signal → Option Cell
  | .asked (.entry _ _) => some .entry
  | .asked (.category _ _) => some .category
  | .asked (.template _ _) => some .template
  | .asked (.theme _) => some .theme
  | .lookupFailed what _ _ => [Cell.entry, .category, .template, .theme].find? fun cell => cell.label == what
  | _ => none

def heard (cell : Cell) (signals : List Signal) : List Signal :=
  signals.filter fun signal => ofSignal? signal == some cell

def call (lookups : Site.Lookups) (handle name : String) (cell : Cell) : List Signal :=
  .asked (cell.question handle name) ::
    ((cell.failure? lookups handle name).map (.lookupFailed cell.label name)).toList

end Cell

namespace Act

def perform (lookups : Site.Lookups) (request : PageRequest) : Act → Step PageRequest Unit
  | .setAnchor anchor => ⟨request.setAnchor anchor, (), []⟩
  | .setDate date => ⟨request.setDate date, (), []⟩
  | .setCategory name => ⟨request.setCategory name, (), []⟩
  | .setCustomPage link => ⟨request.setCustomPage link, (), []⟩
  | .setTags tags => ⟨request.setTags tags, (), []⟩
  | .setPageNumber number => ⟨request.setPageNumber number, (), []⟩
  | .setParameters parameters => ⟨request.setParameters parameters, (), []⟩
  | .setEntry entry => ⟨request.setEntry entry, (), []⟩
  | .copy => ⟨request.copy, (), []⟩
  | .read cell => cell.read lookups request

def describe (asked : Descriptor) : Act → Descriptor
  | .setAnchor anchor => { asked with anchor := anchor }
  | .setDate date => { asked with date := date }
  | .setCategory name => { asked with category := name }
  | .setCustomPage link => { asked with customPage := link }
  | .setTags tags => { asked with tags := tags }
  | .setPageNumber number => { asked with pageNumber := number }
  | .setParameters parameters => { asked with parameters := parameters }
  | .setEntry _ => asked
  | .copy => asked
  | .read _ => asked

/-- A cell is replaced by its own setters, and all of them are where a copy takes over. -/
def resets : Cell → Act → Bool
  | .entry, .setAnchor _ => true
  | .entry, .setEntry _ => true
  | .category, .setCategory _ => true
  | .template, .setCustomPage _ => true
  | _, .copy => true
  | _, _ => false

/-- The entry that counts as given outright after an act. -/
def give (given : Option Site.Entry) : Act → Option Site.Entry
  | .setEntry entry => some entry
  | .setAnchor _ => none
  | .copy => none
  | _ => given

end Act

def after (lookups : Site.Lookups) (request : PageRequest) (acts : List Act) : PageRequest :=
  acts.foldl (fun request act => (act.perform lookups request).state) request

def said (lookups : Site.Lookups) (request : PageRequest) : List Act → List Signal
  | [] => []
  | act :: rest =>
    let step := act.perform lookups request
    step.signals ++ said lookups step.state rest

def described (asked : Descriptor) (acts : List Act) : Descriptor :=
  acts.foldl Act.describe asked

/-- The entry that was given last, unless the anchor was set or a copy taken since. -/
def given (acts : List Act) : Option Site.Entry :=
  acts.foldl Act.give none

section Reading

variable {lookups : Site.Lookups} {request : PageRequest}

theorem answered_resolved {α : Type} (answer : Site.Answer α) : (Memo.ofAnswer answer).isResolved = true := by
  match answer with
  | .ok (some _) => rfl
  | .ok none => rfl
  | .error _ => rfl

theorem report_failure {α : Type} (what key : String) (answer : Site.Answer α) :
    Memo.report what key answer =
      ((Memo.ofAnswer answer).failure?.map (.lookupFailed what key)).toList := by
  match answer with
  | .ok (some _) => rfl
  | .ok none => rfl
  | .error _ => rfl

inductive Cell.Reads (lookups : Site.Lookups) (request : PageRequest) (cell : Cell) :
    Step PageRequest Unit → Prop where
  | silent : Reads lookups request cell ⟨request, (), []⟩
  | asks {name : String} {next : PageRequest} (empty : cell.isResolved request = false)
      (named : cell.selector request.descriptor = some name)
      (same : next.descriptor = request.descriptor) (filled : cell.isResolved next = true)
      (others : ∀ other, other ≠ cell → other.isResolved next = other.isResolved request) :
      Reads lookups request cell ⟨next, (), cell.call lookups request.descriptor.handle name⟩

-- The four getters differ in the cell that they hold and in the lookup that answers for it.
theorem reads_of_ask {α : Type} (cell : Cell) (answer : String → Site.Answer α) (held : Memo α)
    (hold : Memo α → PageRequest) (own : hold held = request)
    (same : ∀ memo, (hold memo).descriptor = request.descriptor)
    (resolved : ∀ memo, cell.isResolved (hold memo) = memo.isResolved)
    (others : ∀ memo other, other ≠ cell → other.isResolved (hold memo) = other.isResolved request)
    (fails : ∀ name, cell.failure? lookups request.descriptor.handle name =
      (Memo.ofAnswer (answer name)).failure?) :
    let step := held.ask cell.label (fun name => cell.question request.descriptor.handle name) answer
      (cell.selector request.descriptor)
    cell.Reads lookups request ⟨hold step.state, (), step.signals⟩ := by
  dsimp only
  rcases Memo.ask_cases cell.label (fun name => cell.question request.descriptor.handle name) answer
    (cell.selector request.descriptor) held with ⟨state, signals⟩ | ⟨empty, name, named, state, signals⟩
  · rw [state, signals, own]
    exact .silent
  · rw [state, signals, report_failure, ← fails]
    refine .asks ?_ named (same _) ?_ (others _)
    · rw [← own, resolved, empty]
      rfl
    · rw [resolved, answered_resolved]

theorem read_cases (lookups : Site.Lookups) (request : PageRequest) (cell : Cell) :
    cell.Reads lookups request (cell.read lookups request) := by
  cases cell with
  | entry =>
    by_cases found : ∃ value, request.entryCell = .found value
    · obtain ⟨value, kept⟩ := found
      rw [Cell.read, entry_found kept]
      exact .silent
    · rw [Cell.read, entry_ask_unfound (not_exists.mp found), Descriptor.entry_anchor_eq]
      refine reads_of_ask .entry _ _ (fun memo => { request with entryCell := memo }) rfl
        (fun _ => rfl) (fun _ => rfl) ?_ (fun _ => rfl)
      intro memo other different
      cases other with
      | entry => exact absurd rfl different
      | _ => rfl
  | category =>
    rw [Cell.read, category_ask]
    refine reads_of_ask .category _ _ (fun memo => { request with categoryCell := memo }) rfl
      (fun _ => rfl) (fun _ => rfl) ?_ (fun _ => rfl)
    intro memo other different
    cases other with
    | category => exact absurd rfl different
    | _ => rfl
  | template =>
    rw [Cell.read, template_ask]
    refine reads_of_ask .template _ _ (fun memo => { request with templateCell := memo }) rfl
      (fun _ => rfl) (fun _ => rfl) ?_ (fun _ => rfl)
    intro memo other different
    cases other with
    | template => exact absurd rfl different
    | _ => rfl
  | theme =>
    rw [Cell.read, theme_ask]
    refine reads_of_ask .theme _ _ (fun memo => { request with themeCell := memo }) rfl
      (fun _ => rfl) (fun _ => rfl) ?_ (fun _ => rfl)
    intro memo other different
    cases other with
    | theme => exact absurd rfl different
    | _ => rfl

end Reading

section Consultation

variable {lookups : Site.Lookups} {request : PageRequest} {cell : Cell}

theorem call_signals (lookups : Site.Lookups) (handle name : String) (cell : Cell) {signal : Signal}
    (member : signal ∈ cell.call lookups handle name) : Cell.ofSignal? signal = some cell := by
  rcases List.mem_cons.mp member with rfl | reported
  · cases cell <;> rfl
  · obtain ⟨failure, _, rfl⟩ := Option.map_eq_some_iff.mp (Option.mem_toList.mp reported)
    cases cell <;> rfl

theorem heard_call (lookups : Site.Lookups) (handle name : String) (cell : Cell) :
    cell.heard (cell.call lookups handle name) = cell.call lookups handle name := by
  apply List.filter_eq_self.mpr
  intro signal member
  exact beq_iff_eq.mpr (call_signals lookups handle name cell member)

theorem heard_other (lookups : Site.Lookups) (handle name : String) {other : Cell}
    (different : cell ≠ other) :
    cell.heard (other.call lookups handle name) = [] := by
  apply List.filter_eq_nil_iff.mpr
  intro signal member about
  rw [call_signals lookups handle name other member] at about
  exact different (Option.some.inj (beq_iff_eq.mp about)).symm

theorem call_heard_as (lookups : Site.Lookups) (handle name : String) (cell : Cell) :
    questions (cell.call lookups handle name) = [cell.question handle name] ∧
      (events (cell.call lookups handle name)).map (·.level) =
        ((cell.failure? lookups handle name).map fun _ => Level.error).toList := by
  unfold Cell.call
  cases cell.failure? lookups handle name <;> exact ⟨rfl, rfl⟩

theorem perform_descriptor (lookups : Site.Lookups) (request : PageRequest) (act : Act) :
    (act.perform lookups request).state.descriptor = act.describe request.descriptor := by
  cases act with
  | read cell =>
    have reads := read_cases lookups request cell
    change (cell.read lookups request).state.descriptor = request.descriptor
    generalize cell.read lookups request = step at reads ⊢
    cases reads with
    | silent => rfl
    | asks _ _ same => exact same
  | _ => rfl

theorem describe_handle (act : Act) (asked : Descriptor) : (act.describe asked).handle = asked.handle := by
  cases act <;> rfl

-- A selector is changed by nothing but what resets its cell; for a theme there is no such setter.
theorem describe_selector {act : Act} (kept : act.resets cell = false) (asked : Descriptor) :
    cell.selector (act.describe asked) = cell.selector asked := by
  cases act with
  | setAnchor anchor =>
    cases cell with
    | entry => cases kept
    | _ => rfl
  | setCategory name =>
    cases cell with
    | category => cases kept
    | _ => rfl
  | setCustomPage link =>
    cases cell with
    | template => cases kept
    | _ => rfl
  | _ => rfl

theorem perform_heard (lookups : Site.Lookups) (request : PageRequest) {act : Act}
    (kept : act.resets cell = false) :
    let step := act.perform lookups request
    (cell.heard step.signals = [] ∧ (cell.isResolved request = true → cell.isResolved step.state = true)) ∨
    (cell.isResolved request = false ∧ cell.isResolved step.state = true ∧
      ∃ name, cell.selector request.descriptor = some name ∧
        cell.heard step.signals = cell.call lookups request.descriptor.handle name) := by
  cases act with
  | read other =>
    have reads := read_cases lookups request other
    simp only [Act.perform]
    generalize other.read lookups request = step at reads ⊢
    cases reads with
    | silent => exact .inl ⟨rfl, id⟩
    | @asks name next empty named same filled others =>
      by_cases own : cell = other
      · subst own
        exact .inr ⟨empty, filled, name, named, heard_call _ _ _ _⟩
      · exact .inl ⟨heard_other _ _ _ own, fun resolved => (others cell own).trans resolved⟩
  | setAnchor anchor =>
    cases cell with
    | entry => cases kept
    | _ => exact .inl ⟨rfl, id⟩
  | setCategory name =>
    cases cell with
    | category => cases kept
    | _ => exact .inl ⟨rfl, id⟩
  | setCustomPage link =>
    cases cell with
    | template => cases kept
    | _ => exact .inl ⟨rfl, id⟩
  | setEntry entry =>
    cases cell with
    | entry => cases kept
    | _ => exact .inl ⟨rfl, id⟩
  | copy => cases cell <;> cases kept
  | setDate date => exact .inl ⟨rfl, by cases cell <;> exact id⟩
  | setTags tags => exact .inl ⟨rfl, by cases cell <;> exact id⟩
  | setPageNumber number => exact .inl ⟨rfl, by cases cell <;> exact id⟩
  | setParameters parameters => exact .inl ⟨rfl, by cases cell <;> exact id⟩

/-- From one reset of a cell to the next there is one question at most, for the name that is given then. -/
theorem stretch_heard (lookups : Site.Lookups) (request : PageRequest) (stretch : List Act)
    (kept : ∀ act ∈ stretch, act.resets cell = false) :
    cell.heard (said lookups request stretch) = [] ∨
    (cell.isResolved request = false ∧ ∃ name, cell.selector request.descriptor = some name ∧
      cell.heard (said lookups request stretch) =
        cell.call lookups request.descriptor.handle name) := by
  induction stretch generalizing request with
  | nil => exact .inl rfl
  | cons act rest ih =>
    have now := kept act List.mem_cons_self
    have later := ih (act.perform lookups request).state fun other member =>
      kept other (List.mem_cons_of_mem act member)
    have split : cell.heard (said lookups request (act :: rest)) =
        cell.heard (act.perform lookups request).signals ++
          cell.heard (said lookups (act.perform lookups request).state rest) := List.filter_append _ _
    rw [perform_descriptor, describe_selector now, describe_handle] at later
    rw [split]
    rcases perform_heard lookups request now with ⟨silent, stays⟩ | ⟨empty, filled, name, named, called⟩
    · rw [silent, List.nil_append]
      rcases later with nothing | ⟨unresolved, consulted⟩
      · exact .inl nothing
      · have empty : cell.isResolved request = false := by
          cases before : cell.isResolved request with
          | false => rfl
          | true => cases unresolved.symm.trans (stays before)
        exact .inr ⟨empty, consulted⟩
    · rcases later with nothing | ⟨unresolved, _⟩
      · rw [called, nothing, List.append_nil]
        exact .inr ⟨empty, name, named, rfl⟩
      · cases filled.symm.trans unresolved

theorem said_of_cells (lookups : Site.Lookups) (request : PageRequest) (acts : List Act)
    {signal : Signal} (member : signal ∈ said lookups request acts) :
    ∃ cell, Cell.ofSignal? signal = some cell := by
  induction acts generalizing request with
  | nil => cases member
  | cons act rest ih =>
    rcases List.mem_append.mp member with now | later
    · cases act with
      | read cell =>
        have reads := read_cases lookups request cell
        simp only [Act.perform] at now
        generalize cell.read lookups request = step at reads now
        cases reads with
        | silent => cases now
        | asks => exact ⟨cell, call_signals _ _ _ _ now⟩
      | _ => cases now
    · exact ih _ later

end Consultation

section Coherence

variable {lookups : Site.Lookups} {request : PageRequest} {asked : Descriptor}

/-- What the cells may hold: the entry that was given, as long as it counts, and otherwise nothing but answers
for the names that are given. -/
structure Coherent (lookups : Site.Lookups) (given : Option Site.Entry) (request : PageRequest) : Prop where
  presented : ∀ entry, given = some entry → request.entryCell = .found entry
  entry : given = none →
    request.entryCell.Honest (lookups.entry request.descriptor.handle) request.descriptor.entryAnchor
  category : request.categoryCell.Honest (lookups.category request.descriptor.handle)
    request.descriptor.category
  template : request.templateCell.Honest (lookups.template request.descriptor.handle)
    request.descriptor.customPage
  theme : request.themeCell.Honest lookups.theme request.descriptor.previewTheme

theorem fresh_coherent (lookups : Site.Lookups) (asked : Descriptor) :
    Coherent lookups none (fresh asked) where
  presented _ absent := nomatch absent
  entry _ := .inl rfl
  category := .inl rfl
  template := .inl rfl
  theme := .inl rfl

theorem Coherent.honest (coherent : Coherent lookups none request) : request.Honest lookups :=
  ⟨coherent.entry rfl, coherent.category, coherent.template, coherent.theme⟩

theorem Coherent.read_entry {given : Option Site.Entry} (coherent : Coherent lookups given request) :
    (request.entry lookups).result = given.or
      (Memo.record (lookups.entry request.descriptor.handle) request.descriptor.entryAnchor) ∧
    Coherent lookups given (request.entry lookups).state := by
  cases given with
  | none =>
    rw [entry_ask coherent.honest]
    exact ⟨(coherent.entry rfl).ask_result _ _,
      { coherent with
        presented := fun _ absent => nomatch absent
        entry := fun _ => (coherent.entry rfl).ask_state _ _ }⟩
  | some entry =>
    rw [entry_found (coherent.presented entry rfl)]
    exact ⟨rfl, coherent⟩

theorem Coherent.perform {given : Option Site.Entry} (coherent : Coherent lookups given request) (act : Act) :
    Coherent lookups (act.give given) (act.perform lookups request).state := by
  cases act with
  | setAnchor anchor =>
    exact { coherent with
      presented := fun _ absent => nomatch absent
      entry := fun _ => .inl rfl }
  | setCategory name => exact { coherent with category := .inl rfl }
  | setCustomPage link => exact { coherent with template := .inl rfl }
  | setEntry entry =>
    exact { coherent with
      presented := fun other same => congrArg Memo.found (Option.some.inj same)
      entry := fun absent => nomatch absent }
  | copy => exact fresh_coherent lookups request.descriptor
  | setDate date => exact { coherent with }
  | setTags tags => exact { coherent with }
  | setPageNumber number => exact { coherent with }
  | setParameters parameters => exact { coherent with }
  | read cell =>
    cases cell with
    | entry => exact coherent.read_entry.2
    | category =>
      rw [Act.perform, Cell.read, category_ask]
      exact { coherent with category := coherent.category.ask_state _ _ }
    | template =>
      rw [Act.perform, Cell.read, template_ask]
      exact { coherent with template := coherent.template.ask_state _ _ }
    | theme =>
      rw [Act.perform, Cell.read, theme_ask]
      exact { coherent with theme := coherent.theme.ask_state _ _ }

theorem after_append (lookups : Site.Lookups) (request : PageRequest) (past : List Act) (act : Act) :
    after lookups request (past ++ [act]) = (act.perform lookups (after lookups request past)).state := by
  rw [after, List.foldl_append]
  rfl

theorem after_described (lookups : Site.Lookups) (asked : Descriptor) (past : List Act) :
    (after lookups (fresh asked) past).descriptor = described asked past := by
  induction past using List.reverseRecOn with
  | nil => rfl
  | append_singleton past act ih =>
    rw [after_append, perform_descriptor, ih, described, described, List.foldl_append]
    rfl

theorem after_coherent (lookups : Site.Lookups) (asked : Descriptor) (past : List Act) :
    Coherent lookups (given past) (after lookups (fresh asked) past) := by
  induction past using List.reverseRecOn with
  | nil => exact fresh_coherent lookups asked
  | append_singleton past act ih =>
    rw [after_append, given, List.foldl_append]
    exact ih.perform act

/-- However a request is used, its getters answer for the names that it gives at the moment, save for an
entry that was given outright; and while a cell is not reset its lookup is made once at most, and an
error is logged just when that lookup fails. -/
theorem lazy_resolution (lookups : Site.Lookups) (descriptor : Descriptor) (past : List Act) :
    let request := after lookups (fresh descriptor) past
    let asked := described descriptor past
    request.descriptor = asked ∧
    (request.entry lookups).result =
      (given past).or
        (Memo.record (lookups.entry asked.handle) ((asked.preview.bind (·.entry)).or asked.anchor)) ∧
    (request.category lookups).result = Memo.record (lookups.category asked.handle) asked.category ∧
    (request.template lookups).result = Memo.record (lookups.template asked.handle) asked.customPage ∧
    (request.theme lookups).result = Memo.record lookups.theme (asked.preview.bind (·.theme)) ∧
    ∀ stretch : List Act,
      (∀ signal ∈ said lookups request stretch, ∃ cell, Cell.ofSignal? signal = some cell) ∧
      ∀ cell : Cell, (∀ act ∈ stretch, act.resets cell = false) →
        let heard := cell.heard (said lookups request stretch)
        (questions heard = [] ∧ events heard = []) ∨
        ∃ name, cell.selector asked = some name ∧ questions heard = [cell.question asked.handle name] ∧
          (events heard).map (·.level) =
            ((cell.failure? lookups asked.handle name).map fun _ => Level.error).toList := by
  intro request asked
  have names : request.descriptor = asked := after_described lookups descriptor past
  have coherent : Coherent lookups (given past) request := after_coherent lookups descriptor past
  refine ⟨names, ?_, ?_, ?_, ?_, ?_⟩
  · rw [← names, ← Descriptor.entry_anchor_eq]
    exact coherent.read_entry.1
  · rw [category_ask, ← names]
    exact coherent.category.ask_result _ _
  · rw [template_ask, ← names]
    exact coherent.template.ask_result _ _
  · rw [theme_ask, ← names]
    exact coherent.theme.ask_result _ _
  · intro stretch
    refine ⟨fun signal member => said_of_cells lookups request stretch member, ?_⟩
    intro cell kept heard
    rw [← names]
    rcases stretch_heard lookups request stretch kept with silent | ⟨_, name, named, called⟩
    · have nothing : heard = [] := silent
      rw [nothing]
      exact .inl ⟨rfl, rfl⟩
    · obtain ⟨asks, logs⟩ := call_heard_as lookups request.descriptor.handle name cell
      rw [← called] at asks logs
      exact .inr ⟨name, named, asks, logs⟩

-- The entry that was given is forgotten with its anchor, and a category that is out of reach is asked for
-- once, however often it is read.
theorem category_out_of_reach :
    let post : Site.Entry := ⟨"post", "Post", none, []⟩
    let site : Site.Contents := ⟨[], [⟨"blog", "Blog", none, "basic", [post], [], []⟩]⟩
    let lookups : Site.Lookups := { site.lookups with category := fun _ _ => .error (.backend "down") }
    let past : List Act := [.setEntry ⟨"draft", "Draft", none, []⟩, .read .entry, .setAnchor (some "post"),
      .setCategory (some "java")]
    let stretch : List Act := [.read .category, .setDate none, .read .entry, .read .category]
    let request := after lookups (fresh (.home "blog" true)) past
    let heard := Cell.heard .category (said lookups request stretch)
    (∀ act ∈ stretch, act.resets .category = false) ∧
    (request.entry lookups).result = some post ∧ (request.category lookups).result = none ∧
    questions heard = [.category "blog" "java"] ∧ (events heard).map (·.level) = [.error] := by
  intro post site lookups past stretch request heard
  obtain ⟨_, entry, category, _, _, spoken⟩ := lazy_resolution lookups (.home "blog" true) past
  have kept : ∀ act ∈ stretch, act.resets .category = false := by decide
  refine ⟨kept, entry, category, ?_⟩
  rcases (spoken stretch).2 .category kept with ⟨silent, _⟩ | ⟨name, named, asks, logs⟩
  · cases silent
  · cases named
    exact ⟨asks, logs⟩

end Coherence

end WeblogFront.PageRequest
