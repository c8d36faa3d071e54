import WeblogFront.Proofs.Text.Cut
import WeblogFront.Settings.Layer

/-! What a merge of layers holds at the end of a path of keys: what the highest layer says there that says
anything. A layer says it in nested tables or by a key that leads into them, and either way the tables on
the path are merged, not replaced, so that nothing else is lost. The keys of every merged table differ,
which is what lets a reader ask for one of them. -/
namespace WeblogFront.Settings

theorem findSome?_congr {search other : α → Option β} {items : List α}
    (same : ∀ item ∈ items, search item = other item) : items.findSome? search = items.findSome? other := by
  rw [← List.head?_filterMap, ← List.head?_filterMap, List.filterMap_congr same]

section Put

variable {key other : String} {value : Value} {layer : Layer}

theorem lookup_put_same (key : String) (value : Value) (layer : Layer) :
    (put key value layer).lookup key = some value := by
  induction layer with
  | nil => simp [put]
  | cons member rest ih =>
    by_cases same : member.1 = key
    · simp [put, same]
    · have apart : (key == member.1) = false := by
        simpa using fun equal => same equal.symm
      simp only [put, if_neg same, List.lookup_cons, apart]
      exact ih

theorem lookup_put_other (apart : other ≠ key) (value : Value) (layer : Layer) :
    (put key value layer).lookup other = layer.lookup other := by
  induction layer with
  | nil => simp [put, apart]
  | cons first rest ih =>
    obtain ⟨name, old⟩ := first
    by_cases same : name = key
    · subst same
      have passed : (other == name) = false := by
        simpa using apart
      simp only [put, if_pos, List.lookup_cons, passed]
    · simp only [put, if_neg same, List.lookup_cons, ih]

theorem mem_keys_put {name : String} (member : name ∈ (put key value layer).map Prod.fst) :
    name = key ∨ name ∈ layer.map Prod.fst := by
  induction layer with
  | nil => simpa [put] using member
  | cons first rest ih =>
    by_cases same : first.1 = key
    · simp only [put, if_pos same, List.map_cons, List.mem_cons] at member ⊢
      tauto
    · simp only [put, if_neg same, List.map_cons, List.mem_cons] at member ⊢
      tauto

theorem nodup_put (distinct : (layer.map Prod.fst).Nodup) (key : String) (value : Value) :
    ((put key value layer).map Prod.fst).Nodup := by
  induction layer with
  | nil => simp [put]
  | cons first rest ih =>
    have ⟨fresh, others⟩ := List.nodup_cons.mp distinct
    by_cases same : first.1 = key
    · simpa [put, same] using distinct
    · simp only [put, if_neg same, List.map_cons]
      apply List.nodup_cons.mpr ⟨_, ih others⟩
      intro member
      rcases mem_keys_put member with equal | old
      · exact same equal
      · exact fresh old

/-- A value that makes no difference to a search from the end may be put in the place of the old one. -/
theorem findSome?_put {search : String × Value → Option α}
    (same : search (key, value) = (layer.lookup key).bind fun old => search (key, old)) :
    (put key value layer).reverse.findSome? search = layer.reverse.findSome? search := by
  induction layer with
  | nil => simpa [put] using same
  | cons first rest ih =>
    obtain ⟨name, old⟩ := first
    by_cases here : name = key
    · subst here
      have unchanged : search (name, value) = search (name, old) := by
        simpa using same
      simp [put, unchanged]
    · have passed : (key == name) = false := by
        simpa using fun equal => here equal.symm
      rw [List.lookup_cons, passed] at same
      simp [put, here, ih same]

end Put

section Paths

def at? : List String → Value → Option Value
  | [], value => some value
  | key :: rest, value => ((membersOf value).lookup key).bind (at? rest)

/-- What a value says at the end of a path. Where members share a key, the last one that says anything
counts. -/
def said? : List String → Value → Option Value
  | [], value => some value
  | key :: rest, value =>
    (membersOf value).reverse.findSome? fun member =>
      if member.1 = key then said? rest member.2 else none

def saidAt? : List String → List Stride → Value → Option Value
  | path, [], value => said? path value
  | key :: rest, .member name :: strides, value =>
    if name = key then saidAt? rest strides value else none
  | _, _, _ => none

/-- What a layer says at the end of a path, by a key that leads all the way, in nested tables, or both. -/
def Layer.said? (path : List String) (layer : Layer) : Option Value :=
  layer.reverse.findSome? fun member => saidAt? path (keyPath member.1) member.2

/-- A value has tables on the way to the end of the path, and at the end one that can be read. -/
def Suits (reads : Value → Bool) : List String → Value → Prop
  | [], value => reads value = true
  | key :: rest, .table members => ∀ member ∈ members, member.1 = key → Suits reads rest member.2
  | _ :: _, _ => False

/-- The same of a value at the end of some strides. No stride leads on from the end of the path or to an
item of a list in front of it. -/
def SuitsAt (reads : Value → Bool) : List String → List Stride → Value → Prop
  | path, [], value => Suits reads path value
  | key :: rest, .member name :: strides, value => name = key → SuitsAt reads rest strides value
  | _, _, _ => False

def Layer.Suits (reads : Value → Bool) (path : List String) (layer : Layer) : Prop :=
  ∀ member ∈ layer, SuitsAt reads path (keyPath member.1) member.2

/-- A merged value: the same with keys that differ. -/
def Settled (reads : Value → Bool) : List String → Value → Prop
  | [], value => reads value = true
  | key :: rest, value =>
    ∃ members, value = .table members ∧ (members.map Prod.fst).Nodup ∧
      ∀ old, members.lookup key = some old → Settled reads rest old

/-- A merge that is settled again and holds at the end of the path what was said, or else what was there
before. -/
structure Over (reads : Value → Bool) (path : List String) (said : Option Value)
    (before after : Value) : Prop where
  settled : Settled reads path after
  holds : at? path after = said.or (at? path before)

variable {reads : Value → Bool} {path rest : List String} {key : String} {value before after : Value}

instance decidableSuits (reads : Value → Bool) :
    (path : List String) → (value : Value) → Decidable (Suits reads path value)
  | [], value => inferInstanceAs (Decidable (reads value = true))
  | key :: rest, .table members =>
    have := decidableSuits reads rest
    inferInstanceAs (Decidable (∀ member ∈ members, member.1 = key → Suits reads rest member.2))
  | _ :: _, .null | _ :: _, .flag _ | _ :: _, .integer _ | _ :: _, .real _ | _ :: _, .text _
  | _ :: _, .moment _ | _ :: _, .list _ => inferInstanceAs (Decidable False)

instance decidableSuitsAt (reads : Value → Bool) :
    (path : List String) → (strides : List Stride) → (value : Value) →
      Decidable (SuitsAt reads path strides value)
  | [], [], value => inferInstanceAs (Decidable (Suits reads [] value))
  | key :: rest, [], value => inferInstanceAs (Decidable (Suits reads (key :: rest) value))
  | key :: rest, .member name :: strides, value =>
    have := decidableSuitsAt reads rest strides value
    inferInstanceAs (Decidable (name = key → SuitsAt reads rest strides value))
  | [], _ :: _, _ | _ :: _, .item _ :: _, _ => isFalse (by simp [SuitsAt])

instance (reads : Value → Bool) (path : List String) (layer : Layer) : Decidable (layer.Suits reads path) :=
  inferInstanceAs (Decidable (∀ member ∈ layer, _))

theorem Suits.is_table (suits : Suits reads (key :: rest) value) : ∃ members, value = .table members := by
  cases value with
  | table members => exact ⟨members, rfl⟩
  | _ => cases suits

theorem settled_empty (reads : Value → Bool) (key : String) (rest : List String) :
    Settled reads (key :: rest) (.table []) :=
  ⟨[], rfl, List.nodup_nil, fun _ found => nomatch found⟩

theorem Settled.is_table (settled : Settled reads (key :: rest) value) :
    ∃ members, value = .table members :=
  settled.imp fun _ part => part.1

theorem Over.same (settled : Settled reads path before) : Over reads path none before before :=
  ⟨settled, rfl⟩

theorem Over.trans {middle : Value} {below above : Option Value}
    (first : Over reads path below before middle) (second : Over reads path above middle after) :
    Over reads path (above.or below) before after where
  settled := second.settled
  holds := by rw [second.holds, first.holds, Option.or_assoc]

theorem Over.foldl {step : Value → α → Value} {said : α → Option Value} {items : List α}
    (each : ∀ item ∈ items, ∀ value, Settled reads path value →
      Over reads path (said item) value (step value item))
    (settled : Settled reads path before) :
    Over reads path (items.reverse.findSome? said) before (items.foldl step before) := by
  induction items generalizing before with
  | nil => exact .same settled
  | cons item more ih =>
    have first := each item List.mem_cons_self before settled
    have others := ih (fun later member => each later (List.mem_cons_of_mem _ member)) first.settled
    have last : (item :: more).reverse.findSome? said = (more.reverse.findSome? said).or (said item) := by
      simp
    rw [last]
    exact first.trans others

end Paths

section Merge

variable {reads : Value → Bool} {rest : List String} {key name : String} {value : Value} {base : Layer}

theorem put_other_over (apart : name ≠ key) (settled : Settled reads (key :: rest) (.table base))
    (value : Value) :
    Over reads (key :: rest) none (.table base) (.table (put name value base)) := by
  obtain ⟨_, ⟨⟩, distinct, below⟩ := settled
  have found := lookup_put_other (Ne.symm apart) value base
  constructor
  · refine ⟨_, rfl, nodup_put distinct name value, ?_⟩
    rw [found]
    exact below
  · simp only [at?, membersOf, found, Option.none_or]

theorem put_same_over {said : Option Value} (settled : Settled reads (key :: rest) (.table base))
    (inner : Settled reads rest value)
    (holds : at? rest value = said.or (at? (key :: rest) (.table base))) :
    Over reads (key :: rest) said (.table base) (.table (put key value base)) := by
  obtain ⟨_, ⟨⟩, distinct, -⟩ := settled
  have found := lookup_put_same key value base
  constructor
  · refine ⟨_, rfl, nodup_put distinct key value, ?_⟩
    intro present same
    cases found.symm.trans same
    exact inner
  · rw [← holds]
    simp only [at?, membersOf, found, Option.bind_some]

theorem member_settled (onward : rest ≠ []) (settled : Settled reads (key :: rest) (.table base)) :
    Settled reads rest ((base.lookup key).getD (.table [])) ∧
      at? rest ((base.lookup key).getD (.table [])) = at? (key :: rest) (.table base) := by
  obtain ⟨_, ⟨⟩, -, below⟩ := settled
  cases rest with
  | nil => exact absurd rfl onward
  | cons name more =>
    cases found : base.lookup key with
    | none => exact ⟨settled_empty reads name more, by simp [at?, membersOf, found]⟩
    | some old => exact ⟨below old found, by simp [at?, membersOf, found]⟩

theorem layInto_eq_foldl (members : Layer) (target : Value) :
    layInto members target =
      members.foldl (fun merged member => .table (lay member.1 member.2 (membersOf merged))) target := by
  induction members generalizing target with
  | nil => rw [layInto]; rfl
  | cons member more ih => rw [layInto, ih]; rfl

theorem lay_eq_put (key : String) (value : Value) (layer : Layer) :
    ∃ laid, lay key value layer = put key laid layer := by
  cases value with
  | table members => exact ⟨_, by rw [lay]⟩
  | _ => exact ⟨_, by rw [lay]; simp⟩

theorem strides?_ne_nil {text : List Char} {strides : List Stride} (read : strides? text = some strides) :
    strides ≠ [] := by
  simp only [strides?] at read
  split at read
  · cases read
  · obtain ⟨others, -, rfl⟩ := Option.map_eq_some_iff.mp read
    exact List.cons_ne_nil _ _

theorem keyPath_ne_nil (key : String) : keyPath key ≠ [] := by
  unfold keyPath
  obtain ⟨first, others, parted⟩ :=
    List.exists_cons_of_ne_nil (Text.pieces_ne_nil (· == '.') key.toList)
  rw [parted, List.mapM_cons]
  cases read : strides? first with
  | none => exact List.cons_ne_nil _ _
  | some strides =>
    cases others.mapM strides? with
    | none => exact List.cons_ne_nil _ _
    | some parts =>
      intro flat
      exact strides?_ne_nil read (List.append_eq_nil_iff.mp flat).1

theorem layAt_missing {strides : List Stride} (leads : strides ≠ []) (value : Value) (old : Option Value) :
    layAt strides value (old.getD .null) = layAt strides value (old.getD (.table [])) := by
  cases old with
  | some _ => rfl
  | none =>
    cases strides with
    | nil => exact absurd rfl leads
    | cons stride more =>
      cases stride <;> cases more <;> simp only [layAt, membersOf, itemsOf, Option.getD_none]

theorem layAt_member {strides : List Stride} (leads : strides ≠ []) (key : String) (value target : Value) :
    layAt (.member key :: strides) value target =
      .table (put key (layAt strides value (((membersOf target).lookup key).getD (.table [])))
        (membersOf target)) := by
  rw [← layAt_missing leads, layAt]
  exact leads

theorem overlay_eq_foldl (layer base : Layer) :
    Value.table (overlay layer base) =
      layer.foldl (fun merged member => .table (membersOf (layAt (keyPath member.1) member.2 merged)))
        (.table base) := by
  unfold overlay
  induction layer generalizing base with
  | nil => rfl
  | cons member more ih => exact ih _

theorem merged_eq_foldl (layers : List Layer) :
    Value.table (merged layers) =
      layers.foldl (fun base layer => .table (overlay layer (membersOf base))) (.table []) := by
  unfold merged
  generalize ([] : Layer) = base
  induction layers generalizing base with
  | nil => rfl
  | cons layer more ih => exact ih _

variable (leaf : ∀ members, reads (.table members) = false)
include leaf

theorem lay_over
    (inner : ∀ {members : Layer} {target : Value}, Suits reads rest (.table members) →
      Settled reads rest target → Over reads rest (said? rest (.table members)) target (layInto members target))
    (suits : name = key → Suits reads rest value) (settled : Settled reads (key :: rest) (.table base)) :
    Over reads (key :: rest) (if name = key then said? rest value else none) (.table base)
      (.table (lay name value base)) := by
  by_cases same : name = key
  · subst same
    rw [if_pos rfl]
    cases rest with
    | nil =>
      have readable : reads value = true := suits rfl
      have put : lay name value base = put name value base := by
        cases value with
        | table members => simp [leaf] at readable
        | _ => rw [lay]; simp
      rw [put]
      exact put_same_over settled readable rfl
    | cons next more =>
      have inside := suits rfl
      obtain ⟨members, rfl⟩ := inside.is_table
      have ⟨below, was⟩ := member_settled (List.cons_ne_nil _ _) settled
      have laid := inner inside below
      rw [lay]
      apply put_same_over settled laid.settled
      rw [laid.holds, was]
  · obtain ⟨laid, put⟩ := lay_eq_put name value base
    rw [if_neg same, put]
    exact put_other_over same settled laid

/-- The recursion goes down the path; on each level the members of the upper table go over the lower one
after the other. -/
theorem layInto_over {members : Layer} {target : Value} (path : List String)
    (suits : Suits reads path (.table members)) (settled : Settled reads path target) :
    Over reads path (said? path (.table members)) target (layInto members target) := by
  induction path generalizing members target with
  | nil => simp [Suits, leaf] at suits
  | cons key rest ih =>
    rw [layInto_eq_foldl]
    apply Over.foldl _ settled
    intro member listed below belowSettled
    obtain ⟨base, rfl⟩ := belowSettled.is_table
    exact lay_over leaf ih (suits member listed) belowSettled

theorem layAt_over {path : List String} {strides : List Stride} {target : Value}
    (leads : strides ≠ []) (suits : SuitsAt reads path strides value) (settled : Settled reads path target) :
    Over reads path (saidAt? path strides value) target (layAt strides value target) := by
  induction strides generalizing path target with
  | nil => exact absurd rfl leads
  | cons stride more ih =>
    cases path with
    | nil => simp [SuitsAt] at suits
    | cons key rest =>
      obtain ⟨base, rfl⟩ := settled.is_table
      cases stride with
      | item position => simp [SuitsAt] at suits
      | member name =>
        rw [saidAt?]
        cases more with
        | nil =>
          rw [layAt, saidAt?]
          simp only [SuitsAt] at suits
          exact lay_over leaf (layInto_over leaf _) suits settled
        | cons next others =>
          by_cases same : name = key
          · subst same
            have onward := suits rfl
            cases rest with
            | nil => simp [SuitsAt] at onward
            | cons second further =>
              have ⟨below, was⟩ := member_settled (List.cons_ne_nil _ _) settled
              have laid := ih (List.cons_ne_nil next others) onward below
              rw [if_pos rfl, layAt_member (List.cons_ne_nil next others)]
              apply put_same_over settled laid.settled
              rw [laid.holds, was]
          · rw [if_neg same, layAt_member (List.cons_ne_nil next others)]
            exact put_other_over same settled _

theorem overlay_over {layer : Layer} (suits : layer.Suits reads (key :: rest))
    (settled : Settled reads (key :: rest) (.table base)) :
    Over reads (key :: rest) (layer.said? (key :: rest)) (.table base) (.table (overlay layer base)) := by
  rw [overlay_eq_foldl]
  apply Over.foldl _ settled
  intro member listed below belowSettled
  have laid := layAt_over leaf (keyPath_ne_nil member.1) (suits member listed) belowSettled
  obtain ⟨merged, same⟩ := laid.settled.is_table
  rw [same] at laid ⊢
  exact laid

/-- Of layers that suit a path, the highest one that says anything there is the one that the merge holds. -/
theorem merged_over {layers : List Layer} (suits : ∀ layer ∈ layers, layer.Suits reads (key :: rest)) :
    Settled reads (key :: rest) (.table (merged layers)) ∧
      at? (key :: rest) (.table (merged layers)) = layers.reverse.findSome? (Layer.said? (key :: rest)) := by
  have empty := settled_empty reads key rest
  have laid : Over reads (key :: rest) (layers.reverse.findSome? (Layer.said? (key :: rest)))
      (.table []) (.table (merged layers)) := by
    rw [merged_eq_foldl]
    apply Over.foldl _ empty
    intro layer listed below belowSettled
    obtain ⟨base, rfl⟩ := belowSettled.is_table
    exact overlay_over leaf (suits layer listed) belowSettled
  refine ⟨laid.settled, laid.holds.trans ?_⟩
  simp [at?, membersOf]

end Merge

section Changes

def Apart (path other : List String) : Prop :=
  ¬ path <+: other ∧ ¬ other <+: path

/-- One layer is another with a value put in at the end of a path: into its tables, or by a key that leads
all the way. -/
inductive Layer.Sets (path : List String) (value : Value) : Layer → Layer → Prop where
  | within (layer : Layer) :
      Layer.Sets path value layer (membersOf (layAt (path.map .member) value (.table layer)))
  | keyed {key : String} (front back : Layer) (leads : keyPath key = path.map .member) :
      Layer.Sets path value (front ++ back) (front ++ (key, value) :: back)

variable {path other rest : List String} {key name : String} {value : Value} {layer : Layer}

theorem Apart.nonempty (apart : Apart path other) : path ≠ [] ∧ other ≠ [] := by
  constructor
  · rintro rfl
    exact apart.1 List.nil_prefix
  · rintro rfl
    exact apart.2 List.nil_prefix

theorem Apart.tail (apart : Apart (key :: path) (key :: other)) : Apart path other := by
  constructor
  · intro leads
    exact apart.1 (List.cons_prefix_cons.mpr ⟨rfl, leads⟩)
  · intro leads
    exact apart.2 (List.cons_prefix_cons.mpr ⟨rfl, leads⟩)

theorem said?_put {laid : Value}
    (same : key = name → said? rest laid = (layer.lookup key).bind (said? rest)) :
    said? (name :: rest) (.table (put key laid layer)) = said? (name :: rest) (.table layer) := by
  apply findSome?_put
  by_cases here : key = name
  · simp only [if_pos here]
    exact same here
  · simp [if_neg here]

theorem layAt_cons_apart (key : String) (rest : List String) (value : Value) (target : Value) :
    ∃ laid, layAt ((key :: rest).map .member) value target = .table (put key laid (membersOf target)) ∧
      ∀ other, Apart rest other → said? other laid = ((membersOf target).lookup key).bind (said? other) := by
  induction rest generalizing key target with
  | nil =>
    obtain ⟨laid, put⟩ := lay_eq_put key value (membersOf target)
    refine ⟨laid, by rw [← put]; rfl, ?_⟩
    intro other apart
    exact absurd rfl apart.nonempty.1
  | cons next more ih =>
    refine ⟨_, layAt_member (List.cons_ne_nil _ _) key value target, ?_⟩
    intro other apart
    obtain ⟨laid, put, unsaid⟩ := ih next (((membersOf target).lookup key).getD (.table []))
    rw [← List.map_cons, put]
    cases other with
    | nil => exact absurd rfl apart.nonempty.2
    | cons name rest =>
      rw [said?_put]
      · cases (membersOf target).lookup key <;> rfl
      · rintro rfl
        exact unsaid rest apart.tail

theorem saidAt?_apart {strides : List Stride} (apart : Apart path other)
    (leads : strides = path.map .member) (value : Value) : saidAt? other strides value = none := by
  subst leads
  induction path generalizing other with
  | nil => exact absurd rfl apart.nonempty.1
  | cons key rest ih =>
    cases other with
    | nil => exact absurd rfl apart.nonempty.2
    | cons name more =>
      rw [List.map_cons, saidAt?]
      split
      · rename_i same
        subst same
        exact ih apart.tail
      · rfl

theorem Layer.said?_sets {before after : Layer} (sets : Layer.Sets (key :: rest) value before after)
    (plain : keyPath key = [.member key]) (apart : Apart (key :: rest) other) :
    after.said? other = before.said? other := by
  cases sets with
  | keyed front back leads =>
    simp [Layer.said?, saidAt?_apart apart leads]
  | within =>
    obtain ⟨laid, put, unsaid⟩ := layAt_cons_apart key rest value (.table before)
    rw [put]
    apply findSome?_put
    simp only [plain]
    cases other with
    | nil => exact absurd rfl apart.nonempty.2
    | cons name more =>
      by_cases same : key = name
      · subst same
        simpa [saidAt?] using unsaid more apart.tail
      · simp [saidAt?, same]

end Changes

end WeblogFront.Settings
