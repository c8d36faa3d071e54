import WeblogFront.Proofs.Settings.Layers
import WeblogFront.Settings.Raw

/-! What is read off a merged table. Every setting lies in a group, under one key or under one of several
spellings of it. Where all that the table holds can be read, the reader finds for each setting what stands
under its key; only a setting that stands there in two spellings makes it refuse the table. -/
namespace WeblogFront.Settings

inductive Tier where
  | planet
  | pages
  | salts
  deriving DecidableEq

inductive TierField where
  | enabled
  | size
  | timeout
  deriving DecidableEq

inductive Setting where
  | host
  | port
  | shutdownSeconds
  | logLevel
  | logJson
  | tagLimit
  | cache (tier : Tier) (field : TierField)
  | siteFile
  deriving DecidableEq

def Tier.key : Tier → String
  | .planet => "planet"
  | .pages => "weblogpage"
  | .salts => "salt"

def TierField.key : TierField → String
  | .enabled => "enabled"
  | .size => "size"
  | .timeout => "timeout"

namespace Setting

abbrev Content : Setting → Type
  | .host | .logLevel | .siteFile => String
  | .port | .shutdownSeconds | .tagLimit => Nat
  | .logJson => Bool
  | .cache _ .enabled => Bool
  | .cache _ .size | .cache _ .timeout => Nat

def group : Setting → List String
  | .host | .port | .shutdownSeconds => ["server"]
  | .logLevel | .logJson => ["logging"]
  | .tagLimit => ["tags", "queries"]
  | .cache tier _ => ["cache", tier.key]
  | .siteFile => ["site"]

def spellings : Setting → List String
  | .host => ["host"]
  | .port => ["port"]
  | .shutdownSeconds => ["graceful_shutdown_seconds"]
  | .logLevel => ["level"]
  | .logJson => ["json"]
  | .tagLimit => tagLimitSpellings
  | .cache _ field => [field.key]
  | .siteFile => ["file"]

def paths (setting : Setting) : List (List String) :=
  setting.spellings.map fun spelling => setting.group ++ [spelling]

theorem mem_paths {setting : Setting} {spelling : String} (listed : spelling ∈ setting.spellings) :
    setting.group ++ [spelling] ∈ setting.paths :=
  List.mem_map_of_mem listed

def read? : (setting : Setting) → Value → Option setting.Content
  | .host, value | .logLevel, value | .siteFile, value => text? value
  | .port, value => port? value
  | .shutdownSeconds, value | .tagLimit, value => count? value
  | .logJson, value => flag? value
  | .cache _ .enabled, value => flag? value
  | .cache _ .size, value | .cache _ .timeout, value => count? value

def reads (setting : Setting) (value : Value) : Bool :=
  (setting.read? value).isSome

end Setting

section Names

variable {names : List String} {members : Layer} {name other : String} {value : Value}

theorem mem_of_lookup (found : members.lookup name = some value) : (name, value) ∈ members := by
  obtain ⟨front, back, parted, -⟩ := List.lookup_eq_some_iff.mp found
  rw [parted]
  exact List.mem_append_right front List.mem_cons_self

theorem lookup_isSome (listed : (name, value) ∈ members) : (members.lookup name).isSome := by
  by_contra missing
  rw [Option.not_isSome_iff_eq_none, List.lookup_eq_none_iff] at missing
  simpa using missing (name, value) listed

theorem filter_name (distinct : (members.map Prod.fst).Nodup) (found : members.lookup name = some value) :
    members.filter (fun member => member.1 = name) = [(name, value)] := by
  obtain ⟨front, back, rfl, absent⟩ := List.lookup_eq_some_iff.mp found
  rw [List.map_append, List.map_cons] at distinct
  have fresh := (List.nodup_cons.mp (List.nodup_append.mp distinct).2.1).1
  have ahead : front.filter (fun member => member.1 = name) = [] := by
    rw [List.filter_eq_nil_iff]
    intro member listed same
    have apart := absent member listed
    simp [of_decide_eq_true same] at apart
  have behind : back.filter (fun member => member.1 = name) = [] := by
    rw [List.filter_eq_nil_iff]
    intro member listed same
    apply fresh
    change name ∈ back.map Prod.fst
    have named : member.1 = name := of_decide_eq_true same
    rw [← named]
    exact List.mem_map_of_mem listed
  simp [ahead, behind]

theorem named?_lone (distinct : (members.map Prod.fst).Nodup)
    (lone : ∀ one ∈ names, ∀ other ∈ names, (members.lookup one).isSome → (members.lookup other).isSome →
      one = other) :
    Value.named? names members = some (names.findSome? fun name => members.lookup name) := by
  cases chosen : names.findSome? fun name => members.lookup name with
  | none =>
    have absent := List.findSome?_eq_none_iff.mp chosen
    have unmet : members.filter (fun member => names.contains member.1) = [] := by
      rw [List.filter_eq_nil_iff]
      intro member listed named
      have present := lookup_isSome listed
      rw [absent member.1 (List.contains_iff_mem.mp named)] at present
      cases present
    rw [Value.named?, unmet]
  | some value =>
    obtain ⟨name, named, found⟩ := List.exists_of_findSome?_eq_some chosen
    have only : members.filter (fun member => names.contains member.1) = [(name, value)] := by
      rw [← filter_name distinct found]
      apply List.filter_congr
      intro member listed
      rw [Bool.eq_iff_iff, List.contains_iff_mem, decide_eq_true_iff]
      constructor
      · intro alsoNamed
        exact lone member.1 alsoNamed name named (lookup_isSome listed) (found ▸ rfl)
      · rintro rfl
        exact named
    rw [Value.named?, only]

theorem named?_twice (first : name ∈ names) (second : other ∈ names) (apart : name ≠ other)
    (one : (members.lookup name).isSome) (two : (members.lookup other).isSome) :
    Value.named? names members = none := by
  obtain ⟨value, found⟩ := Option.isSome_iff_exists.mp one
  obtain ⟨rival, alsoFound⟩ := Option.isSome_iff_exists.mp two
  have both : (name, value) ∈ members.filter (fun member => names.contains member.1) ∧
      (other, rival) ∈ members.filter (fun member => names.contains member.1) := by
    simp [mem_of_lookup found, mem_of_lookup alsoFound, first, second]
  unfold Value.named?
  split
  · rename_i unmet
    rw [unmet] at both
    cases both.1
  · rename_i member single
    simp only [single, List.mem_singleton] at both
    exact absurd (congrArg Prod.fst (both.1.trans both.2.symm)) apart
  · rfl

end Names

section Groups

variable {members : Layer} {value : Value} {name : String}

theorem fieldsOf_nil (members : Layer) : fieldsOf [] (.table members) = some [] :=
  rfl

theorem fieldsOf_cons (distinct : (members.map Prod.fst).Nodup) (name : String) (names : List (List String)) :
    fieldsOf ([name] :: names) (.table members) =
      (fieldsOf names (.table members)).map (members.lookup name :: ·) := by
  have single : Value.named? [name] members = some (members.lookup name) := by
    rw [named?_lone distinct] <;> simp
  simp only [fieldsOf, Value.fields?, List.mapM_cons, single, Option.bind_eq_bind, Option.bind_some]
  cases names.mapM fun spellings => Value.named? spellings members <;> rfl

theorem part_eq {absent : α} {read : Value → Option α} (empty : read (.table []) = some absent)
    (found : Option Value) : part absent read found = read (found.getD (.table [])) := by
  cases found with
  | none => exact empty.symm
  | some value => rfl

theorem optional?_read (read : Value → Option α) (null : read .null = none) {found : Option Value}
    (readable : ∀ value, found = some value → (read value).isSome) :
    optional? read found = some (found.bind read) := by
  cases found with
  | none => rfl
  | some value =>
    obtain ⟨content, reads⟩ := Option.isSome_iff_exists.mp (readable value rfl)
    cases value with
    | null => cases null.symm.trans reads
    | _ => simp [optional?, reads]

theorem at?_member (name : String) (members : Layer) :
    at? [name] (.table members) = members.lookup name := by
  simp [at?, membersOf]

theorem field_read (read : Value → Option α) (null : read .null = none)
    (settled : Settled (fun value => (read value).isSome) [name] (.table members)) :
    optional? read (members.lookup name) = some ((at? [name] (.table members)).bind read) := by
  obtain ⟨_, ⟨⟩, -, readable⟩ := settled
  rw [at?_member]
  exact optional?_read read null readable

theorem serverOf?_read (host : Settled Setting.host.reads ["host"] value)
    (port : Settled Setting.port.reads ["port"] value)
    (seconds : Settled Setting.shutdownSeconds.reads ["graceful_shutdown_seconds"] value) :
    serverOf? value = some ⟨(at? ["host"] value).bind text?, (at? ["port"] value).bind port?,
      (at? ["graceful_shutdown_seconds"] value).bind count?⟩ := by
  have ⟨members, table, distinct, _⟩ := host
  subst table
  simp only [serverOf?, fieldsOf_cons distinct, fieldsOf_nil, Option.map_some, Option.bind_eq_bind,
    Option.bind_some, field_read text? rfl host, field_read port? rfl port, field_read count? rfl seconds]

theorem loggingOf?_read (level : Settled Setting.logLevel.reads ["level"] value)
    (json : Settled Setting.logJson.reads ["json"] value) :
    loggingOf? value = some ⟨(at? ["level"] value).bind text?, (at? ["json"] value).bind flag?⟩ := by
  have ⟨members, table, distinct, _⟩ := level
  subst table
  simp only [loggingOf?, fieldsOf_cons distinct, fieldsOf_nil, Option.map_some, Option.bind_eq_bind,
    Option.bind_some, field_read text? rfl level, field_read flag? rfl json]

theorem siteFileOf?_read (file : Settled Setting.siteFile.reads ["file"] value) :
    siteFileOf? value = some ((at? ["file"] value).bind text?) := by
  have ⟨members, table, distinct, _⟩ := file
  subst table
  simp only [siteFileOf?, fieldsOf_cons distinct, fieldsOf_nil, Option.map_some, Option.bind_eq_bind,
    Option.bind_some, field_read text? rfl file]

theorem tierOf?_read {tier : Tier} (enabled : Settled (Setting.cache tier .enabled).reads ["enabled"] value)
    (size : Settled (Setting.cache tier .size).reads ["size"] value)
    (timeout : Settled (Setting.cache tier .timeout).reads ["timeout"] value) :
    tierOf? value = some ⟨(at? ["enabled"] value).bind flag?, (at? ["size"] value).bind count?,
      (at? ["timeout"] value).bind count?⟩ := by
  have ⟨members, table, distinct, _⟩ := enabled
  subst table
  simp only [tierOf?, fieldsOf_cons distinct, fieldsOf_nil, Option.map_some, Option.bind_eq_bind,
    Option.bind_some, field_read flag? rfl enabled, field_read count? rfl size,
    field_read count? rfl timeout]

def tierAt (key : String) (value : Value) : RawTier where
  enabled := (at? [key, "enabled"] value).bind flag?
  size := (at? [key, "size"] value).bind count?
  timeout := (at? [key, "timeout"] value).bind count?

theorem cachesOf?_read
    (settled : ∀ tier field, Settled (Setting.cache tier field).reads [tier.key, field.key] value) :
    cachesOf? value = some ⟨tierAt "planet" value, tierAt "weblogpage" value, tierAt "salt" value⟩ := by
  have ⟨members, table, distinct, _⟩ := settled .planet .enabled
  subst table
  have tierRead (tier : Tier) :
      part .absent tierOf? (members.lookup tier.key) = some (tierAt tier.key (.table members)) := by
    have ⟨enabled, enabledHere⟩ := member_settled (List.cons_ne_nil _ _) (settled tier .enabled)
    have ⟨size, sizeHere⟩ := member_settled (List.cons_ne_nil _ _) (settled tier .size)
    have ⟨timeout, timeoutHere⟩ := member_settled (List.cons_ne_nil _ _) (settled tier .timeout)
    have empty : tierOf? (.table []) = some .absent := rfl
    rw [part_eq empty, tierOf?_read enabled size timeout]
    simp only [TierField.key] at enabledHere sizeHere timeoutHere
    simp only [tierAt, enabledHere, sizeHere, timeoutHere]
  have planet := tierRead .planet
  have pages := tierRead .pages
  have salts := tierRead .salts
  simp only [Tier.key] at planet pages salts
  simp only [cachesOf?, fieldsOf_cons distinct, fieldsOf_nil, Option.map_some, Option.bind_eq_bind,
    Option.bind_some, planet, pages, salts]

section TagLimit

variable {path : List String}

/-- A value in which the tag limit can be read, in any spelling, at the end of a path to its table. -/
def Limited (path : List String) (value : Value) : Prop :=
  ∀ spelling ∈ tagLimitSpellings, Settled Setting.tagLimit.reads (path ++ [spelling]) value

def Lone (path : List String) (value : Value) : Prop :=
  ∀ one ∈ tagLimitSpellings, ∀ other ∈ tagLimitSpellings,
    (at? (path ++ [one]) value).isSome → (at? (path ++ [other]) value).isSome → one = other

def limitAt (path : List String) (value : Value) : Option Nat :=
  (tagLimitSpellings.findSome? fun spelling => at? (path ++ [spelling]) value).bind count?

theorem tagQueriesOf?_read (limited : Limited [] value) (lone : Lone [] value) :
    tagQueriesOf? value = some (limitAt [] value) := by
  have ⟨members, table, distinct, _⟩ := limited "max_intersection_size" List.mem_cons_self
  subst table
  simp only [Lone, limitAt, List.nil_append, at?_member] at lone ⊢
  have named := named?_lone distinct lone
  have readable : ∀ value, (tagLimitSpellings.findSome? fun spelling => members.lookup spelling) = some value →
      (count? value).isSome := by
    intro value chosen
    obtain ⟨spelling, listed, found⟩ := List.exists_of_findSome?_eq_some chosen
    obtain ⟨_, ⟨⟩, -, reads⟩ := limited spelling listed
    exact reads value found
  simp only [tagQueriesOf?, fieldsOf, Value.fields?, List.mapM_cons, List.mapM_nil, named]
  exact optional?_read count? rfl readable

theorem tagQueriesOf?_twice (limited : Limited [] value) (twice : ¬ Lone [] value) :
    tagQueriesOf? value = none := by
  simp only [Lone, not_forall] at twice
  obtain ⟨one, first, other, second, given, again, apart⟩ := twice
  have ⟨members, table, _⟩ := limited one first
  subst table
  simp only [List.nil_append, at?_member] at given again
  simp only [tagQueriesOf?, fieldsOf, Value.fields?, List.mapM_cons, List.mapM_nil,
    named?_twice first second apart given again]
  rfl

/-- On the way to the table of the tag limit, what is missing counts as an empty table. -/
theorem limited_below {key : String} (limited : Limited (key :: path) (.table members)) :
    Limited path ((members.lookup key).getD (.table [])) ∧
      (Lone path ((members.lookup key).getD (.table [])) ↔ Lone (key :: path) (.table members)) ∧
      limitAt path ((members.lookup key).getD (.table [])) = limitAt (key :: path) (.table members) := by
  have below (spelling : String) (listed : spelling ∈ tagLimitSpellings) :=
    member_settled (List.concat_ne_nil spelling path) (limited spelling listed)
  refine ⟨fun spelling listed => (below spelling listed).1, ?_, ?_⟩
  · apply forall₂_congr
    intro one first
    apply forall₂_congr
    intro other second
    rw [(below one first).2, (below other second).2]
    rfl
  · apply congrArg (Option.bind · count?)
    apply findSome?_congr
    intro spelling listed
    exact (below spelling listed).2

end TagLimit

end Groups

section Whole

def Raw.ofSettings (given : (setting : Setting) → Option setting.Content) : Raw where
  server := ⟨given .host, given .port, given .shutdownSeconds⟩
  logging := ⟨given .logLevel, given .logJson⟩
  tagLimit := given .tagLimit
  caches := ⟨tierOf .planet, tierOf .pages, tierOf .salts⟩
  siteFile := given .siteFile
where
  tierOf (tier : Tier) : RawTier :=
    ⟨given (.cache tier .enabled), given (.cache tier .size), given (.cache tier .timeout)⟩

def Setting.held? (setting : Setting) (table : Layer) : Option setting.Content :=
  (setting.paths.findSome? fun path => at? path (.table table)).bind setting.read?

/-- A merged table in which every setting can be read, wherever it stands. -/
def Readable (table : Layer) : Prop :=
  ∀ setting : Setting, ∀ path ∈ setting.paths, Settled setting.reads path (.table table)

variable {table : Layer}

theorem held?_single {setting : Setting} {path : List String} (single : setting.paths = [path])
    (table : Layer) : setting.held? table = (at? path (.table table)).bind setting.read? := by
  simp [Setting.held?, single]

theorem held?_tagLimit (table : Layer) :
    Setting.tagLimit.held? table = limitAt ["tags", "queries"] (.table table) := by
  unfold Setting.held? limitAt
  rw [Setting.paths, List.findSome?_map]
  rfl

variable (readable : Readable table)
include readable

theorem group_part {setting : Setting} {key : String} {rest : List String} (onward : rest ≠ [])
    (single : setting.paths = [key :: rest]) :
    Settled setting.reads rest ((table.lookup key).getD (.table [])) ∧
      (at? rest ((table.lookup key).getD (.table []))).bind setting.read? = setting.held? table := by
  have listed : key :: rest ∈ setting.paths := single ▸ List.mem_cons_self
  have ⟨below, here⟩ := member_settled onward (readable setting _ listed)
  refine ⟨below, ?_⟩
  rw [here, held?_single single]

theorem server_part :
    part Raw.absent.server serverOf? (table.lookup "server") =
      some ⟨Setting.host.held? table, Setting.port.held? table, Setting.shutdownSeconds.held? table⟩ := by
  have ⟨host, hostHere⟩ := group_part readable (List.cons_ne_nil _ _) (rfl : Setting.host.paths = _)
  have ⟨port, portHere⟩ := group_part readable (List.cons_ne_nil _ _) (rfl : Setting.port.paths = _)
  have ⟨seconds, secondsHere⟩ :=
    group_part readable (List.cons_ne_nil _ _) (rfl : Setting.shutdownSeconds.paths = _)
  have empty : serverOf? (.table []) = some Raw.absent.server := rfl
  rw [part_eq empty, serverOf?_read host port seconds, ← hostHere, ← portHere, ← secondsHere]
  rfl

theorem logging_part :
    part Raw.absent.logging loggingOf? (table.lookup "logging") =
      some ⟨Setting.logLevel.held? table, Setting.logJson.held? table⟩ := by
  have ⟨level, levelHere⟩ := group_part readable (List.cons_ne_nil _ _) (rfl : Setting.logLevel.paths = _)
  have ⟨json, jsonHere⟩ := group_part readable (List.cons_ne_nil _ _) (rfl : Setting.logJson.paths = _)
  have empty : loggingOf? (.table []) = some Raw.absent.logging := rfl
  rw [part_eq empty, loggingOf?_read level json, ← levelHere, ← jsonHere]
  rfl

theorem site_part :
    part none siteFileOf? (table.lookup "site") = some (Setting.siteFile.held? table) := by
  have ⟨file, fileHere⟩ := group_part readable (List.cons_ne_nil _ _) (rfl : Setting.siteFile.paths = _)
  have empty : siteFileOf? (.table []) = some none := rfl
  rw [part_eq empty, siteFileOf?_read file, ← fileHere]
  rfl

theorem caches_part :
    part Raw.absent.caches cachesOf? (table.lookup "cache") =
      some (Raw.ofSettings (Setting.held? · table)).caches := by
  have each (tier : Tier) (field : TierField) :=
    group_part readable (List.cons_ne_nil _ _) (rfl : (Setting.cache tier field).paths = _)
  have empty : cachesOf? (.table []) = some Raw.absent.caches := rfl
  rw [part_eq empty, cachesOf?_read fun tier field => (each tier field).1]
  have tierHere (tier : Tier) :
      tierAt tier.key ((table.lookup "cache").getD (.table [])) =
        Raw.ofSettings.tierOf (Setting.held? · table) tier := by
    simp only [Raw.ofSettings.tierOf, ← (each tier _).2]
    rfl
  have planet := tierHere .planet
  have pages := tierHere .pages
  have salts := tierHere .salts
  simp only [Tier.key] at planet pages salts
  rw [planet, pages, salts]
  rfl

theorem tags_reached :
    ∃ queries, Limited [] queries ∧ (Lone [] queries ↔ Lone ["tags", "queries"] (.table table)) ∧
      limitAt [] queries = Setting.tagLimit.held? table ∧
        part none tagsOf? (table.lookup "tags") = tagQueriesOf? queries := by
  have limited : Limited ["tags", "queries"] (.table table) := by
    intro spelling listed
    exact readable .tagLimit _ (Setting.mem_paths listed)
  have ⟨tagsLimited, tagsLone, tagsLimit⟩ := limited_below limited
  have ⟨members, tags, distinct, _⟩ := tagsLimited "max_intersection_size" List.mem_cons_self
  rw [tags] at tagsLimited tagsLone tagsLimit
  have ⟨below, lone, limit⟩ := limited_below tagsLimited
  refine ⟨_, below, lone.trans tagsLone, ?_, ?_⟩
  · rw [limit, tagsLimit, held?_tagLimit]
  · have noTags : tagsOf? (.table []) = some none := rfl
    have noQueries : tagQueriesOf? (.table []) = some none := rfl
    rw [part_eq noTags, tags]
    simp only [tagsOf?, fieldsOf_cons distinct, fieldsOf_nil, Option.map_some, Option.bind_eq_bind,
      Option.bind_some, part_eq noQueries]

theorem ofLayer?_read (lone : Lone ["tags", "queries"] (.table table)) :
    Raw.ofLayer? table = some (Raw.ofSettings (Setting.held? · table)) := by
  have ⟨members, same, distinct, _⟩ := readable .host _ List.mem_cons_self
  cases same
  have ⟨queries, limited, loneHere, limit, tags⟩ := tags_reached readable
  rw [tagQueriesOf?_read limited (loneHere.mpr lone), limit] at tags
  simp only [Raw.ofLayer?, fieldsOf_cons distinct, fieldsOf_nil, Option.map_some, Option.bind_eq_bind,
    Option.bind_some, server_part readable, logging_part readable, tags, caches_part readable,
    site_part readable]
  rfl

theorem ofLayer?_twice (twice : ¬ Lone ["tags", "queries"] (.table table)) :
    Raw.ofLayer? table = none := by
  have ⟨members, same, distinct, _⟩ := readable .host _ List.mem_cons_self
  cases same
  have ⟨queries, limited, loneHere, _, tags⟩ := tags_reached readable
  rw [tagQueriesOf?_twice limited (mt loneHere.mp twice)] at tags
  simp only [Raw.ofLayer?, fieldsOf_cons distinct, fieldsOf_nil, Option.map_some, Option.bind_eq_bind,
    Option.bind_some, server_part readable, logging_part readable, tags, Option.bind_none]

end Whole

end WeblogFront.Settings
