import WeblogFront.Proofs.Settings.Reading
import WeblogFront.Settings.Checked

/-! Which values a run can use. A setting that is given nowhere has its default, and then the checks see one
value for each setting, given or not. They pass when all of these are valid, and what they leave is the
same values, the host and the level in the form that the run wants. Otherwise the first requirement that
is not met is the one that is named. -/
namespace WeblogFront.Settings

section Values

def Tier.defaults : Tier → Cache.Settings
  | .planet => .planet
  | .pages => .pages
  | .salts => .salts

def Setting.default : (setting : Setting) → setting.Content
  | .host => defaultHost
  | .port => defaultPort
  | .shutdownSeconds => defaultShutdownSeconds
  | .logLevel => LogLevel.info.name
  | .logJson => false
  | .tagLimit => Request.defaultTagLimit
  | .cache tier .enabled => tier.defaults.enabled
  | .cache tier .size => tier.defaults.size
  | .cache tier .timeout => tier.defaults.timeout
  | .siteFile => ""

structure Valid (value : (setting : Setting) → setting.Content) : Prop where
  port : value .port ≠ 0
  address : (Address.parse? (value .host) (value .port)).isSome
  shutdownSeconds : value .shutdownSeconds ≠ 0
  logLevel : (LogLevel.parse? (value .logLevel)).isSome
  tagLimit : value .tagLimit ≠ 0
  timeout (tier : Tier) : value (.cache tier .timeout) ≠ 0
  size (tier : Tier) : value (.cache tier .size) ≠ 0

def Checked.cache (checked : Checked) : Tier → Cache.Settings
  | .planet => checked.planet
  | .pages => checked.pages
  | .salts => checked.salts

structure Checked.Holds (checked : Checked) (value : (setting : Setting) → setting.Content) : Prop where
  address : Address.parse? (value .host) (value .port) = some checked.address
  shutdownSeconds : checked.shutdownSeconds = value .shutdownSeconds
  logLevel : LogLevel.parse? (value .logLevel) = some checked.logLevel
  logFormat : checked.logFormat = if value .logJson then .json else .compact
  tagLimit : checked.tagLimit = value .tagLimit
  cache (tier : Tier) : checked.cache tier =
    ⟨value (.cache tier .enabled), value (.cache tier .size), value (.cache tier .timeout)⟩
  siteFile : checked.siteFile = if (value .siteFile).isEmpty then none else some (value .siteFile)

end Values

section Requirements

/-- What is asked of the values, and the problem that there is when they do not meet it. -/
structure Requirement where
  key : String
  reason : String
  met : Bool
  deriving DecidableEq

def Requirement.problem (requirement : Requirement) : Problem :=
  .invalid requirement.key requirement.reason

def addressReason (host : String) (port : Nat) : String :=
  "invalid address `" ++ (host ++ ":" ++ String.ofList (Text.decimal port)) ++
    "`: invalid socket address syntax"

def Requirement.positive (key : String) (value : Nat) : Requirement :=
  ⟨key, "must be greater than zero", value ≠ 0⟩

def Requirement.address (host : String) (port : Nat) : Requirement :=
  ⟨"server.addr", addressReason host port, (Address.parse? host port).isSome⟩

def Requirement.level (level : String) : Requirement :=
  ⟨"logging.level", levelReason, (LogLevel.parse? level).isSome⟩

/-- In a tier of caches the timeout comes before the size. -/
def Requirement.tier (id : String) (timeout size : Nat) : List Requirement :=
  [.positive (id ++ ".timeout") timeout, .positive (id ++ ".size") size]

def Tier.all : List Tier := [.planet, .pages, .salts]

def Tier.id : Tier → String
  | .planet => "cache.planet"
  | .pages => "cache.weblogpage"
  | .salts => "cache.salt"

def requirements (value : (setting : Setting) → setting.Content) : List Requirement :=
  [⟨"server.port", "port must be greater than zero", value .port ≠ 0⟩,
    .address (value .host) (value .port),
    .positive "server.graceful_shutdown_seconds" (value .shutdownSeconds),
    .level (value .logLevel),
    .positive "tags.queries.max_intersection_size" (value .tagLimit)] ++
  Tier.all.flatMap fun tier =>
    Requirement.tier tier.id (value (.cache tier .timeout)) (value (.cache tier .size))

theorem requirements_met_iff {value : (setting : Setting) → setting.Content} :
    (∀ requirement ∈ requirements value, requirement.met = true) ↔ Valid value := by
  simp only [requirements, Tier.all, Requirement.tier, Requirement.positive, Requirement.address,
    Requirement.level, List.flatMap_cons, List.flatMap_nil, List.cons_append, List.nil_append,
    List.forall_mem_cons, decide_eq_true_eq]
  constructor
  · rintro ⟨port, address, seconds, level, tagLimit, planetTimeout, planetSize, pagesTimeout, pagesSize,
      saltsTimeout, saltsSize, -⟩
    refine ⟨port, address, seconds, level, tagLimit, ?_, ?_⟩
    · rintro (_ | _ | _) <;> assumption
    · rintro (_ | _ | _) <;> assumption
  · intro valid
    exact ⟨valid.port, valid.address, valid.shutdownSeconds, valid.logLevel, valid.tagLimit,
      valid.timeout .planet, valid.size .planet, valid.timeout .pages, valid.size .pages,
      valid.timeout .salts, valid.size .salts, List.forall_mem_nil _⟩

end Requirements

section Checks

/-- A check passes exactly when what it checks is good, and gives what is wanted; else it names a key. -/
inductive Checks (good : Prop) (holds : α → Prop) : Except Problem α → Prop where
  | passed {result : α} (valid : good) (gives : holds result) : Checks good holds (.ok result)
  | failed (fault : ¬ good) (key reason : String) : Checks good holds (.error (.invalid key reason))

/-- A check that asks for these requirements, one after the other: it gives what is wanted when all of them
are met, and else it names the first one that is not. -/
inductive Asks (required : List Requirement) (holds : α → Prop) : Except Problem α → Prop where
  | passed {result : α} (met : ∀ requirement ∈ required, requirement.met = true) (gives : holds result) :
      Asks required holds (.ok result)
  | failed (before after : List Requirement) {requirement : Requirement}
      (first : required = before ++ requirement :: after)
      (met : ∀ earlier ∈ before, earlier.met = true) (unmet : requirement.met = false) :
      Asks required holds (.error requirement.problem)

variable {first second : List Requirement} {holds : α → Prop} {kept : β → Prop}

theorem Asks.bind {result : Except Problem α} {next : α → Except Problem β}
    (asked : Asks first holds result) (follows : ∀ value, holds value → Asks second kept (next value)) :
    Asks (first ++ second) kept (result >>= next) := by
  cases asked with
  | failed before after parted met unmet =>
    exact .failed before (after ++ second) (by rw [parted]; simp) met unmet
  | @passed value met gives =>
    have later := follows value gives
    change Asks (first ++ second) kept (next value)
    generalize next value = ended at later ⊢
    cases later with
    | passed alsoMet alsoGives =>
      refine .passed (fun requirement member => ?_) alsoGives
      rcases List.mem_append.mp member with earlier | later
      · exact met requirement earlier
      · exact alsoMet requirement later
    | failed before after parted alsoMet unmet =>
      refine .failed (first ++ before) after (by rw [parted]; simp) (fun earlier member => ?_) unmet
      rcases List.mem_append.mp member with here | there
      · exact met earlier here
      · exact alsoMet earlier there

theorem Asks.checks {result : Except Problem α} (asked : Asks first holds result) :
    Checks (∀ requirement ∈ first, requirement.met = true) holds result := by
  cases asked with
  | passed met gives => exact .passed met gives
  | failed before after parted _ unmet =>
    refine .failed (fun met => ?_) _ _
    have alsoMet := met _ (parted ▸ List.mem_append_right _ List.mem_cons_self)
    cases unmet.symm.trans alsoMet

theorem asks_met {requirement : Requirement} {value : α} (met : requirement.met = true)
    (gives : holds value) : Asks [requirement] holds (.ok value) :=
  .passed (List.forall_mem_singleton.mpr met) gives

theorem asks_unmet (requirement : Requirement) (unmet : requirement.met = false) :
    Asks [requirement] holds (.error requirement.problem) :=
  .failed [] [] rfl (List.forall_mem_nil _) unmet

theorem nonzero_asks (key reason : String) (value : Nat) :
    Asks [⟨key, reason, value ≠ 0⟩] (· = value)
      (if value = 0 then .error (.invalid key reason) else .ok value) := by
  by_cases zero : value = 0
  · rw [if_pos zero]
    exact asks_unmet ⟨key, reason, value ≠ 0⟩ (by simp [zero])
  · rw [if_neg zero]
    exact asks_met (by simp [zero]) rfl

theorem positive_asks (key : String) (value : Nat) :
    Asks [.positive key value] (· = value) (positive key value) :=
  nonzero_asks key _ value

theorem checkAddress_asks (host : String) (port : Nat) :
    Asks [.address host port] (fun address => Address.parse? host port = some address)
      (checkAddress host port) := by
  unfold checkAddress
  cases parsed : Address.parse? host port with
  | none => exact asks_unmet (.address host port) (by simp [Requirement.address, parsed])
  | some address => exact asks_met (by simp [Requirement.address, parsed]) rfl

theorem checkLevel_asks (level : Option String) :
    Asks [.level (level.getD LogLevel.info.name)]
      (fun read => LogLevel.parse? (level.getD LogLevel.info.name) = some read) (checkLevel level) := by
  have default : LogLevel.parse? LogLevel.info.name = some .info := by decide +kernel
  cases level with
  | none => exact asks_met (by simp [Requirement.level, default]) default
  | some text =>
    rw [checkLevel, Option.getD_some]
    cases parsed : LogLevel.parse? text with
    | none => exact asks_unmet (.level text) (by simp [Requirement.level, parsed])
    | some level => exact asks_met (by simp [Requirement.level, parsed]) rfl

theorem checkTier_asks (id : String) (defaults : Cache.Settings) (raw : RawTier) :
    Asks (Requirement.tier id (raw.timeout.getD defaults.timeout) (raw.size.getD defaults.size))
      (· = ⟨raw.enabled.getD defaults.enabled, raw.size.getD defaults.size,
        raw.timeout.getD defaults.timeout⟩) (checkTier id defaults raw) := by
  unfold checkTier
  change Asks ([_] ++ ([_] ++ [])) _ _
  apply Asks.bind (positive_asks _ _)
  rintro timeout rfl
  apply Asks.bind (positive_asks _ _)
  rintro size rfl
  exact .passed (List.forall_mem_nil _) rfl

theorem siteFile_held (given : Option String) :
    (given.filter fun path => !path.isEmpty) =
      if (given.getD "").isEmpty then none else some (given.getD "") := by
  cases given with
  | none => rfl
  | some path => by_cases empty : path = "" <;> simp [Option.filter, empty]

theorem check_asks (given : (setting : Setting) → Option setting.Content) :
    Asks (requirements fun setting => (given setting).getD setting.default)
      (Checked.Holds · fun setting => (given setting).getD setting.default)
      (check (Raw.ofSettings given)) := by
  unfold check
  -- the requirements, parted as the checks ask for them
  change Asks ([_] ++ ([_] ++ ([_] ++ ([_] ++ ([_] ++
    (Requirement.tier _ _ _ ++ (Requirement.tier _ _ _ ++ (Requirement.tier _ _ _ ++ [])))))))) _ _
  apply Asks.bind (nonzero_asks _ _ _)
  rintro port rfl
  apply Asks.bind (checkAddress_asks _ _)
  intro address parsed
  apply Asks.bind (positive_asks _ _)
  rintro seconds rfl
  apply Asks.bind (checkLevel_asks _)
  intro level read
  apply Asks.bind (positive_asks _ _)
  rintro tagLimit rfl
  apply Asks.bind (checkTier_asks "cache.planet" .planet (Raw.ofSettings given).caches.planet)
  rintro planet rfl
  apply Asks.bind (checkTier_asks "cache.weblogpage" .pages (Raw.ofSettings given).caches.pages)
  rintro pages rfl
  apply Asks.bind (checkTier_asks "cache.salt" .salts (Raw.ofSettings given).caches.salts)
  rintro salts rfl
  refine .passed (List.forall_mem_nil _) ?_
  constructor
  · exact parsed
  · rfl
  · exact read
  · rfl
  · rfl
  · intro tier
    cases tier <;> rfl
  · exact siteFile_held _

theorem check_checks (given : (setting : Setting) → Option setting.Content) :
    Checks (Valid fun setting => (given setting).getD setting.default)
      (Checked.Holds · fun setting => (given setting).getD setting.default)
      (check (Raw.ofSettings given)) := by
  rw [← requirements_met_iff]
  exact (check_asks given).checks

end Checks

end WeblogFront.Settings
