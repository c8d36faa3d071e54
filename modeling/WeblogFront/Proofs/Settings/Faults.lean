import WeblogFront.Proofs.Settings.Precedence

/-! Which fault is named, and how far a command reaches. What is checked is the flag of the command where
there is one, else what was given, else the default. All of it is checked in one order, and the first
requirement that is not met is the one that is named; a command that has no flag for a setting leaves it
alone, in the settings that come out as well. -/
namespace WeblogFront.Settings

section Chosen

def RawCaches.tier (caches : RawCaches) : Tier → RawTier
  | .planet => caches.planet
  | .pages => caches.pages
  | .salts => caches.salts

def Raw.given (raw : Raw) : (setting : Setting) → Option setting.Content
  | .host => raw.server.host
  | .port => raw.server.port
  | .shutdownSeconds => raw.server.shutdownSeconds
  | .logLevel => raw.logging.level
  | .logJson => raw.logging.json
  | .tagLimit => raw.tagLimit
  | .cache tier .enabled => (raw.caches.tier tier).enabled
  | .cache tier .size => (raw.caches.tier tier).size
  | .cache tier .timeout => (raw.caches.tier tier).timeout
  | .siteFile => raw.siteFile

theorem ofSettings_given (raw : Raw) : Raw.ofSettings raw.given = raw := rfl

/-- The flag of the command, else what is given, else the default. -/
def chosen (raw : Raw) (task : Option CommandLine.Task) (setting : Setting) : setting.Content :=
  ((setting.flag? task).or (raw.given setting)).getD setting.default

def unmet? (value : (setting : Setting) → setting.Content) : Option Requirement :=
  (requirements value).find? fun requirement => !requirement.met

variable {α : Type} {required : List Requirement} {holds : α → Prop} {result : Except Problem α}

theorem Asks.first (asked : Asks required holds result) :
    match required.find? fun requirement => !requirement.met with
    | none => ∃ value, result = .ok value ∧ holds value
    | some requirement => result = .error requirement.problem := by
  cases asked with
  | @passed value met gives =>
    have none_unmet : required.find? (fun requirement => !requirement.met) = none := by
      rw [List.find?_eq_none]
      intro requirement member
      simp [met requirement member]
    rw [none_unmet]
    exact ⟨value, rfl, gives⟩
  | @failed before after requirement parted met unmet =>
    have first_unmet : required.find? (fun requirement => !requirement.met) = some requirement := by
      rw [List.find?_eq_some_iff_append, parted]
      refine ⟨by simp [unmet], before, after, rfl, fun earlier member => ?_⟩
      simp [met earlier member]
    rw [first_unmet]

theorem check_chosen (raw : Raw) (task : Option CommandLine.Task) :
    match unmet? (chosen raw task) with
    | none => ∃ checked, check (raw.withTask task) = .ok checked ∧ checked.Holds (chosen raw task)
    | some requirement => check (raw.withTask task) = .error requirement.problem := by
  have asked := check_asks fun setting => (setting.flag? task).or (raw.given setting)
  rw [← withTask_ofSettings, ofSettings_given] at asked
  exact asked.first

end Chosen

section Reach

variable {raw : Raw} {task other : Option CommandLine.Task}
  {value : (setting : Setting) → setting.Content}

theorem Checked.Holds.unique {left right : Checked} (leftHolds : left.Holds value)
    (rightHolds : right.Holds value) : left = right := by
  have address : left.address = right.address :=
    Option.some.inj (leftHolds.address.symm.trans rightHolds.address)
  have level : left.logLevel = right.logLevel :=
    Option.some.inj (leftHolds.logLevel.symm.trans rightHolds.logLevel)
  have tiers (tier : Tier) : left.cache tier = right.cache tier :=
    (leftHolds.cache tier).trans (rightHolds.cache tier).symm
  obtain ⟨_, seconds, _, format, tagLimit, _, file⟩ := leftHolds
  obtain ⟨_, alsoSeconds, _, alsoFormat, alsoTagLimit, _, alsoFile⟩ := rightHolds
  cases left
  cases right
  simp only at *
  have planet := tiers .planet
  have pages := tiers .pages
  have salts := tiers .salts
  simp only [Checked.cache] at planet pages salts
  simp [address, level, planet, pages, salts, seconds, format, tagLimit, file, alsoSeconds, alsoFormat,
    alsoTagLimit, alsoFile]

theorem check_ok_iff {checked : Checked} :
    check (raw.withTask task) = .ok checked ↔
      unmet? (chosen raw task) = none ∧ checked.Holds (chosen raw task) := by
  have outcome := check_chosen raw task
  cases fault : unmet? (chosen raw task) with
  | none =>
    rw [fault] at outcome
    obtain ⟨found, passed, held⟩ := outcome
    rw [passed]
    constructor
    · rintro ⟨⟩
      exact ⟨rfl, held⟩
    · rintro ⟨-, alsoHeld⟩
      rw [held.unique alsoHeld]
  | some requirement =>
    rw [fault] at outcome
    simp [outcome]

def Checked.withoutCaches (checked : Checked) : Checked :=
  { checked with planet := checked.planet.disabled, pages := checked.pages.disabled }

/-- Whether a cache is enabled is not asked, and it is all that the switch decides. -/
theorem check_without_caches (raw : Raw) (flags : CommandLine.ServeFlags) :
    check (raw.withTask (some (.serve { flags with noCache := true }))) =
      (check (raw.withTask (some (.serve { flags with noCache := false })))).map
        Checked.withoutCaches := by
  have outcome := check_chosen raw (some (.serve { flags with noCache := false }))
  have same : unmet? (chosen raw (some (.serve { flags with noCache := true }))) =
      unmet? (chosen raw (some (.serve { flags with noCache := false }))) := rfl
  cases fault : unmet? (chosen raw (some (.serve { flags with noCache := false }))) with
  | some requirement =>
    have also := check_chosen raw (some (.serve { flags with noCache := true }))
    rw [same, fault] at also
    rw [fault] at outcome
    rw [outcome, also]
    rfl
  | none =>
    rw [fault] at outcome
    obtain ⟨checked, passed, held⟩ := outcome
    rw [passed]
    refine check_ok_iff.mpr ⟨same.trans fault, ?_⟩
    obtain ⟨address, seconds, level, format, tagLimit, cache, file⟩ := held
    refine ⟨address, seconds, level, format, tagLimit, ?_, file⟩
    rintro (_ | _ | _)
    · exact congrArg Cache.Settings.disabled (cache .planet)
    · exact congrArg Cache.Settings.disabled (cache .pages)
    · exact cache .salts

theorem unmet_eq_none_iff : unmet? value = none ↔ Valid value := by
  rw [← requirements_met_iff, unmet?, List.find?_eq_none]
  simp

theorem chosen_classifying (raw : Raw) (flags : CommandLine.ClassifyFlags) (tier : Tier) (field : TierField) :
    chosen raw (some (.classify flags)) (.cache tier field) = chosen raw none (.cache tier field) := by
  cases tier <;> cases field <;> rfl

theorem classifying_unmet (flags : CommandLine.ClassifyFlags) (valid : Valid (chosen raw none)) :
    unmet? (chosen raw (some (.classify flags))) =
      if flags.tagLimit = some 0 then some (.positive "tags.queries.max_intersection_size" 0)
      else none := by
  have port : chosen raw (some (.classify flags)) .port ≠ 0 := valid.port
  have address : (Address.parse? (chosen raw (some (.classify flags)) .host)
    (chosen raw (some (.classify flags)) .port)).isSome := valid.address
  have seconds : chosen raw (some (.classify flags)) .shutdownSeconds ≠ 0 := valid.shutdownSeconds
  have level : (LogLevel.parse? (chosen raw (some (.classify flags)) .logLevel)).isSome := valid.logLevel
  have zero : chosen raw (some (.classify flags)) .tagLimit = 0 ↔ flags.tagLimit = some 0 := by
    have given : chosen raw none .tagLimit ≠ 0 := valid.tagLimit
    cases limit : flags.tagLimit with
    | none => simpa [chosen, Setting.flag?, limit] using given
    | some limit => simp [chosen, Setting.flag?, limit]
  by_cases none_allowed : flags.tagLimit = some 0
  · rw [if_pos none_allowed]
    simp [unmet?, requirements, Requirement.address, Requirement.positive, Requirement.level, port, address,
      seconds, level, zero.mpr none_allowed]
  · rw [if_neg none_allowed, unmet_eq_none_iff]
    refine ⟨port, address, seconds, level, mt zero.mp none_allowed, ?_, ?_⟩
    · intro tier
      rw [chosen_classifying]
      exact valid.timeout tier
    · intro tier
      rw [chosen_classifying]
      exact valid.size tier

/-- A limit for the tags is all that the command to classify can add to settings that pass without it. -/
theorem check_classifying {plain : Checked} (passed : check raw = .ok plain)
    (flags : CommandLine.ClassifyFlags) :
    check (raw.withTask (some (.classify flags))) =
      if flags.tagLimit = some 0 then
        .error (Requirement.positive "tags.queries.max_intersection_size" 0).problem
      else .ok { plain with tagLimit := flags.tagLimit.getD plain.tagLimit } := by
  have alone : check (raw.withTask none) = .ok plain := passed
  obtain ⟨met, held⟩ := check_ok_iff.mp alone
  have unmet := classifying_unmet flags (unmet_eq_none_iff.mp met)
  split
  case isTrue zero =>
    have outcome := check_chosen raw (some (.classify flags))
    rw [unmet, if_pos zero] at outcome
    exact outcome
  case isFalse nonzero =>
    refine check_ok_iff.mpr ⟨unmet.trans (if_neg nonzero), ?_⟩
    constructor
    · exact held.address
    · exact held.shutdownSeconds
    · exact held.logLevel
    · exact held.logFormat
    · rw [held.tagLimit]
      cases limit : flags.tagLimit <;> simp [chosen, Setting.flag?, limit]
    · intro tier
      simp only [chosen_classifying]
      exact held.cache tier
    · exact held.siteFile

/-- Settings pass exactly when every requirement is met by what is chosen for each of them, a flag before what
is given and that before the default, and then they hold what was chosen; else the first requirement that is
not met is named. To do without caches disables the two tiers of rendered views, changes nothing else and
asks for nothing else; and to classify changes nothing but the limit for the tags. -/
theorem first_fault_named (raw : Raw) :
    (∀ task, match unmet? (chosen raw task) with
      | none => ∃ checked, check (raw.withTask task) = .ok checked ∧ checked.Holds (chosen raw task)
      | some requirement => check (raw.withTask task) = .error requirement.problem) ∧
    (∀ flags : CommandLine.ServeFlags,
      check (raw.withTask (some (.serve { flags with noCache := true }))) =
        (check (raw.withTask (some (.serve { flags with noCache := false })))).map
          Checked.withoutCaches) ∧
    ∀ (flags : CommandLine.ClassifyFlags) (plain : Checked), check raw = .ok plain →
      check (raw.withTask (some (.classify flags))) =
        if flags.tagLimit = some 0 then
          .error (Requirement.positive "tags.queries.max_intersection_size" 0).problem
        else .ok { plain with tagLimit := flags.tagLimit.getD plain.tagLimit } :=
  ⟨check_chosen raw, check_without_caches raw, fun flags _ passed => check_classifying passed flags⟩

-- The limit given is five; the second settings have four faults, of which the flag of the port mends one.
theorem broken_planet_timeout_named :
    let raw : Raw := { Raw.absent with tagLimit := some 5 }
    let faulty : Raw :=
      { raw with
        server := ⟨none, some 0, none⟩
        caches := ⟨⟨none, some 0, some 0⟩, .absent, ⟨none, none, some 0⟩⟩ }
    let flags : CommandLine.ServeFlags := { CommandLine.ServeFlags.absent with port := some 81 }
    let plain : Checked :=
      ⟨.v4 [127, 0, 0, 1] 8080, 30, .info, .compact, 5, .planet, .pages, .salts, none⟩
    check raw = .ok plain ∧
    check (raw.withTask (some (.classify ⟨some 2, none, "/page"⟩))) = .ok { plain with tagLimit := 2 } ∧
    check (raw.withTask (some (.classify ⟨some 0, none, "/page"⟩))) =
      .error (.invalid "tags.queries.max_intersection_size" "must be greater than zero") ∧
    check faulty = .error (.invalid "server.port" "port must be greater than zero") ∧
    check (faulty.withTask (some (.serve flags))) =
      .error (.invalid "cache.planet.timeout" "must be greater than zero") := by
  intro raw faulty flags plain
  have passed : check raw = .ok plain := by decide +kernel
  have second : unmet? (chosen faulty (some (.serve flags))) = some (.positive "cache.planet.timeout" 0) := by
    decide +kernel
  have named := (first_fault_named faulty).1 (some (.serve flags))
  rw [second] at named
  refine ⟨passed, ?_, ?_, ?_, named⟩
  · exact (first_fault_named raw).2.2 ⟨some 2, none, "/page"⟩ plain passed
  · exact (first_fault_named raw).2.2 ⟨some 0, none, "/page"⟩ plain passed
  · exact (first_fault_named faulty).1 none

end Reach

end WeblogFront.Settings
