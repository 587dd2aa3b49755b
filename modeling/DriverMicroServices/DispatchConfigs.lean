import DriverMicroServices.Rollout
import DriverMicroServices.Tables.Newest
import DriverMicroServices.Transitions

/-! `DispatchConfigService`: settings as rows that are never overwritten. A write
appends a row with the next version of its type, key and scope, and a read takes
the greatest version of its type and scope, whatever the key. The last write is
in effect as long as the versions of different keys do not get in each other's
way and what is deactivated leaves no older row behind it. -/
namespace DriverMicroServices
open Tables Transitions

inductive ConfigType where
  | scoringWeights | thresholds | decaySettings | rolloutSettings
  deriving DecidableEq, Repr

inductive ConfigScope where
  | global | region | driverType
  deriving DecidableEq, Repr

/-- The JSON of `config_value`: the properties that some service reads, and the
others as text. A property that is not set is absent. -/
structure ConfigValue extends RolloutSettings where
  completionRate : Option Rat := none
  timing : Option Rat := none
  quality : Option Rat := none
  minimumScore : Option Rat := none
  minimumAssignments : Option Rat := none
  baseDecay : Option Rat := none
  maxDecayDays : Option Rat := none
  others : List (String × String) := []
  deriving DecidableEq

/-- `DEFAULT_CONFIGS`. -/
def ConfigType.default : ConfigType → ConfigValue
  | .scoringWeights =>
    { completionRate := some (4 / 10), timing := some (3 / 10), quality := some (3 / 10) }
  | .thresholds => { minimumScore := some 50, minimumAssignments := some 5 }
  | .decaySettings => { baseDecay := some (95 / 100), maxDecayDays := some 30 }
  | .rolloutSettings =>
    { scoringEnabled := some false, rolloutPercentage := some 0, abTestGroups := some (50, 50) }

/-- A row of `dispatch_configs`. -/
structure DispatchConfig where
  configType : ConfigType
  configScope : ConfigScope
  scopeValue : Option String := none
  configKey : String
  configValue : ConfigValue
  version : Nat := 1
  isActive : Bool := true
  deriving DecidableEq

/-- The row is found by reads of the type that name no driver. -/
def DispatchConfig.Serves (config : DispatchConfig) (configType : ConfigType) : Prop :=
  config.configType = configType ∧ config.configScope = .global ∧ config.isActive = true

instance (config : DispatchConfig) (configType : ConfigType) :
    Decidable (config.Serves configType) := inferInstanceAs (Decidable (_ ∧ _ ∧ _))

abbrev Configs := Table DispatchConfig

/-- The `scope` argument of `setConfig`. -/
structure ScopeOption where
  scope : ConfigScope
  value : Option String := none
  deriving DecidableEq, Repr

namespace DispatchConfigService

/-- The `findOne` of `getConfig`. Each query sees the rows in an order of its own. -/
def findActive (configs : Configs) (scan : List Nat) (configType : ConfigType)
    (configScope : ConfigScope) (scopeValue : Option String) : Option (Nat × DispatchConfig) :=
  configs.newest scan
    (fun _ config => config.configType = configType ∧ config.configScope = configScope ∧
      config.isActive ∧ scopeValue.all fun value => config.scopeValue = some value)
    (·.version)

def getConfig (configs : Configs) (scan : List Nat) (configType : ConfigType)
    (driverId : Option Uuid := none) : ConfigValue :=
  match driverId.bind fun id => findActive configs scan configType .driverType (some id) with
  | some (_, specificConfig) => specificConfig.configValue
  | none =>
    match findActive configs scan configType .global none with
    | some (_, globalConfig) => globalConfig.configValue
    | none => configType.default

/-- The `findOne` of `setConfig`. A missing scope value is not part of the filter. -/
def findExisting (configs : Configs) (scan : List Nat) (configType : ConfigType)
    (configKey : String) (scope : Option ScopeOption) : Option (Nat × DispatchConfig) :=
  configs.newest scan
    (fun _ config => config.configType = configType ∧ config.configKey = configKey ∧
      config.configScope = (scope.map (·.scope)).getD .global ∧
      (scope.bind (·.value)).all fun value => config.scopeValue = some value)
    (·.version)

/-- The row that `setConfig` appends. -/
def newConfig (configs : Configs) (scan : List Nat) (configType : ConfigType)
    (configKey : String) (configValue : ConfigValue) (scope : Option ScopeOption) :
    DispatchConfig where
  configType := configType
  configScope := (scope.map (·.scope)).getD .global
  scopeValue := truthy (scope.bind (·.value))
  configKey := configKey
  configValue := configValue
  version :=
    match findExisting configs scan configType configKey scope with
    | some (_, existingConfig) => existingConfig.version + 1
    | none => 1

def setConfig (configs : Configs) (scan : List Nat) (configType : ConfigType)
    (configKey : String) (configValue : ConfigValue) (scope : Option ScopeOption) : Configs :=
  configs.insert (newConfig configs scan configType configKey configValue scope)

/-- `{ ...currentConfig, ...settings }`. -/
def merge (currentConfig : ConfigValue) (settings : RolloutSettings) : ConfigValue :=
  { currentConfig with
    scoringEnabled := settings.scoringEnabled.or currentConfig.scoringEnabled
    rolloutPercentage := settings.rolloutPercentage.or currentConfig.rolloutPercentage
    abTestGroups := settings.abTestGroups.or currentConfig.abTestGroups }

def updateRolloutSettings (configs : Configs) (scan : List Nat) (settings : RolloutSettings) :
    Configs :=
  setConfig configs scan .rolloutSettings "rollout_settings"
    (merge (getConfig configs scan .rolloutSettings) settings) (some { scope := .global })

def deactivateConfig (configs : Configs) (configId : Nat) : Except Exception Configs :=
  match configs.row configId with
  | some _ => .ok (configs.update (fun id _ => id = configId) ({ · with isActive := false }))
  | none => .error (.notFound s!"Configuration not found: {configId}")

end DispatchConfigService

/-! ## Histories -/

/-- A call that writes the settings. -/
inductive ConfigCall where
  | setConfig (configType : ConfigType) (configKey : String) (configValue : ConfigValue)
      (scope : Option ScopeOption)
  | updateRolloutSettings (settings : RolloutSettings)
  | deactivateConfig (configId : Nat)
  deriving DecidableEq

/-- The row that a call asks to deactivate. -/
def ConfigCall.deactivates : ConfigCall → Option Nat
  | .deactivateConfig configId => some configId
  | _ => none

/-- The table, and what the calls so far were meant to leave in effect: the writes at
`GLOBAL` scope that no call has deactivated since, the last one first. -/
structure ConfigHistory where
  configs : Configs := Table.ofList []
  writes : List (Nat × DispatchConfig) := []

namespace ConfigHistory
open DispatchConfigService

variable {h h' : ConfigHistory} {configType : ConfigType} {scan : List Nat}

/-- The table after an `INSERT`, with the row as the last write. -/
def record (h : ConfigHistory) (configs : Configs) : ConfigHistory where
  configs := configs
  writes :=
    match configs.row h.configs.serial with
    | some config =>
      if config.configScope = .global then (h.configs.serial, config) :: h.writes else h.writes
    | none => h.writes

/-- One call, with the order in which its queries scan the table. -/
def step (h : ConfigHistory) : ConfigCall × List Nat → Option ConfigHistory
  | (call, scan) =>
    if scan.Perm h.configs.ids then
      match call with
      | .setConfig configType configKey configValue scope =>
        some (h.record (setConfig h.configs scan configType configKey configValue scope))
      | .updateRolloutSettings settings =>
        some (h.record (updateRolloutSettings h.configs scan settings))
      | .deactivateConfig configId =>
        match deactivateConfig h.configs configId with
        | .ok configs => some { configs, writes := h.writes.filter (·.1 ≠ configId) }
        | .error _ => some h
    else none

/-- The last write of a type that has not been deactivated since. -/
def lastWrite (h : ConfigHistory) (configType : ConfigType) : Option (Nat × DispatchConfig) :=
  h.writes.find? (·.2.configType = configType)

/-- The row that a call appends. -/
def written (h : ConfigHistory) (scan : List Nat) : ConfigCall → Option DispatchConfig
  | .setConfig configType configKey configValue scope =>
    some (newConfig h.configs scan configType configKey configValue scope)
  | .updateRolloutSettings settings =>
    some (newConfig h.configs scan .rolloutSettings "rollout_settings"
      (merge (getConfig h.configs scan .rolloutSettings) settings) (some { scope := .global }))
  | .deactivateConfig _ => none

/-- What a call may do: append a row, or deactivate one that is there. -/
theorem step_cases {action : ConfigCall × List Nat} (stepped : h.step action = some h') :
    action.2.Perm h.configs.ids ∧
    ((∃ config, h.written action.2 action.1 = some config ∧
        h' = h.record (h.configs.insert config)) ∨
      ∃ configId, action.1 = .deactivateConfig configId ∧
        (h' = h ∧ h.configs.row configId = none ∨
          (∃ config, h.configs.row configId = some config) ∧
          h' =
            { configs := h.configs.update (fun id _ => id = configId) ({ · with isActive := false })
              writes := h.writes.filter (·.1 ≠ configId) })) := by
  obtain ⟨call, scan⟩ := action
  simp only [step] at stepped
  split at stepped
  · rename_i scans
    refine ⟨scans, ?_⟩
    cases call with
    | setConfig configType configKey configValue scope =>
      cases stepped
      exact .inl ⟨_, rfl, rfl⟩
    | updateRolloutSettings settings =>
      cases stepped
      exact .inl ⟨_, rfl, rfl⟩
    | deactivateConfig configId =>
      refine .inr ⟨configId, rfl, ?_⟩
      simp only [deactivateConfig] at stepped
      cases held : h.configs.row configId with
      | none =>
        simp only [held] at stepped
        cases stepped
        exact .inl ⟨rfl, rfl⟩
      | some config =>
        simp only [held] at stepped
        cases stepped
        exact .inr ⟨⟨config, rfl⟩, rfl⟩
  · cases stepped

/-- The writes are the rows that reads can find, and a later write of a type has a
greater version than the earlier ones. -/
structure Faithful (h : ConfigHistory) : Prop where
  rows : ∀ id config, (id, config) ∈ h.writes ↔
    h.configs.row id = some config ∧ config.Serves config.configType
  ascending : h.writes.Pairwise fun later earlier =>
    later.2.configType = earlier.2.configType → earlier.2.version < later.2.version

/-- The last write of a type, and that no other of the type has its version. -/
theorem Faithful.last (faithful : h.Faithful) {id : Nat} {config : DispatchConfig}
    (last : h.lastWrite configType = some (id, config)) :
    h.configs.row id = some config ∧ config.Serves configType ∧
      ∀ id' config', h.configs.row id' = some config' → config'.Serves configType → id' ≠ id →
        config'.version < config.version := by
  obtain ⟨type, later, earlier, shape, others⟩ := List.find?_eq_some_iff_append.mp last
  have type : config.configType = configType := by simpa using type
  have member : (id, config) ∈ h.writes := by simp [shape]
  obtain ⟨held, -, scope, active⟩ := (faithful.rows id config).mp member
  refine ⟨held, ⟨type, scope, active⟩, fun id' config' held' ⟨type', scope', active'⟩ other => ?_⟩
  have member' := (faithful.rows id' config').mpr ⟨held', rfl, scope', active'⟩
  rw [shape, List.mem_append, List.mem_cons] at member'
  rcases member' with member' | same | member'
  · exact absurd type' (by simpa using others _ member')
  · cases same
    exact absurd rfl other
  · have ascending := faithful.ascending
    rw [shape, List.pairwise_append, List.pairwise_cons] at ascending
    exact ascending.2.1.1 _ member' (type.trans type'.symm)

theorem Faithful.unwritten (faithful : h.Faithful) (last : h.lastWrite configType = none)
    {id : Nat} {config : DispatchConfig} (held : h.configs.row id = some config) :
    ¬ config.Serves configType := by
  rintro ⟨type, scope, active⟩
  have member := (faithful.rows id config).mpr ⟨held, rfl, scope, active⟩
  exact List.find?_eq_none.mp last _ member (by simpa using type)

/-- Among faithful writes, a read finds the last one of its type. -/
theorem Faithful.reads (faithful : h.Faithful) (scans : scan.Perm h.configs.ids)
    (configType : ConfigType) :
    findActive h.configs scan configType .global none = h.lastWrite configType := by
  cases last : h.lastWrite configType with
  | none =>
    refine (Table.newest_eq_none scans).mpr fun id config held => ?_
    simpa [DispatchConfig.Serves] using faithful.unwritten last held
  | some found =>
    obtain ⟨id, config⟩ := found
    obtain ⟨held, serves, others⟩ := faithful.last last
    refine Table.newest_of_first scans held ?_ fun id' config' held' matching => ?_
    · simpa [DispatchConfig.Serves] using serves
    · exact others id' config' held' (by simpa [DispatchConfig.Serves] using matching)

/-- What a read without a driver answers, by the row that it finds. -/
theorem getConfig_eq (configs : Configs) (scan : List Nat) (configType : ConfigType) :
    getConfig configs scan configType =
      ((findActive configs scan configType .global none).map (·.2.configValue)).getD
        configType.default := by
  unfold getConfig
  cases findActive configs scan configType .global none <;> rfl

/-- A call leaves the last write in effect: what it appends gets a greater version
than every row that reads of its type can find, and what it deactivates is behind
another row or is the only one. -/
def Ordered (h : ConfigHistory) : ConfigCall × List Nat → Prop
  | (call, scan) =>
    (∀ config ∈ h.written scan call, config.configScope = .global →
      ∀ id ∈ h.configs.ids, ∀ config' ∈ h.configs.row id, config'.Serves config.configType →
        config'.version < config.version) ∧
    ∀ configId ∈ call.deactivates, ∀ config ∈ h.configs.row configId,
      config.Serves config.configType →
        (∃ id ∈ h.configs.ids, ∃ config' ∈ h.configs.row id,
          config'.Serves config.configType ∧ config.version < config'.version) ∨
        ∀ id ∈ h.configs.ids, ∀ config' ∈ h.configs.row id,
          config'.Serves config.configType → id = configId

instance (h : ConfigHistory) : (action : ConfigCall × List Nat) → Decidable (h.Ordered action)
  | (_, _) => inferInstanceAs (Decidable ((∀ _ ∈ _, _) ∧ ∀ _ ∈ _, _))

private theorem written_active {call : ConfigCall} {config : DispatchConfig}
    (appends : h.written scan call = some config) : config.isActive = true := by
  cases call <;> cases appends <;> rfl

private theorem record_insert (h : ConfigHistory) (config : DispatchConfig) :
    h.record (h.configs.insert config) =
      { configs := h.configs.insert config
        writes :=
          if config.configScope = .global then (h.configs.serial, config) :: h.writes
          else h.writes } := by
  simp [record, Table.insert_row]

private theorem faithful_append {config : DispatchConfig} (faithful : h.Faithful)
    (active : config.isActive = true)
    (above : config.configScope = .global → ∀ id config', h.configs.row id = some config' →
      config'.Serves config.configType → config'.version < config.version) :
    (h.record (h.configs.insert config)).Faithful := by
  rw [record_insert]
  constructor
  · intro id config'
    simp only [Table.insert_row]
    by_cases fresh : id = h.configs.serial
    · subst fresh
      have unwritten : (h.configs.serial, config') ∉ h.writes := by
        intro member
        have below := Table.row_below ((faithful.rows _ _).mp member).1
        exact Nat.lt_irrefl _ below
      by_cases global : config.configScope = .global
      · simp only [if_pos global, List.mem_cons, Prod.mk.injEq, true_and, if_true,
          Option.some.injEq, unwritten, or_false]
        constructor
        · rintro rfl
          exact ⟨rfl, rfl, global, active⟩
        · exact fun found => found.1.symm
      · simp only [if_neg global, unwritten, if_true, Option.some.injEq, false_iff, not_and]
        rintro rfl ⟨-, other, -⟩
        exact global other
    · rw [if_neg fresh, ← faithful.rows id config']
      split <;> simp [fresh]
  · by_cases global : config.configScope = .global
    · simp only [if_pos global]
      refine List.pairwise_cons.mpr ⟨fun earlier member type => ?_, faithful.ascending⟩
      obtain ⟨held, serves⟩ := (faithful.rows earlier.1 earlier.2).mp member
      exact above global earlier.1 earlier.2 held (by rwa [type])
    · simp only [if_neg global]
      exact faithful.ascending

theorem faithful_deactivate (faithful : h.Faithful) (configId : Nat) :
    Faithful
      { configs := h.configs.update (fun id _ => id = configId) ({ · with isActive := false })
        writes := h.writes.filter (·.1 ≠ configId) } := by
  constructor
  · intro id config
    simp only [List.mem_filter, decide_eq_true_eq, Table.update_row, faithful.rows id config]
    by_cases same : id = configId
    · subst same
      simp only [ne_eq, not_true, and_false, if_true, false_iff, not_and]
      intro held serves
      obtain ⟨before, -, rfl⟩ := Option.map_eq_some_iff.mp held
      cases serves.2.2
    · simp [same]
  · exact faithful.ascending.filter _

/-- One ordered call keeps the writes faithful. -/
theorem faithful_step {action : ConfigCall × List Nat} (faithful : h.Faithful)
    (ordered : h.Ordered action) (stepped : h.step action = some h') : h'.Faithful := by
  obtain ⟨scans, ⟨config, appends, rfl⟩ | ⟨configId, -, ⟨rfl, -⟩ | ⟨-, rfl⟩⟩⟩ := step_cases stepped
  · refine faithful_append faithful (written_active appends) fun global id config' held serves => ?_
    have listed : id ∈ h.configs.ids := Table.mem_ids.mpr (by simp [held])
    exact ordered.1 config appends global id listed config' held serves
  · exact faithful
  · exact faithful_deactivate faithful configId

private theorem find?_and {α : Type} {p q : α → Bool} {items : List α} {a : α}
    (found : items.find? p = some a) (holds : q a = true) :
    items.find? (fun item => q item && p item) = some a := by
  induction items with
  | nil => cases found
  | cons item rest ih =>
    rw [List.find?_cons] at found ⊢
    cases here : p item with
    | true =>
      simp only [here, Option.some.injEq] at found
      subst found
      simp [holds]
    | false =>
      simp only [here] at found
      simp [ih found]

/-- After an ordered deactivation, a row that is in effect was so before. -/
theorem lastWrite_deactivate {configId : Nat} {found : Nat × DispatchConfig}
    (faithful : h.Faithful) (ordered : h.Ordered (.deactivateConfig configId, scan))
    (stepped : h.step (.deactivateConfig configId, scan) = some h')
    (last : h'.lastWrite configType = some found) : h.lastWrite configType = some found := by
  obtain ⟨scans, ⟨config, appends, -⟩ | ⟨configId', same, ⟨rfl, -⟩ | ⟨-, rfl⟩⟩⟩ :=
    step_cases stepped
  · cases appends
  · exact last
  · cases same
    have kept := faithful_deactivate faithful configId
    obtain ⟨id, config⟩ := found
    obtain ⟨remains, serves, -⟩ := kept.last last
    have stays : id ≠ configId := by
      have listed := List.mem_of_find?_eq_some last
      simpa using (List.mem_filter.mp listed).2
    have held : h.configs.row id = some config := by simpa [stays] using remains
    cases before : h.lastWrite configType with
    | none => exact absurd serves (faithful.unwritten before held)
    | some first =>
      obtain ⟨id', config'⟩ := first
      obtain ⟨held', serves', others⟩ := faithful.last before
      by_cases gone : id' = configId
      · -- the last write itself is deactivated, so it was the only one of its type
        subst gone
        have here : config'.Serves config'.configType := by rwa [serves'.1]
        rcases ordered.2 id' rfl config' held' here with
          ⟨above, -, config'', held'', serves'', greater⟩ | alone
        · rw [serves'.1] at serves''
          by_cases same : above = id'
          · subst same
            rw [held'] at held''
            cases held''
            exact absurd greater (Nat.lt_irrefl _)
          · exact absurd (others above config'' held'' serves'' same) (Nat.not_lt.mpr greater.le)
        · have listed : id ∈ h.configs.ids := Table.mem_ids.mpr (by simp [held])
          exact absurd (alone id listed config held (by rwa [serves'.1])) stays
      · have still := find?_and (q := fun entry => decide (entry.1 ≠ configId)) before
          (by simpa using gone)
        rw [lastWrite, List.find?_filter] at last
        simp only [Bool.decide_and, Bool.decide_eq_true] at last still
        rw [still] at last
        exact last

end ConfigHistory

open ConfigHistory DispatchConfigService

/-- Configuration reads see the last write: in a run of ordered calls, every read
answers the last write of its type at `GLOBAL` scope that has not been deactivated,
or the default, and no deactivation puts another row in effect. -/
theorem config_last_write {actions : List (ConfigCall × List Nat)} {s : ConfigHistory}
    (ordered : Admits step Ordered {} actions) (ran : run step {} actions = some s) :
    (∀ configType scan, scan.Perm s.configs.ids →
      getConfig s.configs scan configType =
        ((s.lastWrite configType).map (·.2.configValue)).getD configType.default) ∧
    ∀ taken ∈ trace step {} actions, ∀ configId, taken.action.1 = .deactivateConfig configId →
      ∀ configType scan scan', scan.Perm taken.before.configs.ids →
        scan'.Perm taken.after.configs.ids →
        ∀ found ∈ findActive taken.after.configs scan' configType .global none,
          findActive taken.before.configs scan configType .global none = some found := by
  have keeps : ∀ {h : ConfigHistory} {action h'}, h.Faithful → h.Ordered action →
      h.step action = some h' → h'.Faithful :=
    fun faithful ordered stepped => faithful_step faithful ordered stepped
  have start : Faithful {} := ⟨by simp [Table.ofList], .nil⟩
  constructor
  · intro configType scan scans
    rw [getConfig_eq, (run_inv keeps start ordered ran).reads scans]
  · rintro ⟨before, ⟨call, scan₀⟩, after⟩ member configId rfl configType scan scan' scans scans'
      found here
    obtain ⟨faithful, ordered, stepped⟩ := trace_inv keeps start ordered _ member
    dsimp only at *
    rw [(faithful_step faithful ordered stepped).reads scans'] at here
    rw [faithful.reads scans]
    exact lastWrite_deactivate faithful ordered stepped here

/-- A threshold is set twice and the first row deactivated, then the second. -/
def setAndDeactivate : List (ConfigCall × List Nat) :=
  [(.setConfig .thresholds "minimums" { minimumScore := some 40 } none, []),
   (.setConfig .thresholds "minimums" { minimumScore := some 60 } none, [0]),
   (.deactivateConfig 0, [0, 1]), (.deactivateConfig 1, [1, 0])]

theorem config_last_write_thresholds :
    (run step {} setAndDeactivate).isSome ∧ ∀ s, run step {} setAndDeactivate = some s →
      getConfig s.configs [0, 1] .thresholds =
        ((s.lastWrite .thresholds).map (·.2.configValue)).getD (ConfigType.default .thresholds) := by
  refine ⟨by decide, fun s ran => ?_⟩
  refine (config_last_write (by decide) ran).1 .thresholds [0, 1] ?_
  have ids : (run step {} setAndDeactivate).map (·.configs.ids) = some [0, 1] := by decide
  rw [ran, Option.map_some, Option.some.injEq] at ids
  rw [ids]

/-- A write under a new key starts again at version 1 and is not seen behind version 2
of another key; and the row that a deactivated one had superseded is in effect again. -/
theorem config_shadowed :
    ((run step {}
        [(.setConfig .thresholds "minimums" { minimumScore := some 40 } none, []),
         (.setConfig .thresholds "minimums" { minimumScore := some 60 } none, [0]),
         (.setConfig .thresholds "dispatch" { minimumScore := some 70 } none, [0, 1])]).map fun s =>
      (getConfig s.configs [0, 1, 2] .thresholds,
        (s.lastWrite .thresholds).map (·.2.configValue))) =
      some ({ minimumScore := some 60 }, some { minimumScore := some 70 }) ∧
    ∃ taken ∈ trace step {}
        [(.setConfig .thresholds "minimums" { minimumScore := some 40 } none, []),
         (.setConfig .thresholds "minimums" { minimumScore := some 60 } none, [0]),
         (.deactivateConfig 1, [0, 1])],
      taken.action.1 = .deactivateConfig 1 ∧
        (findActive taken.before.configs [0, 1] .thresholds .global none).map Prod.fst = some 1 ∧
        (findActive taken.after.configs [0, 1] .thresholds .global none).map Prod.fst = some 0 := by
  decide

end DriverMicroServices
