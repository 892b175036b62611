import ProcessMeter.Process.Top

/-!
# Settings of the agent

The agent takes its settings from environment variables. A variable that is blank counts as
missing. Of several malformed variables the first in the order below is reported.
-/

namespace ProcessMeter

/-- What a variable is expected to hold. -/
inductive Expected where
  | boolean
  | number
  deriving DecidableEq, Repr

/-- The words for what is expected. -/
def Expected.words : Expected → String
  | .boolean => "a boolean"
  | .number => "a non-negative integer"

/-- A malformed setting. -/
structure SettingsError where
  /-- The name of the variable. -/
  name : String
  /-- Its value. -/
  value : Text
  /-- What is expected of it. -/
  expected : Expected
  deriving DecidableEq, Repr

/-- The wording of the complaint. -/
def SettingsError.message (e : SettingsError) : String :=
  s!"invalid value `{String.ofList e.value}` for environment variable `{e.name}`: expected " ++
    e.expected.words

/-- The settings of the agent. -/
structure AgentSettings where
  /-- Where the root file system of the host is visible, if that is given. -/
  rootfs : Option Path
  /-- Patterns of the names of processes to be sampled. -/
  patterns : List Text
  /-- Whether cgroups are read. -/
  cgroups : Bool
  /-- Whether network counters are read. -/
  network : Bool
  /-- Whether the command line of a process is read only once. -/
  keepArguments : Bool
  /-- Patterns of the environment variables to be reported. -/
  shownVariables : List Text
  /-- How many of the busiest processes are reported. -/
  top : TopSelection
  /-- The time between both rounds. -/
  interval : Duration
  deriving DecidableEq, Repr

namespace AgentSettings

/-- The value of a variable, unless it is blank. -/
def valueOf? (lookup : String → Option Text) (name : String) : Option Text :=
  (lookup name).filter fun value => !(Text.trim value).isEmpty

/-- The items of a list between commas: trimmed, and none of them empty. -/
def listItems (value : Text) : List Text :=
  ((Text.split ',' value).map Text.trim).filter fun item => !item.isEmpty

/-- Words for yes. -/
def yesWords : List Text := ["1", "true", "yes", "on"].map String.toList

/-- Words for no. -/
def noWords : List Text := ["0", "false", "no", "off"].map String.toList

/-- A setting that is on or off. -/
def flag (lookup : String → Option Text) (name : String) (usual : Bool) :
    Except SettingsError Bool :=
  match valueOf? lookup name with
  | none => .ok usual
  | some value =>
    let word := Text.toLowerAscii (Text.trim value)
    if yesWords.contains word then .ok true
    else if noWords.contains word then .ok false
    else .error ⟨name, value, .boolean⟩

/-- A setting that is a 64-bit number. -/
def number (lookup : String → Option Text) (name : String) (usual : Nat) :
    Except SettingsError Nat :=
  match valueOf? lookup name with
  | none => .ok usual
  | some value =>
    match Numeral.read64 (Text.trim value) with
    | .ok n => .ok n
    | .error _ => .error ⟨name, value, .number⟩

/-- A setting that is a list. -/
def items (lookup : String → Option Text) (name : String) (usual : List Text) : List Text :=
  match valueOf? lookup name with
  | none => usual
  | some value => listItems value

/-- The names of all variables that are looked up. -/
def names : List String := [
  "ROOTFS_MOUNT_PATH", "PROCESS_PATTERNS", "ENABLE_CGROUPS", "ENABLE_NETWORK", "CACHE_CMDLINE",
  "ENV_WHITELIST", "TOP_BY_CPU", "TOP_BY_MEMORY", "SAMPLE_INTERVAL_MS"]

/-- The settings that environment variables give. -/
def ofLookup (lookup : String → Option Text) : Except SettingsError AgentSettings := do
  let cgroups ← flag lookup "ENABLE_CGROUPS" true
  let network ← flag lookup "ENABLE_NETWORK" false
  let keepArguments ← flag lookup "CACHE_CMDLINE" true
  let byCpu ← number lookup "TOP_BY_CPU" 0
  let byMemory ← number lookup "TOP_BY_MEMORY" 0
  let interval ← number lookup "SAMPLE_INTERVAL_MS" 1000
  pure {
    rootfs := valueOf? lookup "ROOTFS_MOUNT_PATH"
    patterns := items lookup "PROCESS_PATTERNS" [".*".toList]
    cgroups, network, keepArguments
    shownVariables := items lookup "ENV_WHITELIST" []
    top := ⟨byCpu, byMemory⟩
    interval := .ofMillis interval }

end AgentSettings

end ProcessMeter
