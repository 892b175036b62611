import ProcessMeter.Agent.Settings
import ProcessMeter.Agent.Surroundings
import ProcessMeter.Process.Sampler
import ProcessMeter.Report.Samples

/-!
# The agent

The agent samples all processes twice and reports the second round, whose samples know what was
used since the first.
-/

namespace ProcessMeter

/-- Why the agent reports nothing. -/
inductive AgentFailure where
  /-- A setting is malformed. -/
  | settings (error : SettingsError)
  /-- Processes cannot be sampled. -/
  | process (failure : ProcessFailure)
  /-- The agent runs in a container that does not show the root file system of the host. -/
  | missingRoot (rootfs : Path)
  deriving DecidableEq, Repr

/-- The wording of the failure. -/
def AgentFailure.message : AgentFailure → String
  | .settings error => error.message
  | .process failure => failure.message
  | .missingRoot rootfs =>
    "Detected container runtime environment, but missing host root mount at " ++
      s!"`{Path.display rootfs}`!"

/-- An agent that is ready to sample. -/
structure Agent where
  /-- Its settings. -/
  settings : AgentSettings
  /-- The names of the processes to be sampled. -/
  filter : NameFilter
  /-- What samples them. -/
  sampler : Sampler

namespace Agent

/-- Where a container shows the root file system of the host. -/
def containerRoot : Path := "/rootfs".toList

/-- The variable that marks a container. -/
def containerMark : String := "container"

/-- The root file systems that can come into question. -/
def rootsInQuestion (lookup : String → Option Text) : List Path :=
  match AgentSettings.valueOf? lookup "ROOTFS_MOUNT_PATH" with
  | some rootfs => [rootfs]
  | none => [Surroundings.ownRoot, containerRoot]

/-- The root file system of the host, as far as it can be guessed. -/
def guessRoot (marked : Bool) : Probe AgentFailure Path := do
  match ← Surroundings.guess containerRoot marked with
  | .host => pure ['/']
  | .container =>
    let tree ← Probe.files
    if Surroundings.isThere tree containerRoot then pure containerRoot
    else Probe.fail (.missingRoot containerRoot)

/-- An agent with the settings that environment variables give. -/
def start (units : HostUnits) (read : PatternReader) (lookup : String → Option Text) :
    Probe AgentFailure Agent :=
  match AgentSettings.ofLookup lookup with
  | .error error => Probe.fail (.settings error)
  | .ok settings => do
    let rootfs ← match settings.rootfs with
      | some rootfs => pure rootfs
      | none => guessRoot (lookup containerMark).isSome
    Probe.log .debug s!"Final rootfs: {Path.display rootfs}"
    match NameFilter.ofPatterns read settings.patterns with
    | .error pattern => Probe.fail (.process (.badPattern pattern))
    | .ok filter =>
      let sampler ← (Sampler.ofProcfs units read {
        rootfs, cgroups := settings.cgroups, network := settings.network
        keepArguments := settings.keepArguments
        shownVariables := settings.shownVariables }).mapFailure .process
      pure { settings, filter, sampler }

/-- The first round. -/
def firstRound (agent : Agent) : Session (List ProcessSample) :=
  agent.sampler.sampleMatching agent.filter none

/-- The second round. `took` is how long it takes in nanoseconds. -/
def secondRound (agent : Agent) (took : Nat) : Session (List ProcessSample) := do
  let samples ← agent.sampler.sampleMatching agent.filter (some agent.settings.top)
  Session.log .trace s!"sample_all() took {took} nanoseconds"
  pure samples

/-- The report on samples, if none was taken before the epoch. -/
def report? (samples : List ProcessSample) : Option Document :=
  (samples.mapM ProcessSample.document?).map .list

/-- The fault of a session of the agent. -/
def fault : Fault ProcessFailure → Fault AgentFailure
  | .failed failure => .failed (.process failure)
  | .overflow => .overflow

/-- Both rounds: the world of the first, and the world of the second by the time between them. -/
def run (units : HostUnits) (read : PatternReader) (lookup : String → Option Text)
    (before : World) (after : Duration → World) :
    Except (Fault AgentFailure) (List ProcessSample) × List Event :=
  match start units read lookup before with
  | (.error fault, events) => (.error fault, events)
  | (.ok agent, events) =>
    match agent.firstRound before .empty with
    | ((.error f, _), more) => (.error (fault f), events ++ more)
    | ((.ok _, history), more) =>
      match agent.secondRound 0 (after agent.settings.interval) history with
      | ((.error f, _), last) => (.error (fault f), events ++ more ++ last)
      | ((.ok samples, _), last) => (.ok samples, events ++ more ++ last)

end Agent

end ProcessMeter
