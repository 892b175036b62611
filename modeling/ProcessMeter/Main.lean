import ProcessMeter.Agent.Run
import ProcessMeter.Pattern.Search
import Std.Time.DateTime.Timestamp

/-!
# The command line

Takes the settings from the environment, observes all processes twice, and prints the report of
the second round. Before each round the files that can matter are copied into a file tree, so
both rounds are computed on what the system showed at one moment. A file that cannot be read is
left out of the copy. The kernel is taken to count in the usual
units, and patterns are regular expressions.
-/

namespace ProcessMeter

namespace Copy

/-- The files of a process that are read. -/
def processFiles : List String :=
  ["stat", "statm", "status", "io", "net/dev", "cmdline", "environ", "cgroup"]

/-- The files about the host that are read below its root file system. -/
def hostFiles : List String :=
  ["/proc/meminfo", "/proc/stat", "/proc/1/mountinfo", "/proc/self/mountinfo"]

/-- The files that tell a container from a host. -/
def markFiles : List String := ["/proc/self/cgroup", "/.dockerenv", "/run/.containerenv"]

/-- The names that lead to a path from the root. -/
def namesOf (p : Path) : List Text :=
  (Text.items '/' p).foldl
    (fun names name =>
      if name = ['.'] then names
      else if name = ['.', '.'] then names.dropLast
      else names ++ [name])
    []

/-- The tree with the file at a path, if it can be read. -/
def addFile (tree : FileTree) (p : Path) : IO FileTree := do
  try
    let content ← IO.FS.readBinFile (Path.display p)
    pure (tree.put (namesOf p) (.file content.toList))
  catch _ => pure tree

/-- The tree with several files of a directory. -/
def addFiles (tree : FileTree) (directory : Path) (names : List String) : IO FileTree :=
  names.foldlM (fun tree name => addFile tree (Path.join directory name.toList)) tree

/-- The names in a directory; none if it cannot be read. -/
def namesIn (directory : Path) : IO (List Text) := do
  try
    let place ← IO.FS.realPath (Path.display directory)
    let entries ← place.readDir
    pure (entries.toList.map fun entry => entry.fileName.toList)
  catch _ => pure []

/-- The tree with a directory, if it exists. -/
def addDirectory (tree : FileTree) (directory : Path) : IO FileTree := do
  try
    let _ ← IO.FS.realPath (Path.display directory)
    pure (tree.put (namesOf directory) .directory)
  catch _ => pure tree

/-- The tree with a block device: a link to its directory, and its description there. -/
def addDevice (tree : FileTree) (device : Path) : IO FileTree := do
  try
    let place ← IO.FS.realPath (Path.display device)
    let target := place.toString.toList
    addFile (tree.put (namesOf device) (.link target)) (Path.join target "uevent".toList)
  catch _ => pure tree

/-- The tree with the block devices. -/
def addDevices (tree : FileTree) (rootfs : Path) : IO FileTree := do
  let directory := Path.below rootfs "/sys/dev/block".toList
  (← namesIn directory).foldlM (fun tree name => addDevice tree (Path.join directory name)) tree

/-- The directories of the cgroups of some processes. -/
def cgroupDirectories (world : World) (rootfs : Path) (pids : List Nat) : List Path :=
  match (Cgroup.Accounting.ofSettings .usual { rootfs }).outcome world with
  | .error _ => []
  | .ok accounting =>
    let mounts := accounting.locator.mounts.unified.toList.map fun mount => mount.mountPoint
    let ofProcess (pid : Nat) : List Path :=
      match (accounting.locator.locate pid).outcome world with
      | .error _ => []
      | .ok (.v2 location) => [location.directory]
      | .ok (.v1 controllers) => controllers.values.map CgroupLocation.directory
    (mounts ++ pids.flatMap ofProcess).eraseDups

/-- The tree with what the root file system of a host shows. -/
def addHost (tree : FileTree) (rootfs : Path) : IO FileTree := do
  let mut tree ← addDirectory tree rootfs
  tree ← addDirectory tree (Procfs.root rootfs)
  for name in hostFiles do
    tree ← addFile tree (Path.below rootfs name.toList)
  let pids := (← namesIn (Procfs.root rootfs)).filterMap Procfs.pidOf?
  for pid in pids do
    let directory := Procfs.directory rootfs pid
    tree ← addDirectory tree directory
    tree ← addFiles tree directory processFiles
  for directory in cgroupDirectories ⟨tree, ⟨0⟩⟩ rootfs pids do
    let names ← namesIn directory
    tree ← addFiles tree directory (names.map String.ofList)
  addDevices tree rootfs

/-- The world as the agent sees it now. -/
def world (roots : List Path) : IO World := do
  let mut tree := FileTree.empty
  for name in markFiles do
    tree ← addFile tree name.toList
  for rootfs in roots do
    tree ← addHost tree rootfs
  let now ← Std.Time.Timestamp.now
  pure ⟨tree, ⟨now.toNanosecondsSinceUnixEpoch.val⟩⟩

end Copy

namespace Agent

/-- The values of the variables that matter. -/
def readVariables : IO (List (String × Text)) := do
  let mut values := []
  for name in containerMark :: AgentSettings.names do
    if let some value ← IO.getEnv name then
      values := (name, value.toList) :: values
  pure values

/-- Shows the errors among events. -/
def showErrors (events : List Event) : IO Unit := do
  for event in events do
    if let .log .error text := event then
      IO.eprintln text

/-- The value of an outcome, or none once its fault is shown. -/
def settle {ε α : Type} (words : ε → String) (events : List Event) :
    Except (Fault ε) α → IO (Option α)
  | .ok value => do
    showErrors events
    pure (some value)
  | .error fault => do
    showErrors events
    IO.eprintln <| match fault with
      | .failed reason => words reason
      | .overflow => "a sum of counters left the range of 64 bits"
    pure none

/-- Waits for a span of time. -/
def wait (d : Duration) : IO Unit :=
  IO.sleep (UInt32.ofNat (min (d.nanos / 1000000) Numeral.max32))

/-- Both rounds. -/
def observe (agent : Agent) (roots : List Path) (first : World) :
    IO (Option (List ProcessSample)) := do
  let ((result, history), events) := agent.firstRound first .empty
  match ← settle ProcessFailure.message events result with
  | none => pure none
  | some _ =>
    wait agent.settings.interval
    let second ← Copy.world roots
    let ((result, _), events) := agent.secondRound 0 second history
    settle ProcessFailure.message events result

end Agent

end ProcessMeter

open ProcessMeter in
/-- Runs the agent. -/
def main : IO UInt32 := do
  let values ← Agent.readVariables
  let lookup (name : String) : Option Text := values.lookup name
  let roots := Agent.rootsInQuestion lookup
  let first ← Copy.world roots
  let (result, events) := Agent.start .usual Pattern.test? lookup first
  match ← Agent.settle AgentFailure.message events result with
  | none => pure 1
  | some agent =>
    match ← agent.observe roots first with
    | none => pure 1
    | some samples =>
      match Agent.report? samples with
      | none =>
        IO.eprintln "SystemTime must be later than UNIX_EPOCH"
        pure 1
      | some report =>
        IO.println (String.ofList report.toJson)
        pure 0
