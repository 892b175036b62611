import ProcessMeter.Process.Table

/-!
# The process table of a kernel

The kernel shows each process as a directory of files. A process may end at any time, so a
missing file is first of all a sign that its process is gone.
-/

namespace ProcessMeter

namespace Procfs

/-- The directory of all processes. -/
def root (rootfs : Path) : Path := Path.below rootfs "/proc".toList

/-- The directory of a process. -/
def directory (rootfs : Path) (pid : Nat) : Path := Path.join (root rootfs) (Numeral.write pid)

/-- A file of a process. -/
def file (rootfs : Path) (pid : Nat) (name : String) : Path :=
  Path.join (directory rootfs pid) name.toList

/-- The process number that a name of a directory gives. -/
def pidOf? (name : Text) : Option Nat :=
  if name.isEmpty || !name.all (fun c => (Numeral.digit? c).isSome) then none
  else (Numeral.read32 name).toOption

/-- The numbers of all processes. -/
def pids (rootfs : Path) : Probe ProcessFailure (List Nat) := do
  let tree ← Probe.files
  match tree.readDirectory (root rootfs) with
  | .error failure => Probe.fail (.cannotList (root rootfs) failure)
  | .ok names => pure ((names.filterMap pidOf?).mergeSort fun a b => a ≤ b)

/-- The state and times of a process. -/
def record (rootfs : Path) (pid : Nat) : Probe ProcessFailure ProcessRecord := do
  let path := file rootfs pid "stat"
  let text ← (Stat.readText path).mapFailure (.ofFile pid)
  match ProcessRecord.read text with
  | .ok record => pure record
  | .error error => Probe.fail (.malformed path error.message)

/-- The identity of a process. -/
def identity (rootfs : Path) (pid : Nat) : Probe ProcessFailure ProcessIdentity := do
  let r ← record rootfs pid
  pure {
    pid, name := r.name, state := r.state, parent := r.parent, group := r.group
    threads := r.threads, startTime := r.startTime }

/-- Whether the directory of a process is there. -/
def isPresent (tree : FileTree) (rootfs : Path) (pid : Nat) : Bool :=
  match tree.existsAt (directory rootfs pid) with
  | .ok present => present
  | .error _ => false

/-- A reading that a process can do without. It fails if the process is gone or the content is
malformed; any other trouble leaves it out. -/
def optional {α : Type} (rootfs : Path) (pid : Nat) (reading : Probe PathFailure α) :
    Probe ProcessFailure (Option α) := do
  match ← Probe.attempt reading with
  | .ok value => pure (some value)
  | .error failure =>
    let tree ← Probe.files
    if failure.isGone && !isPresent tree rootfs pid then Probe.fail (.notFound pid)
    else if failure.isMalformed then Probe.fail (.unreadable failure)
    else
      Probe.log .debug (s!"skipping optional metric of process {pid}: " ++ failure.message)
      pure none

/-- Reads the network file at a path. -/
def readNetwork (path : Path) : Probe PathFailure NetworkCounters :=
  Stat.readWith path fun lines => Probe.ofOutcome (NetworkCounters.readLines lines)

/-- The counters of a process. -/
def metrics (units : HostUnits) (rootfs : Path) (pid : Nat) (known : ProcessIdentity)
    (network : Bool) : Probe ProcessFailure ProcessMetrics := do
  let r ← record rootfs pid
  if r.startTime != known.startTime then
    Probe.log .debug s!"pid {pid} was reused while being sampled"
    Probe.fail (.notFound pid)
  else
    let pages ← (Stat.read (file rootfs pid "statm") (PageCounts.readLines units)).mapFailure
      (.ofFile pid)
    let owner ← optional rootfs pid (Stat.read (file rootfs pid "status") ProcessOwner.readLines)
    let io ← optional rootfs pid (Stat.read (file rootfs pid "io") IoCounters.readLines)
    let counters ←
      if network then optional rootfs pid (readNetwork (file rootfs pid "net/dev"))
      else pure none
    let user := units.ticks r.userTicks
    let system := units.ticks r.systemTicks
    pure {
      startTime := r.startTime
      uid := owner.bind fun o => o.uid
      cpu := { user, system, total := user.add system, share := none, hostShare := none }
      memory := {
        size := pages.size, resident := pages.resident, shared := pages.shared, share := none }
      io
      network := counters }

/-- The arguments of a process; none if they cannot be read. -/
def arguments (rootfs : Path) (pid : Nat) : Probe ProcessFailure (List Text) := do
  let block ← optional rootfs pid (Stat.readBytes (file rootfs pid "cmdline"))
  pure (ProcessBlock.arguments (block.getD []))

/-- The environment variables of a process; none if they cannot be read. -/
def environment (rootfs : Path) (pid : Nat) (names : NameFilter) :
    Probe ProcessFailure (TextMap Text) := do
  let block ← optional rootfs pid (Stat.readBytes (file rootfs pid "environ"))
  pure (ProcessBlock.environment (block.getD []) names.passes)

/-- The number of the process that asks: the target of the link `self`. -/
def ownPid (rootfs : Path) : Probe ProcessFailure Nat := do
  let path := Path.join (root rootfs) "self".toList
  let tree ← Probe.files
  match tree.readLink path with
  | .error failure => Probe.fail (.unreadable ⟨path, .file failure⟩)
  | .ok target =>
    match pidOf? target with
    | some pid => pure pid
    | none => Probe.fail (.malformed path s!"unexpected link target `{Path.display target}`")

/-- The process table of the kernel whose root file system is at `rootfs`. -/
def table (units : HostUnits) (rootfs : Path) : ProcessTable where
  pids := pids rootfs
  identity := identity rootfs
  metrics := metrics units rootfs
  arguments := arguments rootfs
  environment := environment rootfs
  ownPid := ownPid rootfs
  memoryTotal := (Host.memoryTotal rootfs).mapFailure .unreadable
  processors := (Host.processorCount rootfs).mapFailure .unreadable

end Procfs

end ProcessMeter
