import ProcessMeter.Cgroup.Membership
import ProcessMeter.Stat.File

/-!
# Host or container

Whether the agent runs on the host or in a container is guessed from several signs: the namespace
of process numbers, the names of cgroups, and marks that containers leave. The first sign counts.
A sign that cannot be read is no sign.
-/

namespace ProcessMeter

/-- Where the agent runs. -/
inductive Surroundings where
  /-- On the host. -/
  | host
  /-- In a container. -/
  | container
  deriving DecidableEq, Repr

namespace Surroundings

/-- The root file system of the agent itself. -/
def ownRoot : Path := ['/']

/-- Names of container runtimes, as they occur in paths of cgroups. -/
def runtimes : List Text := ["docker", "kubepods", "containerd", "libpod"].map String.toList

/-- Whether a part of a cgroup path looks like the number of a container: 32 hexadecimal digits or
more. -/
def isContainerId (part : Text) : Bool :=
  32 ≤ part.length &&
    part.all fun c => c.isDigit || ('a' ≤ c && c ≤ 'f') || ('A' ≤ c && c ≤ 'F')

/-- Whether a path of a cgroup looks like that of a container. -/
def isContainerPath (path : Path) : Bool :=
  (runtimes.any fun runtime => Text.contains runtime path) ||
    (Text.splitWhere (fun c => c == '/' || c == '-' || c == '.') path).any isContainerId

/-- The target of a link, or the words for why it cannot be read. -/
def linkTarget (tree : FileTree) (path : Path) : Except String Path :=
  match tree.readLink path with
  | .ok target => .ok target
  | .error failure =>
    .error (s!"failed to read symlink `{Path.display path}`: " ++ failure.message)

/-- Whether the first process of the host has another namespace than the agent. -/
def hasOtherNamespace (tree : FileTree) (rootfs : Path) : Except String Bool := do
  let own ← linkTarget tree (Path.below ownRoot "/proc/self/ns/pid".toList)
  let first ← linkTarget tree (Path.below rootfs "/proc/1/ns/pid".toList)
  pure (Path.components own != Path.components first)

/-- Whether the processes of the host are visible below `rootfs` in another namespace. -/
def seesOtherNamespace {ε : Type} (rootfs : Path) : Probe ε Bool := do
  let tree ← Probe.files
  let path := Path.join rootfs "proc".toList
  match tree.existsAt path with
  | .error failure =>
    Probe.log .warn
      ("Failed to determine presence of /proc in rootfs: " ++
        s!"failed to check if path `{Path.display path}` exists: " ++ failure.message)
    pure false
  | .ok false => pure false
  | .ok true =>
    match hasOtherNamespace tree rootfs with
    | .ok other => pure other
    | .error words =>
      Probe.log .warn
        ("Namespace check failed when detecting runtime environment: " ++ words)
      pure false

/-- Whether the agent is in a cgroup of a container. -/
def isInContainerCgroup {ε : Type} : Probe ε Bool := do
  let path := Path.below ownRoot "/proc/self/cgroup".toList
  match ← Probe.attempt (Stat.read path Membership.readAll) with
  | .ok entries => pure (entries.any fun entry => isContainerPath entry.path)
  | .error failure =>
    Probe.log .warn ("Cgroup analysis failed during runtime detection: " ++ failure.message)
    pure false

/-- Whether a path leads to something. -/
def isThere (tree : FileTree) (path : Path) : Bool :=
  match tree.existsAt path with
  | .ok there => there
  | .error _ => false

/-- Whether there are marks that a container leaves: files, or the variable `container`. -/
def hasMarks (tree : FileTree) (marked : Bool) : Bool :=
  isThere tree (Path.below ownRoot "/.dockerenv".toList) ||
    isThere tree (Path.below ownRoot "/run/.containerenv".toList) || marked

/-- Where the agent runs, if the root file system of the host would be at `rootfs`. `marked` says
whether the environment variable `container` is set. -/
def guess {ε : Type} (rootfs : Path) (marked : Bool) : Probe ε Surroundings := do
  if ← seesOtherNamespace rootfs then pure .container
  else if ← isInContainerCgroup then pure .container
  else
    let tree ← Probe.files
    pure (if hasMarks tree marked then .container else .host)

end Surroundings

end ProcessMeter
