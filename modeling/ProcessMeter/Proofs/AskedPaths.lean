import ProcessMeter.Proofs.ControllerReads
import ProcessMeter.Proofs.LexicalPath

/-!
# The paths that a probe asks for

A probe looks at the file tree by asking what a path leads to. The rules of `AsksOnly` follow a run
through its parts and collect what it asks: every path has to be a good one. Readers of accounting
files ask for the path they are given, and controllers for files in their directory.
-/

namespace ProcessMeter

/-- Whether a component is a step of the way: a name or a parent. -/
def Component.isStep : Component → Bool
  | .name _ | .parent => true
  | .root | .current => false

namespace Path

/-- What a path starts with before any step. -/
private def opening (p : Path) : List Component :=
  match Text.split '/' p with
  | [] :: _ :: _ => [.root]
  | ['.'] :: _ => [.current]
  | _ => []

/-- The components of a path are those that it opens with, and those along its route. -/
private theorem components_eq (p : Path) : p.components = opening p ++ route p := rfl

/-- How a path opens is decided before its first slash. -/
private theorem opening_append (s t : Path) :
    opening (s ++ '/' :: t) = if s = [] then [.root] else opening s := by
  obtain ⟨other, others, hother⟩ := List.exists_cons_of_ne_nil (Text.splitWhere_ne_nil (· == '/') t)
  have hother : Text.split '/' t = other :: others := hother
  rw [opening, Text.split_append_cons, hother]
  cases s with
  | nil => rfl
  | cons c rest =>
    obtain ⟨first, pieces, hpieces⟩ :=
      List.exists_cons_of_ne_nil (Text.splitWhere_ne_nil (· == '/') rest)
    rw [if_neg (by simp), opening, Text.split, Text.splitWhere, hpieces]
    by_cases hc : c = '/'
    · simp [hc]
    · simp only [beq_iff_eq, hc, if_false, List.cons_append]
      split <;> simp_all

/-- Joining a relative path to a base goes on from the components of the base. -/
theorem components_join {base rel : Path} (hbase : base ≠ []) (hrel : isAbsolute rel = false) :
    (join base rel).components = base.components ++ route rel := by
  have hopening : opening (join base rel) = opening base := by
    rw [join, hrel, if_neg Bool.false_ne_true]
    split
    · next hlast => exact absurd (List.getLast?_eq_none_iff.mp hlast) hbase
    · next hlast =>
      obtain ⟨front, rfl⟩ := List.getLast?_eq_some_iff.mp hlast
      rw [List.append_assoc, List.singleton_append, opening_append, opening_append]
    · rw [opening_append, if_neg hbase]
  rw [components_eq, hopening, route_join hrel, components_eq, List.append_assoc]

/-- The steps among the components of a path are its names and parents. -/
theorem filter_isStep_components (p : Path) : p.components.filter Component.isStep = route p := by
  have hroute : ∀ c ∈ route p, c.isStep = true := by
    intro c hc
    obtain ⟨piece, -, rfl⟩ := List.mem_map.mp hc
    rw [Component.ofPiece]
    split <;> rfl
  have hopening : (opening p).filter Component.isStep = [] := by
    rw [opening]
    split <;> rfl
  rw [components_eq, List.filter_append, hopening, List.nil_append, List.filter_eq_self.mpr hroute]

/-- Without its root a path is relative and takes the same steps. -/
theorem withoutRoot_spec (p : Path) :
    isAbsolute (withoutRoot p) = false ∧ route (withoutRoot p) = route p := by
  by_cases h : isAbsolute p = true
  · exact ⟨isAbsolute_withoutRoot h, route_withoutRoot h⟩
  · have hkept : withoutRoot p = p := by
      unfold withoutRoot
      split
      · exact absurd rfl h
      · rfl
    rw [hkept]
    exact ⟨Bool.eq_false_iff.mpr h, rfl⟩

/-- A path seen below a root file system goes on from the components of that with its own steps. -/
theorem components_below {rootfs : Path} (h : rootfs ≠ []) (p : Path) :
    (below rootfs p).components = rootfs.components ++ p.components.filter Component.isStep := by
  obtain ⟨hrelative, hroute⟩ := withoutRoot_spec p
  rw [below, components_join h hrelative, hroute, filter_isStep_components]

/-- The components of a path start with those of a base. -/
def IsUnder (base p : Path) : Prop := p ≠ [] ∧ base.components <+: p.components

/-- A directory is under itself. -/
theorem isUnder_refl {base : Path} (h : base ≠ []) : IsUnder base base :=
  ⟨h, List.prefix_refl _⟩

/-- A relative path leads from under a directory to under it. -/
theorem IsUnder.join {base p rel : Path} (h : IsUnder base p) (hrel : isAbsolute rel = false) :
    IsUnder base (join p rel) := by
  obtain ⟨hne, hprefix⟩ := h
  refine ⟨?_, ?_⟩
  · rw [Path.join, hrel, if_neg Bool.false_ne_true]
    split
    · next hlast => exact absurd (List.getLast?_eq_none_iff.mp hlast) hne
    · simp [hne]
    · simp
  · rw [components_join hne hrel]
    exact hprefix.trans (List.prefix_append _ _)

/-- No path leads out of a base: seen below it, even an absolute one stays under it. -/
theorem IsUnder.below {base p : Path} (h : IsUnder base p) (other : Path) :
    IsUnder base (below p other) :=
  h.join (withoutRoot_spec other).1

end Path

namespace Probe

variable {ε ε' α β : Type}

/-- Asks the file tree a question. -/
def look (question : FileTree → β) : Probe ε β := fun w => (.ok (question w.files), [])

/-- A run goes on with the answer. -/
theorem look_bind_apply (question : FileTree → β) (f : β → Probe ε α) (w : World) :
    (look question >>= f) w = f (question w.files) w := rfl

/-- The run of a probe in a world asks the file tree about good paths only. -/
inductive AsksOnly (good : Path → Prop) (w : World) : {ε α : Type} → Probe ε α → Prop
  | pure {ε α : Type} (a : α) : AsksOnly good w (Pure.pure a : Probe ε α)
  | fail {ε α : Type} (reason : ε) : AsksOnly good w (Probe.fail reason : Probe ε α)
  | overflow {ε α : Type} : AsksOnly good w (Probe.overflow : Probe ε α)
  | log {ε : Type} (level : Level) (text : String) :
    AsksOnly good w (Probe.log level text : Probe ε Unit)
  | openFile {ε : Type} {p : Path} (h : good p) :
    AsksOnly good w (look (fun tree => tree.openFile p) : Probe ε _)
  | readLink {ε : Type} {p : Path} (h : good p) :
    AsksOnly good w (look (fun tree => tree.readLink p) : Probe ε _)
  | readDirectory {ε : Type} {p : Path} (h : good p) :
    AsksOnly good w (look (fun tree => tree.readDirectory p) : Probe ε _)
  | existsAt {ε : Type} {p : Path} (h : good p) :
    AsksOnly good w (look (fun tree => tree.existsAt p) : Probe ε _)
  | bind {ε α β : Type} {x : Probe ε α} {f : α → Probe ε β} (hx : AsksOnly good w x)
    (hf : ∀ a, x.outcome w = .ok a → AsksOnly good w (f a)) : AsksOnly good w (x >>= f)
  | attempt {ε ε' α : Type} {x : Probe ε α} (hx : AsksOnly good w x) :
    AsksOnly good w (Probe.attempt x : Probe ε' (Except ε α))
  | mapFailure {ε ε' α : Type} {x : Probe ε α} (f : ε → ε') (hx : AsksOnly good w x) :
    AsksOnly good w (x.mapFailure f)

namespace AsksOnly

variable {good : Path → Prop} {w : World}

/-- Two file trees say the same about a path. -/
def AnswerAlike (tree tree' : FileTree) (p : Path) : Prop :=
  tree.openFile p = tree'.openFile p ∧ tree.readLink p = tree'.readLink p ∧
    tree.readDirectory p = tree'.readDirectory p ∧ tree.existsAt p = tree'.existsAt p

/-- A probe that asks for good paths only runs alike wherever these lead to the same, whatever other
paths lead to. -/
theorem run_eq {x : Probe ε α} (h : AsksOnly good w x) {w' : World}
    (halike : ∀ p, good p → AnswerAlike w.files w'.files p) : x w = x w' := by
  induction h with
  | pure a => rfl
  | fail reason => rfl
  | overflow => rfl
  | log level text => rfl
  | openFile hp => simp only [look, (halike _ hp).1]
  | readLink hp => simp only [look, (halike _ hp).2.1]
  | readDirectory hp => simp only [look, (halike _ hp).2.2.1]
  | existsAt hp => simp only [look, (halike _ hp).2.2.2]
  | @bind _ _ _ x f _ _ ihx ihf =>
    change Probe.bind x f w = Probe.bind x f w'
    rw [Probe.bind, Probe.bind, ← ihx]
    rcases hxw : x w with ⟨fault | a, events⟩
    · rfl
    · have hnext : f a w = f a w' := ihf a (by rw [outcome, hxw])
      exact congrArg (fun run => (run.1, events ++ run.2)) hnext
  | attempt _ ih => rw [Probe.attempt, Probe.attempt, ih]
  | mapFailure f _ ih => rw [Probe.mapFailure, Probe.mapFailure, ih]

/-- A result that is given asks for nothing. -/
theorem ofExcept (x : Except ε α) : AsksOnly good w (Probe.ofExcept x) := by
  cases x with
  | error reason => exact .fail reason
  | ok a => exact .pure a

/-- Nor does an outcome that is given. -/
theorem ofOutcome (outcome : Except (Fault ε) α) : AsksOnly good w (Probe.ofOutcome outcome) := by
  rcases outcome with (reason | _) | a
  · exact .fail reason
  · exact .overflow
  · exact .pure a

/-- Going through lines asks for what its steps ask for. -/
theorem carry {σ : Type} {unreadable : FileFailure → Probe ε σ} {step : Nat → Text → σ → Probe ε σ}
    (hunreadable : ∀ f, AsksOnly good w (unreadable f))
    (hstep : ∀ n text state, AsksOnly good w (step n text state)) (number : Nat) (state : σ)
    (lines : Lines) : AsksOnly good w (Lines.carry unreadable step number state lines) := by
  induction lines generalizing number state with
  | nil => exact .pure state
  | cons line rest ih =>
    cases line with
    | error failure => exact hunreadable failure
    | ok text => exact .bind (hstep number text state) fun next _ => ih (number + 1) next

end AsksOnly

end Probe

open Probe

variable {α : Type} {good : Path → Prop} {w : World}

namespace Stat

variable {path : Path}

/-- Opening a file is one look at it. -/
private theorem openLines_eq_look : openLines path =
    look (fun tree => tree.openFile path) >>= fun answer =>
      match answer with
      | .ok opened => pure (Lines.ofOpened opened)
      | .error failure => Probe.fail (PathFailure.mk path (.file failure)) := rfl

/-- Opening a file asks for its path only. -/
theorem openLines_asksOnly (h : good path) : (openLines path).AsksOnly good w := by
  rw [openLines_eq_look]
  refine .bind (.openFile h) fun answer _ => ?_
  cases answer with
  | ok opened => exact .pure _
  | error failure => exact .fail _

/-- Reading a file asks for its path, and for what its reader asks for. -/
theorem readWith_asksOnly (h : good path) {reader : Lines → Probe ReadFailure α}
    (hreader : ∀ lines, (reader lines).AsksOnly good w) :
    (readWith path reader).AsksOnly good w :=
  .bind (openLines_asksOnly h) fun lines _ => .mapFailure _ (hreader lines)

/-- Reading a file asks for the file. -/
theorem read_asksOnly (h : good path) (reader : LineReader α) :
    (read path reader).AsksOnly good w :=
  readWith_asksOnly h fun lines => .ofExcept (reader lines)

/-- Reading an optional file asks for its path only. -/
theorem readOptional_asksOnly (h : good path) (reader : LineReader α) :
    (readOptional path reader).AsksOnly good w := by
  refine .bind (.attempt (read_asksOnly h reader)) fun result _ => ?_
  cases result with
  | ok value => exact .pure _
  | error failure =>
    dsimp only
    split
    · exact .pure _
    · exact .fail _

/-- The octets of an opened file. -/
def octetsOf (answer : Except FileFailure Opened) : Except FileFailure (List UInt8) :=
  match answer with
  | .error f => .error f
  | .ok (.content bytes) => .ok bytes
  | .ok .directory => .error .isADirectory
  | .ok (.failing f) => .error f

/-- The text of an opened file. -/
def textOf (answer : Except FileFailure Opened) : Except FileFailure Text :=
  match octetsOf answer with
  | .error f => .error f
  | .ok bytes =>
    match Text.decode? bytes with
    | some text => .ok text
    | none => .error .notUtf8

/-- Reading the octets of a file is one look at it. -/
private theorem readBytes_eq_look : readBytes path =
    look (fun tree => tree.openFile path) >>= fun answer =>
      match octetsOf answer with
      | .ok bytes => pure bytes
      | .error failure => Probe.fail (PathFailure.mk path (.file failure)) := rfl

/-- Reading the octets of a file asks for its path only. -/
theorem readBytes_asksOnly (h : good path) : (readBytes path).AsksOnly good w := by
  rw [readBytes_eq_look]
  refine .bind (.openFile h) fun answer _ => ?_
  cases octetsOf answer with
  | ok bytes => exact .pure _
  | error failure => exact .fail _

/-- Reading the text of a file is one look at it. -/
private theorem readText_eq_look : readText path =
    look (fun tree => tree.openFile path) >>= fun answer =>
      match textOf answer with
      | .ok text => pure text
      | .error failure => Probe.fail (PathFailure.mk path (.file failure)) := rfl

/-- Reading the text of a file asks for its path only. -/
theorem readText_asksOnly (h : good path) : (readText path).AsksOnly good w := by
  rw [readText_eq_look]
  refine .bind (.openFile h) fun answer _ => ?_
  cases textOf answer with
  | ok text => exact .pure _
  | error failure => exact .fail _

end Stat

/-- Reading a pressure file asks for its path only. -/
theorem Pressure.read_asksOnly {path : Path} (h : good path) :
    (Pressure.read path).AsksOnly good w := by
  refine .bind (.attempt (Stat.readOptional_asksOnly h _)) fun result _ => ?_
  split
  · exact .pure _
  · exact .bind (.log _ _) fun _ _ => .pure _
  · split
    · exact .bind (.log _ _) fun _ _ => .pure _
    · exact .fail _

namespace DeviceDirectory

variable {names : DeviceDirectory} {ε : Type}

/-- The directory of devices, if there is one, holds good paths. -/
def IsGood (names : DeviceDirectory) (good : Path → Prop) : Prop :=
  ∀ directory, names.directory = some directory → ∀ major minor : Nat,
    let place := Path.join directory (Numeral.write major ++ ':' :: Numeral.write minor)
    good place ∧ good (Path.join place "uevent".toList)

/-- The name or the token of a device. -/
private def orToken (device : BlockDevice) : Option Text → Probe ε Text
  | some name => pure name
  | none => do
    Probe.log .trace s!"could not resolve name of block device {String.ofList device.token}"
    pure device.token

/-- Falling back to the token of a device asks for nothing. -/
private theorem orToken_asksOnly (device : BlockDevice) (found : Option Text) :
    (orToken device found : Probe ε Text).AsksOnly good w := by
  cases found with
  | some name => exact .pure _
  | none => exact .bind (.log _ _) fun _ _ => .pure _

/-- The name that the description of a device gives, if it can be read. -/
private def describedBy? (answer : Except FileFailure Opened) : Option Text :=
  match Stat.textOf answer with
  | .ok description => describedName? description
  | .error _ => none

/-- The name that the link of a device points to. -/
private def linkedName? : Except FileFailure Path → Option Text
  | .ok target => Path.fileName? target
  | .error _ => none

/-- The description of a device is asked for first, its link only if that gives no name. -/
private theorem name_eq {directory : Path} (hdirectory : names.directory = some directory)
    (device : BlockDevice) :
    let place := Path.join directory (Numeral.write device.major ++ ':' ::
      Numeral.write device.minor)
    (names.name device : Probe ε Text) =
      look (fun tree => tree.openFile (Path.join place "uevent".toList)) >>= fun answer =>
        match describedBy? answer with
        | some name => pure name
        | none =>
          look (fun tree => tree.readLink place) >>= fun answer =>
            orToken device (linkedName? answer) := by
  intro place
  funext w
  have hfind : names.find? w.files device.major device.minor =
      match describedBy? (w.files.openFile (Path.join place "uevent".toList)) with
      | some name => some name
      | none => linkedName? (w.files.readLink place) := by
    rw [find?, hdirectory]
    rfl
  change (match names.find? w.files device.major device.minor with
    | some name => pure name
    | none => orToken device none : Probe ε Text) w = _
  rw [hfind, look_bind_apply]
  cases describedBy? (w.files.openFile (Path.join place "uevent".toList)) with
  | some name => rfl
  | none =>
    dsimp only
    rw [look_bind_apply]
    cases linkedName? (w.files.readLink place) <;> rfl

/-- Naming a device asks about the device in the directory of devices. -/
theorem name_asksOnly (h : names.IsGood good) (device : BlockDevice) :
    (names.name device : Probe ε Text).AsksOnly good w := by
  cases hdirectory : names.directory with
  | none =>
    have hname : (names.name device : Probe ε Text) = orToken device none := by
      funext w
      have hfind : names.find? w.files device.major device.minor = none := by
        rw [find?, hdirectory]
      change (match names.find? w.files device.major device.minor with
        | some name => pure name
        | none => orToken device none : Probe ε Text) w = _
      rw [hfind]
    rw [hname]
    exact orToken_asksOnly device none
  | some directory =>
    obtain ⟨hplace, hdescription⟩ := h directory hdirectory device.major device.minor
    rw [name_eq hdirectory]
    refine .bind (.openFile hdescription) fun answer _ => ?_
    cases describedBy? answer with
    | some name => exact .pure _
    | none => exact .bind (.readLink hplace) fun answer _ => orToken_asksOnly device _

end DeviceDirectory

/-- The files right in a directory, and those below it, are good paths. -/
def Path.HoldsGood (directory : Path) (good : Path → Prop) : Prop :=
  ∀ name, Path.isAbsolute name = false → good (Path.join directory name)

namespace Unified

variable {directory : Path} {names : DeviceDirectory}

/-- The words of a line about devices ask for the names of devices only. -/
private theorem IoLine.takeWords_asksOnly (hnames : names.IsGood good) (number : Nat)
    (line : IoLine) (words : List Text) :
    (takeWords names.name number line words).AsksOnly good w := by
  induction words generalizing line with
  | nil => exact .pure line
  | cons word rest ih =>
    rw [takeWords]
    split
    · exact .fail _
    · exact ih _
    · exact ih _
    · exact .bind (names.name_asksOnly hnames _) fun name _ => ih _

/-- The lines about devices ask for the names of devices only. -/
theorem readIoLines_asksOnly (hnames : names.IsGood good) (lines : Lines) :
    (readIoLines names.name lines).AsksOnly good w :=
  .carry (fun _ => .fail _)
    (fun number text _ => .bind (IoLine.takeWords_asksOnly hnames number .start (Text.words text))
      fun _ _ => .pure _) 1 _ lines

end Unified

namespace Legacy

variable {directory : Path} {names : DeviceDirectory}

/-- So do the lines about throttled operations. -/
theorem DeviceColumn.readLines_asksOnly (hnames : names.IsGood good) (lines : Lines) :
    (readLines names.name lines).AsksOnly good w := by
  refine .carry (fun _ => .fail _) (fun number text columns => ?_) 1 _ lines
  rw [takeLine]
  split
  · exact .fail _
  · exact .pure _
  · exact .bind (names.name_asksOnly hnames _) fun _ _ => .pure _

/-- A family of memory files asks for files of its directory only. -/
theorem MemoryFamily.read?_asksOnly (h : directory.HoldsGood good) {family : String}
    (hfamily : ∀ name, Path.isAbsolute (family.toList ++ '.' :: name) = false) :
    (read? directory family).AsksOnly good w := by
  refine .bind (Stat.readOptional_asksOnly (h _ (hfamily _)) _) fun usage _ => ?_
  cases usage with
  | none => exact .pure _
  | some usage =>
    refine .bind (Stat.readOptional_asksOnly (h _ (hfamily _)) _) fun peak _ => ?_
    refine .bind (Stat.readOptional_asksOnly (h _ (hfamily _)) _) fun limit _ => ?_
    exact .bind (Stat.readOptional_asksOnly (h _ (hfamily _)) _) fun failures _ => .pure _

end Legacy

/-- Every controller asks for files in its directory, and about devices in the directory of devices.
-/
theorem Cgroup.Controller.read_asksOnly {directory : Path} (h : directory.HoldsGood good)
    {names : DeviceDirectory} (hnames : names.IsGood good) (units : HostUnits) (c : Controller) :
    (c.read units names directory).AsksOnly good w := by
  cases c with
  | legacyCpu =>
    refine .bind (Stat.read_asksOnly (h _ (by decide)) _) fun shares _ => ?_
    refine .bind (Stat.readOptional_asksOnly (h _ (by decide)) _) fun period _ => ?_
    refine .bind (Stat.readOptional_asksOnly (h _ (by decide)) _) fun quota _ => ?_
    exact .bind (Stat.readOptional_asksOnly (h _ (by decide)) _) fun throttling _ => .pure _
  | legacyCpuTime =>
    refine .bind (Stat.read_asksOnly (h _ (by decide)) _) fun total _ => ?_
    refine .bind (Stat.readOptional_asksOnly (h _ (by decide)) _) fun modes _ => ?_
    exact .bind (Stat.readOptional_asksOnly (h _ (by decide)) _) fun processors _ => .pure _
  | legacyMemory =>
    refine .bind (Legacy.MemoryFamily.read?_asksOnly h fun _ => rfl) fun memory _ => ?_
    cases memory with
    | none => exact .fail _
    | some memory =>
      refine .bind (Legacy.MemoryFamily.read?_asksOnly h fun _ => rfl) fun withSwap _ => ?_
      refine .bind (Legacy.MemoryFamily.read?_asksOnly h fun _ => rfl) fun kernel _ => ?_
      exact .bind (Stat.read_asksOnly (h _ (by decide)) _) fun stat _ => .pure _
  | legacyBlockIo =>
    refine .bind (Stat.readWith_asksOnly (h _ (by decide)) fun lines =>
      Legacy.DeviceColumn.readLines_asksOnly hnames lines) fun bytes _ => ?_
    refine .bind (Stat.readWith_asksOnly (h _ (by decide)) fun lines =>
      Legacy.DeviceColumn.readLines_asksOnly hnames lines) fun operations _ => ?_
    dsimp only
    split
    · exact .pure _
    · exact .overflow
  | unifiedCpu =>
    refine .bind (Stat.read_asksOnly (h _ (by decide)) _) fun stat _ => ?_
    refine .bind (Stat.readOptional_asksOnly (h _ (by decide)) _) fun limit _ => ?_
    refine .bind (Stat.readOptional_asksOnly (h _ (by decide)) _) fun weight _ => ?_
    exact .bind (Pressure.read_asksOnly (h _ (by decide))) fun pressure _ => .pure _
  | unifiedMemory =>
    refine .bind (Stat.read_asksOnly (h _ (by decide)) _) fun usage _ => ?_
    refine .bind (Stat.read_asksOnly (h _ (by decide)) _) fun stat _ => ?_
    refine .bind (Stat.readOptional_asksOnly (h _ (by decide)) _) fun limit _ => ?_
    refine .bind (Stat.readOptional_asksOnly (h _ (by decide)) _) fun high _ => ?_
    refine .bind (Stat.readOptional_asksOnly (h _ (by decide)) _) fun swapUsage _ => ?_
    refine .bind (Stat.readOptional_asksOnly (h _ (by decide)) _) fun swapLimit _ => ?_
    refine .bind (Stat.readOptional_asksOnly (h _ (by decide)) _) fun events _ => ?_
    exact .bind (Pressure.read_asksOnly (h _ (by decide))) fun pressure _ => .pure _
  | unifiedIo =>
    refine .bind (Stat.readWith_asksOnly (h _ (by decide)) fun lines =>
      Unified.readIoLines_asksOnly hnames lines) fun devices _ => ?_
    exact .bind (Pressure.read_asksOnly (h _ (by decide))) fun pressure _ => .pure _
  | legacyPids | unifiedPids =>
    refine .bind (Stat.read_asksOnly (h _ (by decide)) _) fun current _ => ?_
    exact .bind (Stat.readOptional_asksOnly (h _ (by decide)) _) fun limit _ => .pure _

end ProcessMeter
