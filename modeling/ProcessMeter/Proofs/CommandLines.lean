import ProcessMeter.Proofs.EncodedText
import ProcessMeter.Proofs.Presence

/-!
# Command lines are read back without their empty arguments

The kernel prints each argument of a process with an octet zero behind it. The piece behind the last
zero is no argument, and it is dropped because it is empty. So are the arguments that are empty: the
others are found in their order, but those behind an empty one have moved up.
-/

namespace ProcessMeter

/-- A separator ends the piece before it. -/
theorem Text.splitBytes_append_cons {separator : UInt8} {piece : List UInt8}
    (h : separator ∉ piece) (rest : List UInt8) :
    splitBytes separator (piece ++ separator :: rest) = piece :: splitBytes separator rest := by
  induction piece with
  | nil => rw [List.nil_append, splitBytes, if_pos rfl]
  | cons b piece ih =>
    obtain ⟨hb, hpiece⟩ := not_or.mp (mt List.mem_cons.mpr h)
    rw [List.cons_append, splitBytes, if_neg (Ne.symm hb), ih hpiece]

/-- Only the empty text has no octets. -/
@[simp] theorem Text.encode_eq_nil {t : Text} : encode t = [] ↔ t = [] := by
  cases t with
  | nil => simp
  | cons c t => simp [encode_cons, String.utf8EncodeChar_ne_nil]

namespace ProcessBlock

/-- The command line block of a process with the given arguments. -/
def commandLine (arguments : List Text) : List UInt8 :=
  arguments.flatMap fun argument => Text.encode argument ++ [0]

variable {args : List Text}

/-- The pieces of the block are the arguments and an empty one behind them. -/
private theorem splitBytes_commandLine (h : ∀ argument ∈ args, '\x00' ∉ argument) :
    Text.splitBytes 0 (commandLine args) = args.map Text.encode ++ [[]] := by
  induction args with
  | nil => rfl
  | cons argument rest ih =>
    obtain ⟨hargument, hrest⟩ := List.forall_mem_cons.mp h
    have hzero : 0 ∉ Text.encode argument := fun hmem =>
      hargument (Text.mem_of_mem_encode (by decide) hmem)
    have hblock : commandLine (argument :: rest) =
        Text.encode argument ++ 0 :: commandLine rest := by
      simp [commandLine]
    rw [hblock, Text.splitBytes_append_cons hzero, ih hrest, List.map_cons, List.cons_append]

/-- The arguments that are not empty are read in their order. -/
private theorem arguments_eq_filter (h : ∀ argument ∈ args, '\x00' ∉ argument) :
    arguments (commandLine args) = args.filter fun argument => !argument.isEmpty := by
  have hempty : (fun piece : List UInt8 => !piece.isEmpty) ∘ Text.encode =
      fun argument : Text => !argument.isEmpty := by
    funext argument
    rw [Function.comp_apply, Bool.eq_iff_iff]
    simp
  have hdecode : Text.decodeLossy ∘ Text.encode = id := funext Text.decodeLossy_encode
  rw [arguments, splitBytes_commandLine h, List.filter_append, List.filter_map, hempty,
    List.filter_cons_of_neg (by simp), List.filter_nil, List.append_nil, List.map_map, hdecode,
    List.map_id]

/-- The arguments that are kept and the empty ones are all arguments. -/
private theorem length_filter_add_count (args : List Text) :
    (args.filter fun argument => !argument.isEmpty).length + args.count [] = args.length := by
  induction args with
  | nil => rfl
  | cons argument rest ih =>
    cases argument with
    | nil =>
      rw [List.filter_cons_of_neg (by simp), List.count_cons_self, List.length_cons]
      omega
    | cons c letters =>
      rw [List.filter_cons_of_pos (by simp), List.count_cons_of_ne (by simp), List.length_cons,
        List.length_cons]
      omega

/-- An argument that is not empty moves up by the number of empty ones before it. -/
private theorem getElem?_filter_append_cons (front behind : List Text) {argument : Text}
    (h : argument ≠ []) :
    ((front ++ argument :: behind).filter fun argument =>
      !argument.isEmpty)[front.length - front.count []]? = some argument := by
  have hcount := length_filter_add_count front
  have hplace : front.length - front.count [] =
      (front.filter fun argument => !argument.isEmpty).length := by
    omega
  rw [hplace, List.filter_append, List.getElem?_append_right (Nat.le_refl _), Nat.sub_self,
    List.filter_cons_of_pos (by simpa using h), List.getElem?_cons_zero]

/-- **Command lines.** Of the block that the kernel prints for a process, and of a file that holds
it, the arguments that are not empty are read in their order. So all arguments are read at their
places exactly if none is empty, and otherwise each moves up by the number of empty ones before
it. -/
theorem arguments_commandLine (args : List Text) (h : ∀ argument ∈ args, '\x00' ∉ argument) :
    arguments (commandLine args) = args.filter (fun argument => !argument.isEmpty) ∧
    (arguments (commandLine args) = args ↔ [] ∉ args) ∧
    (∀ front argument behind, args = front ++ argument :: behind → argument ≠ [] →
      (arguments (commandLine args))[front.length - front.count []]? = some argument) ∧
    ∀ (rootfs : Path) (pid : Nat) (w : World),
      w.files.readBytes (Procfs.file rootfs pid "cmdline") = .ok (commandLine args) →
      (Procfs.arguments rootfs pid).outcome w =
        .ok (args.filter fun argument => !argument.isEmpty) := by
  have hread := arguments_eq_filter h
  refine ⟨hread, ?_, ?_, fun rootfs pid w hfile => ?_⟩
  · rw [hread, Text.filter_nonempty_eq_self]
  · rintro front argument behind rfl hne
    rw [hread]
    exact getElem?_filter_append_cons front behind hne
  · have hblock : (Stat.readBytes (Procfs.file rootfs pid "cmdline")).outcome w =
        .ok (commandLine args) := by
      rw [Stat.readBytes, Probe.outcome_bind_of_ok (Probe.outcome_files w), hfile]
      rfl
    have hoptional : (Procfs.optional rootfs pid
        (Stat.readBytes (Procfs.file rootfs pid "cmdline"))).outcome w =
          .ok (some (commandLine args)) := by
      rw [Procfs.optional, Probe.outcome_attempt_bind, hblock]
      rfl
    rw [Procfs.arguments, Probe.outcome_bind_of_ok hoptional, Option.getD_some, hread]
    rfl

/-- A shell that is given an empty argument, as is printed with nothing before its zero. -/
theorem arguments_commandLine_shell :
    let args := ["sh".toList, "-c".toList, "é 1".toList, [], "x".toList]
    (∀ argument ∈ args, '\x00' ∉ argument) ∧
      arguments (commandLine args) = ["sh".toList, "-c".toList, "é 1".toList, "x".toList] ∧
      (arguments (commandLine args))[3]? = some "x".toList := by
  intro args
  have hzero : ∀ argument ∈ args, '\x00' ∉ argument := by decide
  obtain ⟨hread, -, hplace, -⟩ := arguments_commandLine args hzero
  exact ⟨hzero, hread.trans (by decide),
    hplace ["sh".toList, "-c".toList, "é 1".toList, []] "x".toList [] rfl (by simp)⟩

/-- An argument behind an empty one is not read at its place, and a process with one empty argument
seems to have none. -/
theorem arguments_commandLine_moved :
    let args := ["a".toList, [], "b".toList]
    (∀ argument ∈ args, '\x00' ∉ argument) ∧
      arguments (commandLine args) = ["a".toList, "b".toList] ∧
      arguments (commandLine args) ≠ args ∧
      arguments (commandLine [[]]) = arguments [] := by
  decide

end ProcessBlock

end ProcessMeter
