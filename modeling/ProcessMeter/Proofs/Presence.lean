import ProcessMeter.Proofs.Observation

/-!
# A process whose state can be read is present

Whatever leads to a file leads through its directory first. So within one tree, a process whose
state was read has a directory, and a reading that the process can do without is never taken for a
sign that the process is gone.
-/

namespace ProcessMeter

namespace FileTree

variable {tree : FileTree}

/-- Where one name leads, whatever comes behind it. -/
private inductive Stride where
  /-- To a place. -/
  | reaches (place : List Text)
  /-- To a link, whose target is followed from a place. -/
  | link (start : List Text) (target : Path)
  /-- Nowhere. -/
  | nowhere (failure : FileFailure)

/-- Where a name leads from a place. -/
private def stride (tree : FileTree) (place : List Text) (name : Text) : Stride :=
  match tree.find? place with
  | some .directory =>
    if name = ['.'] then .reaches place
    else if name = ['.', '.'] then .reaches place.dropLast
    else if maxName < Text.byteLength name then .nowhere .nameTooLong
    else
      match tree.find? (place ++ [name]) with
      | none => .nowhere .notFound
      | some (.link target) => .link (if Path.isAbsolute target then [] else place) target
      | some _ => .reaches (place ++ [name])
  | some (.closed number) => .nowhere (.ofNumber number)
  | _ => .nowhere .notADirectory

variable {jump : List Text → List Text → Except FileFailure (List Text × Entry)}

/-- A walk takes one stride after the other. -/
private theorem walkFrom_cons (place : List Text) (name : Text) (rest : List Text) :
    tree.walkFrom true jump place (name :: rest) =
      match tree.stride place name with
      | .reaches next => tree.walkFrom true jump next rest
      | .link start target => jump start (steps target ++ rest)
      | .nowhere failure => .error failure := by
  rw [walkFrom, stride]
  cases tree.find? place with
  | none => rfl
  | some entry =>
    cases entry with
    | file content => rfl
    | link target => rfl
    | closed number => rfl
    | unreadable number => rfl
    | directory =>
      dsimp only
      by_cases hdot : name = ['.']
      · rw [if_pos hdot, if_pos hdot]
      · rw [if_neg hdot, if_neg hdot]
        by_cases hup : name = ['.', '.']
        · rw [if_pos hup, if_pos hup]
        · rw [if_neg hup, if_neg hup]
          by_cases hlength : maxName < Text.byteLength name
          · rw [if_pos hlength, if_pos hlength]
          · rw [if_neg hlength, if_neg hlength]
            cases tree.find? (place ++ [name]) with
            | none => rfl
            | some found => cases found <;> simp

/-- If names lead somewhere with more names behind them, they lead somewhere by themselves, provided
that this is so behind links. -/
private theorem walkFrom_prefix {more : List Text} (hmore : more ≠ [])
    (hjump : ∀ {place names found}, jump place (names ++ more) = .ok found →
      ∃ found, jump place names = .ok found)
    {place names : List Text} {found : List Text × Entry}
    (h : tree.walkFrom true jump place (names ++ more) = .ok found) :
    ∃ found, tree.walkFrom true jump place names = .ok found := by
  induction names generalizing place with
  | nil =>
    -- the next name is looked up in a directory
    obtain ⟨name, rest, rfl⟩ := List.exists_cons_of_ne_nil hmore
    rw [List.nil_append, walkFrom] at h
    split at h
    · next hplace => exact ⟨(place, .directory), by rw [walkFrom, hplace]⟩
    · simp at h
    · simp at h
  | cons name rest ih =>
    rw [List.cons_append, walkFrom_cons] at h
    rw [walkFrom_cons]
    cases hstride : tree.stride place name with
    | reaches next =>
      rw [hstride] at h
      exact ih h
    | link start target =>
      rw [hstride] at h
      dsimp only at h
      rw [← List.append_assoc] at h
      exact hjump h
    | nowhere failure => simp [hstride] at h

/-- If names lead somewhere with more names behind them, they lead somewhere by themselves. -/
theorem walk_prefix {more : List Text} (hmore : more ≠ []) (links : Nat)
    {place names : List Text} {found : List Text × Entry}
    (h : tree.walk true links place (names ++ more) = .ok found) :
    ∃ found, tree.walk true links place names = .ok found := by
  induction links generalizing place names found with
  | zero => exact walkFrom_prefix hmore (by simp) h
  | succ links ih => exact walkFrom_prefix hmore ih h

end FileTree

namespace Text

/-- A text has one piece at least. -/
theorem splitWhere_ne_nil (p : Char → Bool) (t : Text) : splitWhere p t ≠ [] := by
  cases t with
  | nil => simp [splitWhere]
  | cons c rest =>
    rw [splitWhere]
    split
    · simp
    · split
      · simp
      · simp

/-- A text is split before and behind a separator independently. -/
theorem splitWhere_append {p : Char → Bool} {separator : Char} (hseparator : p separator = true)
    (s t : Text) : splitWhere p (s ++ separator :: t) = splitWhere p s ++ splitWhere p t := by
  induction s with
  | nil => simp [splitWhere, hseparator]
  | cons c rest ih =>
    rw [List.cons_append, splitWhere, splitWhere, ih]
    by_cases hc : p c = true
    · simp [hc]
    · obtain ⟨piece, pieces, hpieces⟩ := List.exists_cons_of_ne_nil (splitWhere_ne_nil p rest)
      simp [hc, hpieces]

/-- The items before and behind a separator are those of both parts. -/
theorem items_append (separator : Char) (s t : Text) :
    items separator (s ++ separator :: t) = items separator s ++ items separator t := by
  rw [items, split, splitWhere_append (by simp), List.filter_append]
  rfl

/-- Leaving out empty pieces changes nothing exactly if there are none. -/
theorem filter_nonempty_eq_self {pieces : List Text} :
    (pieces.filter fun piece => !piece.isEmpty) = pieces ↔ [] ∉ pieces := by
  rw [List.filter_eq_self]
  constructor
  · intro hall hmem
    simpa using hall [] hmem
  · intro hnone piece hpiece
    have hne : piece ≠ [] := fun hnil => hnone (hnil ▸ hpiece)
    simpa using hne

/-- Two parts are joined with a separator between them. -/
theorem join_cons_cons (separator part other : Text) (more : List Text) :
    join separator (part :: other :: more) =
      part ++ (separator ++ join separator (other :: more)) := by
  simp [join]

/-- A text that is cut at its end begins the text. -/
theorem isPrefix_trimEndWhile (p : Char → Bool) (t : Text) : trimEndWhile p t <+: t := by
  obtain ⟨front, hfront⟩ : t.reverse.dropWhile p <:+ t.reverse := List.dropWhile_suffix p
  refine ⟨front.reverse, ?_⟩
  rw [trimEndWhile, ← List.reverse_append, hfront, List.reverse_reverse]

/-- Whether the last character is cut off decides whether the text before it is looked at. -/
theorem trimEndWhile_concat (p : Char → Bool) (t : Text) (c : Char) :
    trimEndWhile p (t ++ [c]) = if p c then trimEndWhile p t else t ++ [c] := by
  rw [trimEndWhile, List.reverse_concat, List.dropWhile_cons]
  split
  · rfl
  · rw [List.reverse_cons, List.reverse_reverse]

/-- A text whose last character is not cut off stays as it is. -/
theorem trimEndWhile_eq_self {p : Char → Bool} {t : Text}
    (h : ∀ c, t.getLast? = some c → p c = false) : trimEndWhile p t = t := by
  rcases List.eq_nil_or_concat t with rfl | ⟨front, c, rfl⟩
  · rfl
  · rw [List.concat_eq_append] at h ⊢
    have hc : ¬ p c = true := by simp [h c List.getLast?_concat]
    rw [trimEndWhile_concat, if_neg hc]

/-- The last character that is left is not to be cut off. -/
theorem eq_false_of_getLast?_trimEndWhile {p : Char → Bool} {t : Text} {c : Char}
    (h : (trimEndWhile p t).getLast? = some c) : p c = false := by
  have hnot := List.head?_dropWhile_not p t.reverse
  rw [trimEndWhile, List.getLast?_reverse] at h
  rw [h] at hnot
  exact hnot

/-- The octets of two texts add up. -/
theorem byteLength_append (s t : Text) : byteLength (s ++ t) = byteLength s + byteLength t := by
  induction s with
  | nil => simp [byteLength]
  | cons c rest ih =>
    simp only [byteLength, List.cons_append, List.foldr_cons] at ih ⊢
    omega

end Text

namespace FileTree

/-- A path that does not end in a slash has its items as steps. -/
theorem steps_eq_items {p : Path} (h : p.getLast? ≠ some '/') :
    steps p = Text.items '/' p := by
  unfold steps
  by_cases hempty : (Text.items '/' p).isEmpty
  · rw [if_pos hempty, List.isEmpty_iff.mp hempty]
  · rw [if_neg hempty, if_neg h]

/-- If a name below a directory leads somewhere, so does the directory. -/
theorem locate_prefix {tree : FileTree} {directory name : Path} {found : List Text × Entry}
    (hdirectory : directory ≠ []) (hlast : directory.getLast? ≠ some '/')
    (hname : name.getLast? ≠ some '/') (hitems : Text.items '/' name ≠ [])
    (h : tree.locate true (directory ++ '/' :: name) = .ok found) :
    ∃ found, tree.locate true directory = .ok found := by
  have hwhole : (directory ++ '/' :: name).getLast? ≠ some '/' := by
    have hne : name ≠ [] := by
      rintro rfl
      exact hitems rfl
    obtain ⟨c, rest, rfl⟩ := List.exists_cons_of_ne_nil hne
    simpa [List.getLast?_append, List.getLast?_cons_cons] using hname
  unfold locate at h ⊢
  split at h
  · simp at h
  · split at h
    · simp at h
    · next hnul =>
      split at h
      · simp at h
      · next hlength =>
        have hnul' : '\x00' ∉ directory := fun hmem => hnul (List.mem_append_left _ hmem)
        have hlength' : ¬ maxPath ≤ Text.byteLength directory := by
          rw [Text.byteLength_append] at hlength
          omega
        rw [if_neg hdirectory, if_neg hnul', if_neg hlength', steps_eq_items hlast]
        rw [steps_eq_items hwhole, Text.items_append] at h
        exact walk_prefix hitems maxLinks h

end FileTree

namespace Numeral

/-- A number is written in decimal digits. -/
theorem isDigit_of_mem_write {n : Nat} {c : Char} (h : c ∈ write n) : c.isDigit = true :=
  Nat.isDigit_of_mem_toDigits (by decide) (by decide) h

/-- A number is written in digits only. -/
theorem not_mem_write {c : Char} (h : c.isDigit = false) (n : Nat) : c ∉ write n := by
  intro hmem
  rw [isDigit_of_mem_write hmem] at h
  cases h

end Numeral

/-- A path without slashes is relative. -/
theorem Path.isAbsolute_of_not_mem {p : Path} (h : '/' ∉ p) : isAbsolute p = false := by
  unfold isAbsolute
  split
  · exact absurd List.mem_cons_self h
  · rfl

namespace Procfs

variable {rootfs : Path} {pid : Nat} {w : World}

/-- The path of a process directory ends with its number. -/
private theorem exists_directory_eq (rootfs : Path) (pid : Nat) :
    ∃ before, directory rootfs pid = before ++ Numeral.write pid := by
  have hrelative : Path.isAbsolute (Numeral.write pid) = false :=
    Path.isAbsolute_of_not_mem (Numeral.not_mem_write (by decide) pid)
  rw [directory, Path.join, hrelative, if_neg Bool.false_ne_true]
  split
  · exact ⟨[], rfl⟩
  · exact ⟨_, rfl⟩
  · exact ⟨_, (List.append_cons _ _ _)⟩

/-- The directory of a process does not end with a slash. -/
private theorem getLast?_directory (rootfs : Path) (pid : Nat) :
    ∃ c, (directory rootfs pid).getLast? = some c ∧ c ≠ '/' := by
  obtain ⟨before, hdirectory⟩ := exists_directory_eq rootfs pid
  have hne : Numeral.write pid ≠ [] := Nat.toDigits_ne_nil
  refine ⟨(Numeral.write pid).getLast hne, ?_, ?_⟩
  · rw [hdirectory, List.getLast?_append, List.getLast?_eq_some_getLast hne, Option.some_or]
  · intro h
    exact Numeral.not_mem_write (by decide) pid (h ▸ List.getLast_mem hne)

/-- A file of a process lies below the directory of the process. -/
private theorem file_eq (rootfs : Path) (pid : Nat) {name : String}
    (hname : Path.isAbsolute name.toList = false) :
    file rootfs pid name = directory rootfs pid ++ '/' :: name.toList := by
  obtain ⟨c, hlast, hc⟩ := getLast?_directory rootfs pid
  rw [file, Path.join, hname, if_neg Bool.false_ne_true, hlast]
  split
  · next h => simp at h
  · next h => exact absurd (Option.some.inj h) hc
  · rfl

/-- A text can only be read where its path leads somewhere. -/
private theorem exists_locate_of_readText {path : Path} {text : Text}
    (h : (Stat.readText path).outcome w = .ok text) :
    ∃ found, w.files.locate true path = .ok found := by
  cases hlocate : w.files.locate true path with
  | ok found => exact ⟨found, rfl⟩
  | error failure =>
    rw [Stat.outcome_readText] at h
    simp [FileTree.readText, FileTree.readBytes, FileTree.openFile, hlocate] at h

/-- A process whose state and times can be read is present. -/
theorem isPresent_of_record {r : ProcessRecord} (h : (record rootfs pid).outcome w = .ok r) :
    isPresent w.files rootfs pid = true := by
  obtain ⟨text, htext, -⟩ := Probe.outcome_bind_eq_ok.mp h
  rw [Probe.outcome_mapFailure_eq_ok] at htext
  obtain ⟨found, hfound⟩ := exists_locate_of_readText htext
  rw [file_eq rootfs pid (by decide)] at hfound
  obtain ⟨c, hlast, hc⟩ := getLast?_directory rootfs pid
  obtain ⟨found, hdirectory⟩ := FileTree.locate_prefix
    (fun hnil => by simp [hnil] at hlast)
    (fun hslash => hc (Option.some.inj (hlast.symm.trans hslash)))
    (by decide) (by decide) hfound
  rw [isPresent, FileTree.existsAt, hdirectory]

/-- A file that the process can do without is left out rather than failed over, as long as the
process is present and the content is not malformed. -/
theorem outcome_optional_of_present {α : Type} {reading : Probe PathFailure α}
    (hpresent : isPresent w.files rootfs pid = true) :
    (optional rootfs pid reading).outcome w =
      match reading.outcome w with
      | .ok a => .ok (some a)
      | .error (.failed failure) =>
        if failure.isMalformed then .error (.failed (.unreadable failure)) else .ok none
      | .error .overflow => .error .overflow := by
  rw [optional, Probe.outcome_attempt_bind]
  rcases reading.outcome w with (failure | _) | a
  · simp only [Probe.outcome_bind, Probe.outcome_files, Except.bind, hpresent, Bool.not_true,
      Bool.and_false, Bool.false_eq_true, if_false]
    by_cases hmalformed : failure.isMalformed
    · rw [if_pos hmalformed, if_pos hmalformed, Probe.outcome_fail]
    · rw [if_neg hmalformed, if_neg hmalformed]
      rfl
  · rfl
  · rfl

/-- A block of octets is there or left out, for it has no form that it could fail to have. -/
private theorem outcome_block (hpresent : isPresent w.files rootfs pid = true) (path : Path) :
    (optional rootfs pid (Stat.readBytes path)).outcome w =
      .ok (w.files.readBytes path).toOption := by
  rw [outcome_optional_of_present hpresent, Stat.readBytes,
    Probe.outcome_bind_of_ok (Probe.outcome_files w)]
  cases w.files.readBytes path <;> rfl

/-- The arguments in the command line file of a process; none if it cannot be read. -/
def argumentsIn (tree : FileTree) (rootfs : Path) (pid : Nat) : List Text :=
  match tree.readBytes (file rootfs pid "cmdline") with
  | .ok block => ProcessBlock.arguments block
  | .error _ => []

/-- The variables in the environment file of a process whose names pass; none if it cannot be
read. -/
def environmentIn (tree : FileTree) (rootfs : Path) (pid : Nat) (names : NameFilter) :
    TextMap Text :=
  match tree.readBytes (file rootfs pid "environ") with
  | .ok block => ProcessBlock.environment block names.passes
  | .error _ => .empty

/-- The arguments of a process that is there are those that its file tells. -/
theorem outcome_arguments (hpresent : isPresent w.files rootfs pid = true) :
    (arguments rootfs pid).outcome w = .ok (argumentsIn w.files rootfs pid) := by
  rw [arguments, Probe.outcome_bind_of_ok (outcome_block hpresent _), argumentsIn]
  cases w.files.readBytes (file rootfs pid "cmdline") <;> rfl

/-- The environment of a process that is there is what its file tells. -/
theorem outcome_environment (hpresent : isPresent w.files rootfs pid = true)
    (names : NameFilter) :
    (environment rootfs pid names).outcome w = .ok (environmentIn w.files rootfs pid names) := by
  rw [environment, Probe.outcome_bind_of_ok (outcome_block hpresent _), environmentIn]
  cases w.files.readBytes (file rootfs pid "environ") <;> rfl

end Procfs

namespace KernelSampler

variable {k : KernelSampler} {w : World} {pid : Nat}

/-- Arguments are kept or read, and neither fails while the process is present. -/
theorem outcome_arguments (hpresent : Procfs.isPresent w.files k.rootfs pid = true)
    (previous : Option ProcessSample) :
    (k.arguments pid previous).outcome w = .ok (
      match previous with
      | some sample =>
        if k.keepArguments && !sample.arguments.isEmpty then sample.arguments
        else Procfs.argumentsIn w.files k.rootfs pid
      | none => Procfs.argumentsIn w.files k.rootfs pid) := by
  have hread : (Sampler.ask .arguments (k.table.arguments pid)).outcome w =
      .ok (Procfs.argumentsIn w.files k.rootfs pid) := by
    rw [outcome_ask, k.table_eq, Procfs.table]
    exact Procfs.outcome_arguments hpresent
  unfold Sampler.arguments
  cases previous with
  | none => exact hread
  | some sample =>
    dsimp only
    split
    · rfl
    · exact hread

/-- The same goes for the environment. -/
theorem outcome_environment (hpresent : Procfs.isPresent w.files k.rootfs pid = true)
    (previous : Option ProcessSample) :
    (k.environment pid previous).outcome w = .ok (
      if k.shownVariables.isEmpty then .empty
      else
        match previous with
        | some sample => sample.environment
        | none => Procfs.environmentIn w.files k.rootfs pid k.shownVariables) := by
  unfold Sampler.environment
  split
  · rfl
  · cases previous with
    | some sample => rfl
    | none =>
      dsimp only
      rw [outcome_ask, k.table_eq, Procfs.table]
      exact Procfs.outcome_environment hpresent k.shownVariables

end KernelSampler

end ProcessMeter
