import ProcessMeter.Proofs.NeverOverflows

/-!
# What a reading needs of the files

Whether a file can be read depends on what its path leads to, and on nothing else in the file tree.
The system may refuse to open a file, or to read it once it is open, and the number of its error
tells whether the file is missing, is gone with its process, or is a file that the running kernel
does not support. An optional file may be missing, but any other has to be read and parsed. For that
an answer of the system must not be confused with trouble inside of a content: readers blame the
file only for lines that cannot be read, and a file that cannot be read at all is always blamed.
-/

namespace ProcessMeter

namespace FileTree

variable {tree : FileTree} {p : Path} {f : FileFailure} {kind : FileFailure → Bool}

/-- A path leads to nothing. -/
def Absent (tree : FileTree) (p : Path) : Prop := tree.openFile p = .error .notFound

/-- The system refuses a file, when it is opened or when it is read, for a reason of some kind. -/
def FailsAs (tree : FileTree) (p : Path) (kind : FileFailure → Bool) : Prop :=
  ∃ f, tree.readBytes p = .error f ∧ kind f = true

/-- A file is missing. -/
abbrev Missing (tree : FileTree) (p : Path) : Prop := tree.FailsAs p FileFailure.isMissing

/-- A file is gone: it is missing, or the process that it belongs to is no more. -/
abbrev Gone (tree : FileTree) (p : Path) : Prop := tree.FailsAs p FileFailure.isGone

/-- The kernel shows a file and does not support the reading of it. -/
abbrev Unsupported (tree : FileTree) (p : Path) : Prop := tree.FailsAs p FileFailure.isUnsupported

/-- A file that cannot be read fails in the way its failure is of. -/
theorem failsAs_iff_of_error (h : tree.readBytes p = .error f) :
    tree.FailsAs p kind ↔ kind f = true := by
  simp [FailsAs, h]

/-- A file that is read does not fail. -/
theorem not_failsAs_of_ok {bytes : List UInt8} (h : tree.readBytes p = .ok bytes) :
    ¬ tree.FailsAs p kind := by
  simp [FailsAs, h]

/-- Where nothing is, nothing can be read. -/
theorem Absent.missing (h : tree.Absent p) : tree.Missing p :=
  ⟨.notFound, by rw [readBytes, h], rfl⟩

/-- A text that cannot be had is gone exactly if its file is. -/
theorem isGone_of_readText (h : tree.readText p = .error f) : f.isGone = true ↔ tree.Gone p := by
  unfold readText at h
  cases hbytes : tree.readBytes p with
  | error cause =>
    obtain rfl : cause = f := by simpa [hbytes] using h
    exact (failsAs_iff_of_error hbytes).symm
  | ok bytes =>
    have hf : f = .notUtf8 := by
      cases hdecode : Text.decode? bytes with
      | none => simpa [hbytes, hdecode] using h.symm
      | some text => simp [hbytes, hdecode] at h
    exact iff_of_false (by rw [hf]; decide) (not_failsAs_of_ok hbytes)

/-- A path leads to a file whose lines are accepted. -/
def Holds (tree : FileTree) (p : Path) (accepts : Lines → Prop) : Prop :=
  ∃ opened, tree.openFile p = .ok opened ∧ accepts (Lines.ofOpened opened)

/-- A file that holds acceptable lines is there. -/
theorem Holds.not_absent {p : Path} {accepts : Lines → Prop} (h : tree.Holds p accepts) :
    ¬ tree.Absent p := by
  obtain ⟨opened, hopened, -⟩ := h
  simp [Absent, hopened]

end FileTree

namespace Lines

/-- A content that can be had has no line that cannot be read, unless it is no text. -/
theorem failure_of_mem_ofBytes {bytes : List UInt8} {f : FileFailure}
    (h : .error f ∈ ofBytes bytes) : f = .notUtf8 := by
  obtain ⟨line, -, hline⟩ := List.mem_map.mp h
  unfold decodeLine at hline
  split at hline
  · simp at hline
  · simpa using hline.symm

/-- Every line can be read, and `good` holds of its number, counted from `number`, and its text. -/
def EachFrom (good : Nat → Text → Prop) : (number : Nat) → Lines → Prop
  | _, [] => True
  | _, .error _ :: _ => False
  | number, .ok text :: rest => good number text ∧ EachFrom good (number + 1) rest

end Lines

namespace LineReader

variable {α : Type}

/-- The reader turns the lines into a value. -/
def Accepts (reader : LineReader α) (lines : Lines) : Prop := ∃ a, reader lines = .ok a

/-- The reader blames the file for what the system answers, and for nothing else. -/
structure Honest (reader : LineReader α) : Prop where
  /-- The file is blamed only for lines that cannot be read. -/
  blames (lines : Lines) (f : FileFailure) (h : reader lines = .error (.file f)) : .error f ∈ lines
  /-- It is blamed if nothing of it can be read. -/
  heeds (f : FileFailure) : reader [.error f] = .error (.file f)

end LineReader

/-- The first line decides alone, so it is to blame if it cannot be read. -/
theorem Scalar.readFirst_honest {α : Type} (parse : Text → Except StatError α) :
    LineReader.Honest (readFirst parse) where
  blames lines f h := by
    rw [readFirst] at h
    split at h
    · next failure hfirst =>
      obtain rfl : failure = f := by simpa using h
      cases lines with
      | nil => simp [Lines.first] at hfirst
      | cons line rest =>
        rw [Lines.first] at hfirst
        exact hfirst ▸ List.mem_cons_self
    · split at h <;> simp at h
  heeds _ := rfl

/-- So the file that holds a single number is blamed for what the system answers only. -/
theorem Scalar.readNumber_honest : LineReader.Honest readNumber := readFirst_honest _

/-- A state is carried as far as the lines can be read. -/
private theorem Lines.mem_of_carry {σ : Type} {step : Nat → Text → σ → Except ReadFailure σ}
    (hstep : ∀ number text state f, step number text state ≠ .error (.file f)) {number : Nat}
    {state : σ} {lines : Lines} {f : FileFailure}
    (h : carry (fun failure => .error (.file failure)) step number state lines =
      .error (.file f)) : .error f ∈ lines := by
  induction lines generalizing number state with
  | nil => cases h
  | cons line rest ih =>
    cases line with
    | error failure =>
      obtain rfl : failure = f := by simpa [carry] using h
      exact List.mem_cons_self
    | ok text =>
      rw [carry] at h
      cases hnext : step number text state with
      | error failure =>
        rw [hnext] at h
        obtain rfl : failure = .file f := Except.error.inj h
        exact absurd hnext (hstep number text state f)
      | ok next =>
        rw [hnext] at h
        exact List.mem_cons_of_mem _ (ih h)

/-- A reader that goes through all lines passes on the failures of the lines, and makes up none. -/
theorem Lines.foldLines_honest {σ : Type} (step : Nat → Text → σ → Except StatError σ)
    (state : σ) : LineReader.Honest (foldLines step state) where
  blames lines f h := by
    refine mem_of_carry (fun number text state f => ?_) h
    split <;> simp
  heeds _ := rfl

namespace KeyTable

variable {σ : Type} (table : KeyTable σ)

/-- Skipping the header fails only with the failure of a line. -/
private theorem mem_of_skipHeader {n : Nat} {lines : Lines} {failure : ReadFailure}
    (h : skipHeader n lines = .error failure) : ∃ f, failure = .file f ∧ .error f ∈ lines := by
  induction n generalizing lines with
  | zero => cases h
  | succ n ih =>
    match lines with
    | [] => cases h
    | .error f :: rest => exact ⟨f, by simpa [skipHeader] using h.symm, List.mem_cons_self⟩
    | .ok _ :: rest =>
      obtain ⟨f, hf, hmem⟩ := ih h
      exact ⟨f, hf, List.mem_cons_of_mem _ hmem⟩

/-- What is left behind the header are some of the lines. -/
private theorem subset_of_skipHeader {n : Nat} {lines rest : Lines}
    (h : skipHeader n lines = .ok rest) : rest ⊆ lines := by
  induction n generalizing lines with
  | zero =>
    cases h
    exact List.Subset.refl _
  | succ n ih =>
    match lines with
    | [] =>
      cases h
      exact List.Subset.refl _
    | .ok _ :: _ => exact List.subset_cons_of_subset _ (ih h)

/-- A reader of keys and values fails with a file failure only if a line does. -/
private theorem mem_of_readFrom {lines : Lines} {number : Nat} {progress : Progress σ}
    {f : FileFailure} (h : table.readFrom number progress lines = .error (.file f)) :
    .error f ∈ lines := by
  induction lines generalizing number progress with
  | nil => cases h
  | cons line rest ih =>
    cases line with
    | error failure =>
      obtain rfl : failure = f := by simpa [readFrom] using h
      exact List.mem_cons_self
    | ok text =>
      rw [readFrom] at h
      split at h
      · simp at h
      · split at h
        · cases h
        · exact List.mem_cons_of_mem _ (ih h)

/-- Pairs are taken in as far as the lines can be read. -/
theorem read_honest (fresh : σ) : LineReader.Honest (table.read fresh) where
  blames lines f h := by
    rw [read] at h
    split at h
    · next failure hheader =>
      obtain ⟨f', hf', hmem⟩ := mem_of_skipHeader hheader
      obtain rfl : f' = f := by simpa [hf'] using h
      exact hmem
    · next rest hrest => exact subset_of_skipHeader hrest (table.mem_of_readFrom h)
  heeds f := by
    rw [read]
    cases table.format.headerLines with
    | zero => rfl
    | succ n => rfl

end KeyTable

/-- The reader of pressure files passes on the failures of the lines, and makes up none. -/
theorem Pressure.readLines_honest : LineReader.Honest readLines where
  blames lines f h := by
    rw [readLines] at h
    split at h
    · next failure hfold =>
      rw [Except.error.injEq] at h
      exact (Lines.foldLines_honest _ _).blames _ _ (h ▸ hfold)
    · split at h <;> simp at h
  heeds _ := rfl

namespace Probe

variable {ε ε' α β : Type} {w w' : World}

section Succeeds

/-- The probe ends with a value. -/
def Succeeds (x : Probe ε α) (w : World) : Prop := ∃ a, x.outcome w = .ok a

/-- A value always succeeds. -/
theorem succeeds_pure (a : α) : (pure a : Probe ε α).Succeeds w ↔ True :=
  iff_of_true ⟨a, rfl⟩ trivial

/-- A sequence ends with a value if its parts do, where it does not matter for the second part
which value the first one has. -/
theorem succeeds_bind {x : Probe ε α} {f : α → Probe ε β} {p : Prop}
    (hf : ∀ a, (f a).Succeeds w ↔ p) : (x >>= f).Succeeds w ↔ x.Succeeds w ∧ p := by
  constructor
  · rintro ⟨b, hb⟩
    obtain ⟨a, ha, hb⟩ := outcome_bind_eq_ok.mp hb
    exact ⟨⟨a, ha⟩, (hf a).mp ⟨b, hb⟩⟩
  · rintro ⟨⟨a, ha⟩, hp⟩
    obtain ⟨b, hb⟩ := (hf a).mpr hp
    exact ⟨b, outcome_bind_eq_ok.mpr ⟨a, ha, hb⟩⟩

/-- A loop over lines ends with a value exactly if every line can be read and its step succeeds,
where the state does not matter for that. -/
theorem succeeds_carry {σ : Type} {unreadable : FileFailure → Probe ε σ}
    {step : Nat → Text → σ → Probe ε σ} {good : Nat → Text → Prop}
    (hunreadable : ∀ f, ¬ (unreadable f).Succeeds w)
    (hstep : ∀ n text state, (step n text state).Succeeds w ↔ good n text) (number : Nat)
    (state : σ) (lines : Lines) :
    (Lines.carry unreadable step number state lines).Succeeds w ↔ lines.EachFrom good number := by
  induction lines generalizing number state with
  | nil => exact succeeds_pure state
  | cons line rest ih =>
    cases line with
    | error failure => exact iff_of_false (hunreadable failure) id
    | ok text =>
      exact (succeeds_bind fun next => ih (number + 1) next).trans
        (and_congr_left' (hstep number text state))

end Succeeds

section Fails

/-- The probe ends with a failure. An overflow is none. -/
def Fails (x : Probe ε α) (w : World) : Prop := ∃ reason, x.outcome w = .error (.failed reason)

/-- Without an overflow a probe succeeds wherever it does not fail. -/
theorem NeverOverflows.not_fails_iff {x : Probe ε α} (hx : x.NeverOverflows) :
    ¬ x.Fails w ↔ x.Succeeds w := by
  rcases hx.outcome_cases w with ⟨a, ha⟩ | ⟨reason, hreason⟩
  · simp [Fails, Succeeds, ha]
  · simp [Fails, Succeeds, hreason]

/-- A sequence whose first part does not overflow fails with one of its parts. -/
theorem not_fails_bind {x : Probe ε α} {f : α → Probe ε β} {p : Prop} (hx : x.NeverOverflows)
    (hf : ∀ a, x.outcome w = .ok a → (¬ (f a).Fails w ↔ p)) :
    ¬ (x >>= f).Fails w ↔ ¬ x.Fails w ∧ p := by
  rcases hx.outcome_cases w with ⟨a, ha⟩ | ⟨reason, hreason⟩
  · rw [Fails, outcome_bind_of_ok ha, ← hf a ha, and_iff_right (by simp [Fails, ha])]
    rfl
  · have hfails : (x >>= f).Fails w := ⟨reason, outcome_bind_eq_error.mpr (Or.inl hreason)⟩
    exact iff_of_false (fun h => h hfails) fun h => h.1 ⟨reason, hreason⟩

end Fails

section EndsAlike

/-- The probe ends alike at two worlds. -/
def EndsAlike (x : Probe ε α) (w w' : World) : Prop := x.outcome w = x.outcome w'

/-- A value does not depend on the world. -/
theorem endsAlike_pure (a : α) : (pure a : Probe ε α).EndsAlike w w' := rfl

/-- Nor does a failure. -/
theorem endsAlike_fail (reason : ε) : (fail reason : Probe ε α).EndsAlike w w' := rfl

/-- Nor does an overflow. -/
theorem endsAlike_overflow : (overflow : Probe ε α).EndsAlike w w' := rfl

/-- Nor does a log record. -/
theorem endsAlike_log (level : Level) (text : String) :
    (log level text : Probe ε Unit).EndsAlike w w' := rfl

/-- Nor does a result that is given. -/
theorem endsAlike_ofExcept (x : Except ε α) : (ofExcept x).EndsAlike w w' := by
  rw [EndsAlike, outcome_ofExcept, outcome_ofExcept]

/-- One probe after another ends alike if both of them do. -/
theorem EndsAlike.bind {x : Probe ε α} {f : α → Probe ε β} (hx : x.EndsAlike w w')
    (hf : ∀ a, (f a).EndsAlike w w') : (x >>= f).EndsAlike w w' := by
  rw [EndsAlike, outcome_bind, outcome_bind, hx]
  cases x.outcome w' with
  | error fault => rfl
  | ok a => exact hf a

/-- A failure that is caught is the same in both worlds. -/
theorem EndsAlike.attempt {x : Probe ε α} (hx : x.EndsAlike w w') :
    (Probe.attempt x : Probe ε' (Except ε α)).EndsAlike w w' := by
  rw [EndsAlike, outcome_attempt, outcome_attempt, hx]

/-- Rewording a failure keeps what is alike. -/
theorem EndsAlike.mapFailure {x : Probe ε α} (hx : x.EndsAlike w w') (f : ε → ε') :
    (x.mapFailure f).EndsAlike w w' := by
  rw [EndsAlike, outcome_mapFailure, outcome_mapFailure, hx]

/-- Going through lines ends alike if each step does. -/
theorem endsAlike_carry {σ : Type} {unreadable : FileFailure → Probe ε σ}
    {step : Nat → Text → σ → Probe ε σ} (hunreadable : ∀ f, (unreadable f).EndsAlike w w')
    (hstep : ∀ n text state, (step n text state).EndsAlike w w') (number : Nat) (state : σ)
    (lines : Lines) : (Lines.carry unreadable step number state lines).EndsAlike w w' := by
  induction lines generalizing number state with
  | nil => exact endsAlike_pure state
  | cons line rest ih =>
    cases line with
    | error failure => exact hunreadable failure
    | ok text => exact (hstep number text state).bind fun next => ih (number + 1) next

end EndsAlike

end Probe

open Probe

namespace Stat

variable {α : Type} {path : Path} {w w' : World}

/-- Opening a file gives its lines, or the failure to open it under its path. -/
theorem outcome_openLines :
    (openLines path).outcome w =
      match w.files.openFile path with
      | .ok opened => .ok (Lines.ofOpened opened)
      | .error failure => .error (.failed ⟨path, .file failure⟩) := by
  rw [openLines, outcome_bind_of_ok (outcome_files w)]
  cases w.files.openFile path <;> rfl

/-- A file is read exactly if it opens and its lines are accepted. -/
theorem succeeds_readWith {reader : Lines → Probe ReadFailure α} {accepts : Lines → Prop}
    (h : ∀ lines, (reader lines).Succeeds w ↔ accepts lines) :
    (readWith path reader).Succeeds w ↔ w.files.Holds path accepts := by
  constructor
  · rintro ⟨a, ha⟩
    obtain ⟨lines, hlines, ha⟩ := outcome_bind_eq_ok.mp ha
    rw [outcome_openLines] at hlines
    split at hlines
    · next opened hopened =>
      obtain rfl : Lines.ofOpened opened = lines := by simpa using hlines
      exact ⟨opened, hopened, (h _).mp ⟨a, outcome_mapFailure_eq_ok.mp ha⟩⟩
    · simp at hlines
  · rintro ⟨opened, hopened, haccepts⟩
    obtain ⟨a, ha⟩ := (h _).mpr haccepts
    refine ⟨a, outcome_bind_eq_ok.mpr ⟨Lines.ofOpened opened, ?_, outcome_mapFailure_eq_ok.mpr ha⟩⟩
    rw [outcome_openLines, hopened]

/-- A file is read exactly if it holds lines that the reader accepts. -/
theorem succeeds_read {reader : LineReader α} :
    (read path reader).Succeeds w ↔ w.files.Holds path (LineReader.Accepts reader) := by
  refine succeeds_readWith fun lines => exists_congr fun a => ?_
  rw [outcome_ofExcept]
  cases reader lines <;> simp

/-- Reading a file fails if it does not open, or else as its reader does. The failure names its
path. -/
theorem failure_of_readWith {reader : Lines → Probe ReadFailure α} {failure : PathFailure}
    (h : (readWith path reader).outcome w = .error (.failed failure)) :
    (∃ f, w.files.openFile path = .error f ∧ failure = ⟨path, .file f⟩) ∨
      ∃ opened reason, w.files.openFile path = .ok opened ∧
        (reader (Lines.ofOpened opened)).outcome w = .error (.failed reason) ∧
        failure = ⟨path, reason⟩ := by
  rw [readWith, outcome_bind, outcome_openLines] at h
  cases hopen : w.files.openFile path with
  | error f => exact Or.inl ⟨f, rfl, by simpa [hopen, Except.bind] using h.symm⟩
  | ok opened =>
    simp only [hopen, Except.bind, outcome_mapFailure] at h
    rcases hread : (reader (Lines.ofOpened opened)).outcome w with (reason | _) | a
    · exact Or.inr ⟨opened, reason, rfl, hread, by simpa [hread] using h.symm⟩
    · simp [hread] at h
    · simp [hread] at h

/-- A failure to read a file names that file. -/
theorem path_of_readWith {reader : Lines → Probe ReadFailure α} {failure : PathFailure}
    (h : (readWith path reader).outcome w = .error (.failed failure)) : failure.path = path := by
  rcases failure_of_readWith h with ⟨f, -, rfl⟩ | ⟨opened, reason, -, -, rfl⟩
  · rfl
  · rfl

section Honest

variable {reader : LineReader α} (hreader : reader.Honest) {failure : PathFailure}
include hreader

/-- A file that the system refuses is not read, at whichever stage it is refused. -/
theorem outcome_read_of_error {f : FileFailure} (h : w.files.readBytes path = .error f) :
    (read path reader).outcome w = .error (.failed ⟨path, .file f⟩) := by
  have hfirst : ∀ f, (Probe.ofExcept (reader [.error f])).outcome w =
      .error (.failed (.file f)) := fun f => by
    rw [hreader.heeds, outcome_ofExcept]
    rfl
  rw [read, readWith, outcome_bind, outcome_openLines]
  unfold FileTree.readBytes at h
  cases hopen : w.files.openFile path with
  | error cause =>
    obtain rfl : cause = f := by simpa [hopen] using h
    rfl
  | ok opened =>
    cases opened with
    | content bytes => simp [hopen] at h
    | directory =>
      obtain rfl : .isADirectory = f := by simpa [hopen] using h
      simp [Except.bind, outcome_mapFailure, Lines.ofOpened, hfirst]
    | failing cause =>
      obtain rfl : cause = f := by simpa [hopen] using h
      simp [Except.bind, outcome_mapFailure, Lines.ofOpened, hfirst]

/-- A content that can be had fails for a line that is no text, or for what the lines say. -/
private theorem failure_of_read_of_ok {bytes : List UInt8}
    (hbytes : w.files.readBytes path = .ok bytes)
    (h : (read path reader).outcome w = .error (.failed failure)) :
    failure = ⟨path, .file .notUtf8⟩ ∨ ∃ error, failure = ⟨path, .malformed error⟩ := by
  have hopen : w.files.openFile path = .ok (.content bytes) := by
    unfold FileTree.readBytes at hbytes
    split at hbytes
    · simp at hbytes
    · next hopen => rw [hopen, Except.ok.inj hbytes]
    · simp at hbytes
    · simp at hbytes
  rcases failure_of_readWith h with ⟨f, hf, -⟩ | ⟨opened, reason, hopened, hreason, rfl⟩
  · simp [hopen] at hf
  · obtain rfl : .content bytes = opened := Except.ok.inj (hopen.symm.trans hopened)
    rw [outcome_ofExcept] at hreason
    cases hread : reader (Lines.ofBytes bytes) with
    | ok a => simp [Lines.ofOpened, hread] at hreason
    | error cause =>
      obtain rfl : cause = reason := by simpa [Lines.ofOpened, hread] using hreason
      cases cause with
      | malformed error => exact Or.inr ⟨error, rfl⟩
      | file f =>
        rw [Lines.failure_of_mem_ofBytes (hreader.blames _ _ hread)]
        exact Or.inl rfl

/-- A file that is read is not refused. -/
theorem not_failsAs_of_read {a : α} (h : (read path reader).outcome w = .ok a)
    (kind : FileFailure → Bool) : ¬ w.files.FailsAs path kind := by
  rintro ⟨f, hf, -⟩
  simp [outcome_read_of_error hreader hf] at h

/-- A file that holds what its reader accepts is not refused. -/
theorem not_failsAs_of_holds (h : w.files.Holds path (LineReader.Accepts reader))
    (kind : FileFailure → Bool) : ¬ w.files.FailsAs path kind := by
  obtain ⟨a, ha⟩ := succeeds_read.mpr h
  exact not_failsAs_of_read hreader ha kind

/-- A failure to read a file is of a kind that only the system answers exactly if the system does
answer it. -/
private theorem failsAs_of_read (h : (read path reader).outcome w = .error (.failed failure))
    {kind : FileFailure → Bool} {shows : ReadFailure → Bool} (hkind : kind .notUtf8 = false)
    (hfile : ∀ f, shows (.file f) = kind f)
    (hmalformed : ∀ error, shows (.malformed error) = false) :
    shows failure.failure = true ↔ w.files.FailsAs path kind := by
  cases hbytes : w.files.readBytes path with
  | error f =>
    rw [outcome_read_of_error hreader hbytes, Except.error.injEq, Fault.failed.injEq] at h
    rw [← h, hfile, FileTree.failsAs_iff_of_error hbytes]
  | ok bytes =>
    refine iff_of_false ?_ (FileTree.not_failsAs_of_ok hbytes)
    rcases failure_of_read_of_ok hreader hbytes h with rfl | ⟨error, rfl⟩
    · simp [hfile, hkind]
    · simp [hmalformed]

/-- A file that cannot be read is gone if the system answers that, and only then. -/
theorem isGone_of_read (h : (read path reader).outcome w = .error (.failed failure)) :
    failure.isGone = true ↔ w.files.Gone path :=
  failsAs_of_read hreader h rfl (fun _ => rfl) fun _ => rfl

/-- A read fails as missing exactly if there is no file. -/
private theorem isMissing_of_read (h : (read path reader).outcome w = .error (.failed failure)) :
    failure.failure.isMissing = true ↔ w.files.Missing path :=
  failsAs_of_read hreader h rfl (fun _ => rfl) fun _ => rfl

/-- A read fails as unsupported exactly if the kernel does not support the file. -/
private theorem isUnsupported_of_read
    (h : (read path reader).outcome w = .error (.failed failure)) :
    failure.failure.isUnsupported = true ↔ w.files.Unsupported path :=
  failsAs_of_read hreader h rfl (fun _ => rfl) fun _ => rfl

/-- A missing file is no value and no failure. -/
theorem outcome_readOptional_of_missing (h : w.files.Missing path) :
    (readOptional path reader).outcome w = .ok none := by
  obtain ⟨f, hf, hmissing⟩ := h
  rw [readOptional, outcome_attempt_bind, outcome_read_of_error hreader hf]
  simp [ReadFailure.isMissing, hmissing]

/-- An optional file that is not missing is read like any other. -/
theorem outcome_readOptional_of_present (h : ¬ w.files.Missing path) :
    (readOptional path reader).outcome w = ((read path reader).outcome w).map some := by
  rw [readOptional, outcome_attempt_bind]
  rcases hread : (read path reader).outcome w with (failure | _) | a
  · have hpresent : ¬ failure.failure.isMissing = true := fun hmissing =>
      h ((isMissing_of_read hreader hread).mp hmissing)
    simp [hpresent, Except.map]
  · rfl
  · rfl

/-- An optional file is missing, or it is read like any other. -/
theorem succeeds_readOptional :
    (readOptional path reader).Succeeds w ↔
      w.files.Missing path ∨ w.files.Holds path (LineReader.Accepts reader) := by
  rw [← succeeds_read]
  by_cases hmissing : w.files.Missing path
  · exact iff_of_true ⟨none, outcome_readOptional_of_missing hreader hmissing⟩ (Or.inl hmissing)
  · rw [or_iff_right hmissing, Succeeds, outcome_readOptional_of_present hreader hmissing, Succeeds]
    cases (read path reader).outcome w <;> simp [Except.map]

/-- An optional file that cannot be read is unsupported if the system answers that, and only
then. -/
theorem isUnsupported_of_readOptional
    (h : (readOptional path reader).outcome w = .error (.failed failure)) :
    failure.failure.isUnsupported = true ↔ w.files.Unsupported path := by
  by_cases hmissing : w.files.Missing path
  · simp [outcome_readOptional_of_missing hreader hmissing] at h
  · rw [outcome_readOptional_of_present hreader hmissing] at h
    rcases hread : (read path reader).outcome w with (cause | _) | a
    · obtain rfl : cause = failure := by simpa [hread, Except.map] using h
      exact isUnsupported_of_read hreader hread
    · simp [hread, Except.map] at h
    · simp [hread, Except.map] at h

end Honest

/-- An absent file is no value and no failure. -/
theorem outcome_readOptional_of_absent {reader : LineReader α} (h : w.files.Absent path) :
    (readOptional path reader).outcome w = .ok none := by
  have hread : (read path reader).outcome w = .error (.failed ⟨path, .file .notFound⟩) := by
    refine outcome_bind_eq_error.mpr (Or.inl ?_)
    rw [outcome_openLines, h]
  rw [readOptional, outcome_attempt_bind, hread]
  rfl

section EndsAlike

variable (h : w.files.openFile path = w'.files.openFile path)
include h

/-- Opening a file depends on that file only. -/
theorem openLines_endsAlike : (openLines path).EndsAlike w w' := by
  rw [EndsAlike, outcome_openLines, outcome_openLines, h]

/-- Reading a file depends on that file and on what its reader asks for. -/
theorem readWith_endsAlike {reader : Lines → Probe ReadFailure α}
    (hreader : ∀ lines, (reader lines).EndsAlike w w') : (readWith path reader).EndsAlike w w' :=
  (openLines_endsAlike h).bind fun lines => (hreader lines).mapFailure _

/-- How reading a file ends depends only on what its path leads to. -/
theorem read_endsAlike (reader : LineReader α) : (read path reader).EndsAlike w w' :=
  readWith_endsAlike h fun lines => endsAlike_ofExcept (reader lines)

/-- Reading an optional file depends on that file only. -/
theorem readOptional_endsAlike (reader : LineReader α) :
    (readOptional path reader).EndsAlike w w' := by
  refine (read_endsAlike h reader).attempt.bind fun result => ?_
  cases result with
  | ok value => exact endsAlike_pure _
  | error failure =>
    dsimp only
    split
    · exact endsAlike_pure _
    · exact endsAlike_fail _

end EndsAlike

end Stat

namespace Pressure

variable {path : Path} {w w' : World}

/-- A pressure file is missing, or the kernel does not support it, or it is read like any other. -/
theorem succeeds_read :
    (read path).Succeeds w ↔
      w.files.Missing path ∨ w.files.Unsupported path ∨
        w.files.Holds path (LineReader.Accepts readLines) := by
  have hoptional : (Stat.readOptional path readLines).Succeeds w ↔ _ :=
    Stat.succeeds_readOptional readLines_honest
  rw [or_left_comm, ← hoptional, Succeeds, read, outcome_attempt_bind, Succeeds]
  rcases h : (Stat.readOptional path readLines).outcome w with (failure | _) | (_ | pressure)
  · rw [← Stat.isUnsupported_of_readOptional readLines_honest h]
    cases hunsupported : failure.failure.isUnsupported with
    | false => simp [hunsupported]
    | true =>
      refine iff_of_true ⟨.none, ?_⟩ (Or.inl rfl)
      simp only [hunsupported, if_true]
      exact outcome_bind_of_ok (outcome_log w _ _) _
  · exact absurd h (Stat.readOptional_neverOverflows _ _ w)
  · exact iff_of_true ⟨.none, rfl⟩ (Or.inr ⟨.none, rfl⟩)
  · exact iff_of_true ⟨.some pressure, rfl⟩ (Or.inr ⟨.some pressure, rfl⟩)

/-- Reading a pressure file depends on that file only. -/
theorem read_endsAlike (h : w.files.openFile path = w'.files.openFile path) :
    (read path).EndsAlike w w' := by
  refine (Stat.readOptional_endsAlike h _).attempt.bind fun result => ?_
  split
  · exact endsAlike_pure _
  · exact (endsAlike_log _ _).bind fun _ => endsAlike_pure _
  · split
    · exact (endsAlike_log _ _).bind fun _ => endsAlike_pure _
    · exact endsAlike_fail _

end Pressure

end ProcessMeter
