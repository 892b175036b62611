import Mathlib.Logic.Relation
import ProcessMeter.Proofs.PressureLines

/-!
# Pressure files, whatever the order of their lines

A pressure file has lines of two kinds, in any order and number. It is accepted if all its lines are
sound and one of them is about some tasks, and then the last line of each kind counts. So lines of
different kinds may change places, and blank lines and foreign words may stand anywhere. The first
line at fault is reported.
-/

namespace ProcessMeter

open Text

namespace Pressure

/-- The kinds of lines. -/
inductive Extent where
  | some
  | full
  deriving DecidableEq

namespace Extent

/-- The first word of such a line. -/
def word : Extent → Text
  | some => "some".toList
  | full => "full".toList

/-- The latest line of this kind. -/
def of : Extent → Progress → Option Stall
  | some, progress => progress.some
  | full, progress => progress.full

/-- The progress with a new line of this kind. -/
def put (stall : Stall) (progress : Progress) : Extent → Progress
  | some => { progress with some := .some stall }
  | full => { progress with full := .some stall }

/-- The figures of an extent that were stored are found. -/
@[simp] theorem of_put_self (extent : Extent) (stall : Stall) (progress : Progress) :
    extent.of (extent.put stall progress) = .some stall := by
  cases extent <;> rfl

/-- Storing those of one extent keeps the other. -/
theorem of_put_of_ne {extent other : Extent} (h : other ≠ extent) (stall : Stall)
    (progress : Progress) : other.of (extent.put stall progress) = other.of progress := by
  cases extent <;> cases other <;> first | rfl | exact absurd rfl h

/-- Different extents have different words. -/
theorem word_injective {extent other : Extent} (h : extent.word = other.word) :
    extent = other := by
  cases extent <;> cases other <;> first | rfl | exact absurd h (by decide)

end Extent

/-- The line is of this kind: its first word is that of the kind. -/
def Heads (extent : Extent) (line : Text) : Prop := (words line).head? = Option.some extent.word

instance (extent : Extent) : DecidablePred (Heads extent) := fun line =>
  inferInstanceAs (Decidable ((words line).head? = Option.some extent.word))

/-- A line is sound if it is blank, or if it is of some kind and the words behind the first are
sound. -/
def IsSoundLine (line : Text) : Prop :=
  words line = [] ∨ (∃ extent, Heads extent line) ∧ ∀ word ∈ (words line).tail, IsSoundWord word

/-- What is wrong with a line, as a complaint about the line of a number. -/
inductive LineFault (line : Text) : (Nat → StatError) → Prop where
  /-- The first word is that of no kind. -/
  | stray {word : Text} {behind : List Text} (words_eq : words line = word :: behind)
    (word_stray : ∀ extent : Extent, word ≠ extent.word) :
    LineFault line fun number => .unexpectedFormat (trimEnd line) number
  /-- A word behind the first is at fault. -/
  | word {extent : Extent} {behind : List Text} {complaint : Nat → StatError}
    (words_eq : words line = extent.word :: behind)
    (first : FirstTells WordFault behind complaint) : LineFault line complaint

/-- The line gives these figures. -/
def GivesStall (line : Text) (found : Option Stall) : Prop :=
  ∃ stall, found = Option.some stall ∧ Follows (words line).tail stall

/-- What the lines of a file give: of each kind the last line, if there is one. -/
def Reports (lines : List Text) (progress : Progress) : Prop :=
  ∀ extent : Extent, LastTells (Heads extent) GivesStall lines Option.none (extent.of progress)

section Line

variable {line : Text} {number : Nat} {progress progress' : Progress} {error : StatError}

/-- A line without words changes nothing. -/
theorem takeLine_blank (h : words line = []) : takeLine number line progress = .ok progress := by
  simp only [takeLine, h]

/-- A line that begins with the word of an extent stores its figures. -/
theorem takeLine_extent {extent : Extent} {behind : List Text}
    (h : words line = extent.word :: behind) : takeLine number line progress =
      (takeWords number .none behind).map fun stall => extent.put stall progress := by
  cases extent <;> simp only [takeLine, h] <;> rfl

/-- A line that begins with another word is refused. -/
theorem takeLine_stray {word : Text} {behind : List Text} (h : words line = word :: behind)
    (hstray : ∀ extent : Extent, word ≠ extent.word) :
    takeLine number line progress = .error (.unexpectedFormat (trimEnd line) number) := by
  have hsome : word ≠ "some".toList := hstray .some
  have hfull : word ≠ "full".toList := hstray .full
  simp only [takeLine, h, if_neg hsome, if_neg hfull]

/-- A line is blank, of a kind, or of none. -/
theorem line_cases (line : Text) : words line = [] ∨
    (∃ (extent : Extent) (behind : List Text), words line = extent.word :: behind) ∨
      ∃ word behind, words line = word :: behind ∧ ∀ extent : Extent, word ≠ extent.word := by
  cases hwords : words line with
  | nil => exact .inl rfl
  | cons word behind =>
    by_cases h : ∃ extent : Extent, word = extent.word
    · obtain ⟨extent, rfl⟩ := h
      exact .inr (.inl ⟨extent, behind, rfl⟩)
    · exact .inr (.inr ⟨word, behind, rfl, not_exists.mp h⟩)

/-- A line is refused if it is at fault, whatever was read before. -/
theorem takeLine_eq_error_iff : takeLine number line progress = .error error ↔
    ∃ complaint, LineFault line complaint ∧ error = complaint number := by
  constructor
  · intro h
    rcases line_cases line with hwords | ⟨extent, behind, hwords⟩ | ⟨word, behind, hwords, hstray⟩
    · rw [takeLine_blank hwords] at h
      cases h
    · rw [takeLine_extent hwords] at h
      cases htake : takeWords number .none behind with
      | ok stall => simp [htake, Except.map] at h
      | error error' =>
        obtain ⟨complaint, hfirst, rfl⟩ := takeWords_eq_error_iff.mp htake
        refine ⟨complaint, .word hwords hfirst, ?_⟩
        simpa [htake, Except.map] using h.symm
    · rw [takeLine_stray hwords hstray] at h
      exact ⟨_, .stray hwords hstray, (Except.error.inj h).symm⟩
  · rintro ⟨complaint, hfault, rfl⟩
    cases hfault with
    | stray hwords hstray => exact takeLine_stray hwords hstray
    | word hwords hfirst =>
      rw [takeLine_extent hwords, takeWords_eq_error_iff.mpr ⟨complaint, hfirst, rfl⟩]
      rfl

/-- What a line that is accepted does: it gives the figures of its kind or nothing. -/
theorem takeLine_eq_ok (h : takeLine number line progress = .ok progress') :
    (words line = [] ∧ progress' = progress) ∨
    ∃ (extent : Extent) (behind : List Text) (stall : Stall), words line = extent.word :: behind ∧
      takeWords number .none behind = .ok stall ∧ progress' = extent.put stall progress := by
  rcases line_cases line with hwords | ⟨extent, behind, hwords⟩ | ⟨word, behind, hwords, hstray⟩
  · rw [takeLine_blank hwords] at h
    exact .inl ⟨hwords, (Except.ok.inj h).symm⟩
  · rw [takeLine_extent hwords] at h
    cases htake : takeWords number .none behind with
    | error error => simp [htake, Except.map] at h
    | ok stall =>
      refine .inr ⟨extent, behind, stall, hwords, htake, ?_⟩
      simpa [htake, Except.map] using h.symm
  · rw [takeLine_stray hwords hstray] at h
    cases h

/-- A line of a kind gives the figures of that kind, and other lines keep them. -/
theorem of_takeLine {extent : Extent} (h : takeLine number line progress = .ok progress') :
    (Heads extent line → GivesStall line (extent.of progress')) ∧
      (¬ Heads extent line → extent.of progress' = extent.of progress) := by
  rcases takeLine_eq_ok h with ⟨hwords, rfl⟩ | ⟨other, behind, stall, hwords, htake, rfl⟩
  · constructor
    · intro hheads
      simp [Heads, hwords] at hheads
    · intro _
      rfl
  · constructor
    · intro hheads
      have hword : extent.word = other.word := by simpa [Heads, hwords, eq_comm] using hheads
      obtain rfl := Extent.word_injective hword
      refine ⟨stall, extent.of_put_self stall progress, ?_⟩
      rw [hwords]
      exact (takeWords_eq_ok_iff.mp htake).2
    · intro hheads
      apply Extent.of_put_of_ne
      rintro rfl
      exact hheads (by rw [Heads, hwords, List.head?_cons])

/-- What is wrong with a line of a kind is wrong with one of the words behind the first. -/
theorem lineFault_iff {extent : Extent} {behind : List Text} {complaint : Nat → StatError}
    (h : words line = extent.word :: behind) :
    LineFault line complaint ↔ FirstTells WordFault behind complaint := by
  constructor
  · intro hfault
    cases hfault with
    | stray hwords hstray =>
      have hword := (List.cons.inj (h.symm.trans hwords)).1
      exact absurd hword.symm (hstray extent)
    | word hwords hfirst =>
      obtain rfl := (List.cons.inj (h.symm.trans hwords)).2
      exact hfirst
  · exact .word h

/-- A line is sound if nothing is wrong with it. -/
theorem isSoundLine_iff : IsSoundLine line ↔ ∀ complaint, ¬ LineFault line complaint := by
  rcases line_cases line with hwords | ⟨extent, behind, hwords⟩ | ⟨word, behind, hwords, hstray⟩
  · refine iff_of_true (.inl hwords) fun complaint hfault => ?_
    cases hfault with
    | stray h => simp [hwords] at h
    | word h => simp [hwords] at h
  · have hheads : Heads extent line := by rw [Heads, hwords, List.head?_cons]
    have hsome : ∃ extent, Heads extent line := ⟨extent, hheads⟩
    have hsound : IsSoundLine line ↔ ∀ word ∈ behind, IsSoundWord word := by
      simp [IsSoundLine, hwords, hsome]
    have hfaulty : (∃ complaint, FirstTells WordFault behind complaint) ↔
        ∃ word ∈ behind, ∃ complaint, WordFault word complaint := exists_firstTells_iff
    simp only [hsound, isSoundWord_iff, lineFault_iff hwords]
    simpa using not_congr hfaulty.symm
  · refine iff_of_false ?_ fun hnone => hnone _ (.stray hwords hstray)
    rintro (hblank | ⟨⟨extent, hheads⟩, -⟩)
    · simp [hwords] at hblank
    · exact hstray extent (by simpa [Heads, hwords] using hheads)

/-- Blanks at the end of a line do not matter. -/
theorem takeLine_trimEnd :
    takeLine number (trimEnd line) progress = takeLine number line progress := by
  rw [takeLine, takeLine, words_trimEnd, trimEnd_trimEnd]

end Line

section Lines

variable {lines : List Text} {progress : Progress} {error : StatError}

/-- What was read when all lines have been taken in. -/
def progressOf (lines : List Text) : Except StatError Progress :=
  (lines.zipIdx 1).foldlM (fun progress line => takeLine line.2 line.1 progress) ⟨.none, .none⟩

/-- What a file of such lines is read as. -/
def readOf (lines : List Text) : Except ReadFailure Pressure :=
  match progressOf lines with
  | .error error => .error (.malformed error)
  | .ok progress =>
    match progress.some with
    | .some stall => .ok ⟨stall, progress.full⟩
    | .none => .error (.malformed (.missingField "some".toList))

/-- The first line at fault is reported, with its number. -/
theorem progressOf_eq_error_iff : progressOf lines = .error error ↔
    ∃ complaint number, FirstTells (TellsNumbered LineFault) (lines.zipIdx 1) (complaint, number) ∧
      error = complaint number := by
  have hstep (progress : Progress) (line : Text × Nat) (error : StatError) :
      takeLine line.2 line.1 progress = .error error ↔
        ∃ c, TellsNumbered LineFault line c ∧ error = c.1 c.2 := by
    rw [takeLine_eq_error_iff]
    constructor
    · rintro ⟨complaint, hfault, rfl⟩
      exact ⟨(complaint, line.2), ⟨hfault, rfl⟩, rfl⟩
    · rintro ⟨⟨complaint, number⟩, ⟨hfault, rfl⟩, rfl⟩
      exact ⟨complaint, hfault, rfl⟩
  rw [progressOf, foldlM_eq_error_iff hstep, firstTells_map, Prod.exists]

/-- A file is refused for a line if there is a line at fault. -/
theorem exists_progressOf_eq_error_iff :
    (∃ error, progressOf lines = .error error) ↔ ¬ ∀ line ∈ lines, IsSoundLine line := by
  have hfirst : (∃ error, progressOf lines = .error error) ↔
      ∃ complaint, FirstTells LineFault lines complaint := by
    simp only [progressOf_eq_error_iff]
    constructor
    · rintro ⟨_, complaint, number, hfirst, rfl⟩
      exact ⟨complaint, exists_firstTells_zipIdx_iff.mp ⟨number, hfirst⟩⟩
    · rintro ⟨complaint, hfirst⟩
      obtain ⟨number, hnumber⟩ := exists_firstTells_zipIdx_iff.mpr hfirst
      exact ⟨_, complaint, number, hnumber, rfl⟩
  rw [hfirst, exists_firstTells_iff]
  simp [isSoundLine_iff]

/-- A line gives one set of figures only. -/
theorem GivesStall.unique {line : Text} {found found' : Option Stall}
    (h : GivesStall line found) (h' : GivesStall line found') : found = found' := by
  obtain ⟨stall, rfl, hstall⟩ := h
  obtain ⟨stall', rfl, hstall'⟩ := h'
  rw [hstall.unique hstall']

/-- Lines report one pair of figures only. -/
theorem Reports.unique {progress' : Progress} (h : Reports lines progress)
    (h' : Reports lines progress') : progress = progress' := by
  have hextent (extent : Extent) : extent.of progress = extent.of progress' := by
    refine (h extent).unique ?_ (h' extent)
    exact fun _ _ _ => GivesStall.unique
  have hsome := hextent .some
  have hfull := hextent .full
  cases progress
  cases progress'
  simp_all [Extent.of]

/-- The lines are accepted if they are sound, and then the last one of each kind counts. -/
theorem progressOf_eq_ok_iff : progressOf lines = .ok progress ↔
    (∀ line ∈ lines, IsSoundLine line) ∧ Reports lines progress := by
  have hreports {progress : Progress} (h : progressOf lines = .ok progress) :
      Reports lines progress := by
    intro extent
    have hlast : LastTells (fun line : Text × Nat => Heads extent line.1)
        (fun line => GivesStall line.1) (lines.zipIdx 1) Option.none (extent.of progress) := by
      have hnone : extent.of ⟨.none, .none⟩ = Option.none := by cases extent <;> rfl
      rw [← hnone]
      refine lastTells_of_foldlM extent.of ?_ ?_ h
      · exact fun _ _ _ hline => (of_takeLine hline).1
      · exact fun _ _ _ hline => (of_takeLine hline).2
    -- the figures do not depend on the numbers of the lines
    have hmap := hlast.map
    rwa [List.zipIdx_map_fst] at hmap
  constructor
  · intro h
    have hfine : ¬ ∃ error, progressOf lines = .error error := by simp [h]
    rw [exists_progressOf_eq_error_iff, not_not] at hfine
    exact ⟨hfine, hreports h⟩
  · rintro ⟨hsound, h⟩
    cases hread : progressOf lines with
    | ok progress' => rw [(hreports hread).unique h]
    | error error =>
      exact absurd hsound (exists_progressOf_eq_error_iff.mp ⟨error, hread⟩)

/-- A file is accepted if its lines are, and one of them is about some tasks. -/
theorem readOf_eq_ok_iff {p : Pressure} : readOf lines = .ok p ↔
    (∀ line ∈ lines, IsSoundLine line) ∧ Reports lines ⟨.some p.some, p.full⟩ := by
  rw [← progressOf_eq_ok_iff, readOf]
  cases progressOf lines with
  | error error => simp
  | ok progress =>
    obtain ⟨found, full⟩ := progress
    obtain ⟨stall, full'⟩ := p
    cases found <;> simp

/-- There are figures of a kind exactly if there is a line of that kind. -/
theorem Reports.isSome_iff (h : Reports lines progress) (extent : Extent) :
    (extent.of progress).isSome ↔ ∃ line ∈ lines, Heads extent line := by
  have hlast := h extent
  generalize extent.of progress = found at hlast ⊢
  cases hlast with
  | usual hnone =>
    refine iff_of_false (by simp) ?_
    rintro ⟨line, hline, hheads⟩
    exact hnone line hline hheads
  | told hlast hgives =>
    obtain ⟨stall, rfl, -⟩ := hgives
    exact iff_of_true rfl ⟨_, hlast.mem⟩

/-- Why the lines of a file are refused: the first line at fault, or else that no line is about some
tasks. -/
inductive Refused (lines : List Text) : ReadFailure → Prop where
  | line {complaint : Nat → StatError} {number : Nat}
    (first : FirstTells (TellsNumbered LineFault) (lines.zipIdx 1) (complaint, number)) :
    Refused lines (.malformed (complaint number))
  | missing (sound : ∀ line ∈ lines, IsSoundLine line) (none : ∀ line ∈ lines, ¬ Heads .some line) :
    Refused lines (.malformed (.missingField "some".toList))

/-- Sound lines are all taken, and report what they say. -/
theorem progressOf_eq_ok_of_sound (h : ∀ line ∈ lines, IsSoundLine line) :
    ∃ progress, progressOf lines = .ok progress ∧ Reports lines progress := by
  cases hread : progressOf lines with
  | ok progress => exact ⟨progress, rfl, (progressOf_eq_ok_iff.mp hread).2⟩
  | error error => exact absurd h (exists_progressOf_eq_error_iff.mp ⟨error, hread⟩)

/-- The lines are refused exactly for the first thing that is wrong with them. -/
theorem readOf_eq_error_iff {failure : ReadFailure} :
    readOf lines = .error failure ↔ Refused lines failure := by
  constructor
  · intro h
    rw [readOf] at h
    cases hread : progressOf lines with
    | error error =>
      rw [hread] at h
      obtain ⟨complaint, number, hfirst, rfl⟩ := progressOf_eq_error_iff.mp hread
      obtain rfl := Except.error.inj h
      exact .line hfirst
    | ok progress =>
      obtain ⟨hsound, hreports⟩ := progressOf_eq_ok_iff.mp hread
      have hsome := hreports.isSome_iff .some
      obtain ⟨found, full⟩ := progress
      cases found with
      | some stall => simp [hread] at h
      | none =>
        obtain rfl : _ = failure := by simpa [hread] using h
        exact .missing hsound (by simpa [Extent.of] using hsome)
  · intro h
    cases h with
    | line hfirst =>
      have hread := progressOf_eq_error_iff.mpr ⟨_, _, hfirst, rfl⟩
      rw [readOf, hread]
    | missing hsound hnone =>
      obtain ⟨progress, hread, hreports⟩ := progressOf_eq_ok_of_sound hsound
      have hsome := hreports.isSome_iff .some
      obtain ⟨found, full⟩ := progress
      cases found with
      | some stall =>
        obtain ⟨line, hline, hheads⟩ := hsome.mp rfl
        exact absurd hheads (hnone line hline)
      | none => rw [readOf, hread]

/-- A file is accepted exactly if its lines are sound and one of them is about some tasks. -/
theorem exists_readOf_eq_ok_iff : (∃ p, readOf lines = .ok p) ↔
    (∀ line ∈ lines, IsSoundLine line) ∧ ∃ line ∈ lines, Heads .some line := by
  constructor
  · rintro ⟨p, hread⟩
    obtain ⟨hsound, hreports⟩ := readOf_eq_ok_iff.mp hread
    exact ⟨hsound, (hreports.isSome_iff .some).mp rfl⟩
  · rintro ⟨hsound, hline⟩
    obtain ⟨progress, -, hreports⟩ := progressOf_eq_ok_of_sound hsound
    have hsome := (hreports.isSome_iff .some).mpr hline
    obtain ⟨stall, hstall⟩ := Option.isSome_iff_exists.mp hsome
    refine ⟨⟨stall, progress.full⟩, readOf_eq_ok_iff.mpr ⟨hsound, ?_⟩⟩
    rw [← hstall]
    exact hreports

end Lines

/-- The lines of a file, without the blanks at their ends. -/
def linesOf (text : Text) : List Text := (rawLines text).map trimEnd

/-- The blanks at the ends of lines do not matter. -/
theorem readLines_encode (text : Text) :
    readLines (Lines.ofBytes (encode text)) = readOf (linesOf text) := by
  have htrim : progressOf (linesOf text) = progressOf (rawLines text) := by
    rw [progressOf, linesOf, List.zipIdx_map, List.foldlM_map]
    simp only [Prod.map_fst, Prod.map_snd, takeLine_trimEnd, id]
    rfl
  rw [Lines.ofBytes_encode, readLines, Lines.foldLines_ofText, readOf, htrim, progressOf]
  cases ((rawLines text).zipIdx 1).foldlM
    (fun progress line => takeLine line.2 line.1 progress) ⟨.none, .none⟩ <;> rfl

/-- Lines with one more blank line, or with one more word on a line of some kind that is not the
key of a figure. -/
inductive Padded : List Text → List Text → Prop where
  | blank (front behind : List Text) {line : Text} (line_blank : words line = []) :
    Padded (front ++ behind) (front ++ line :: behind)
  | word (front behind : List Text) {line line' word : Text} {extent : Extent}
    {before after : List Text} (foreign : ¬ HasFigure word)
    (line_words : words line = extent.word :: (before ++ after))
    (line'_words : words line' = extent.word :: (before ++ word :: after)) :
    Padded (front ++ line :: behind) (front ++ line' :: behind)

/-- Lines that are padded, or of which two neighbours of different kinds change places. -/
inductive Exchanged : List Text → List Text → Prop where
  | padded {lines lines' : List Text} (h : Padded lines lines') : Exchanged lines lines'
  | swap (front behind : List Text) {line line' : Text} (line_some : Heads .some line)
    (line'_full : Heads .full line') :
    Exchanged (front ++ line :: line' :: behind) (front ++ line' :: line :: behind)

section Rearrangement

variable {lines lines' : List Text}

/-- Padding leaves the first fault in place, but for its number. -/
theorem Padded.firstTells_iff {complaint : Nat → StatError} (h : Padded lines lines') :
    FirstTells LineFault lines complaint ↔ FirstTells LineFault lines' complaint := by
  cases h with
  | blank front behind hblank =>
    have hsound := isSoundLine_iff.mp (.inl hblank)
    exact (firstTells_insert hsound).symm
  | word front behind hforeign hline hline' =>
    apply firstTells_replace
    intro complaint
    rw [lineFault_iff hline, lineFault_iff hline']
    exact (firstTells_insert fun _ hfault => hforeign hfault.hasFigure).symm

/-- A line begins with the word of one extent only. -/
theorem not_heads_of_heads {extent other : Extent} {line : Text} (h : Heads extent line)
    (hne : other ≠ extent) : ¬ Heads other line := by
  intro h'
  have hword : other.word = extent.word := by simpa using h'.symm.trans h
  exact hne (Extent.word_injective hword)

/-- Lines of different kinds may change places. -/
theorem Exchanged.progressOf_iff {progress : Progress} (h : Exchanged lines lines') :
    progressOf lines = .ok progress ↔ progressOf lines' = .ok progress := by
  cases h with
  | padded h =>
    cases h with
    | @blank front behind line hblank =>
      rw [progressOf_eq_ok_iff, progressOf_eq_ok_iff]
      refine and_congr ?_ (forall_congr' fun extent => LastTells.congr_filter ?_)
      · have hsound : IsSoundLine line := .inl hblank
        simp [or_imp, forall_and, hsound]
      · have hnot : ¬ Heads extent line := by simp [Heads, hblank]
        simp [hnot]
    | @word front behind line line' _ _ _ _ hforeign hline hline' =>
      -- the padded line does what the line did, number and all
      have htake (number : Nat) (progress : Progress) :
          takeLine number line progress = takeLine number line' progress := by
        rw [takeLine_extent hline, takeLine_extent hline', takeWords_insert hforeign]
      simp only [progressOf, List.zipIdx_append, List.zipIdx_cons, List.foldlM_append,
        List.foldlM_cons, htake]
  | @swap front behind line line' hsome hfull =>
    -- of either kind only one line is among the two, so its order within the kind is kept
    rw [progressOf_eq_ok_iff, progressOf_eq_ok_iff]
    refine and_congr ?_ (forall_congr' fun extent => LastTells.congr_filter ?_)
    · simp only [List.mem_append, List.mem_cons]
      refine forall_congr' fun line => imp_congr_left ?_
      tauto
    · have hnot : ¬ Heads .full line := not_heads_of_heads hsome (by decide)
      have hnot' : ¬ Heads .some line' := not_heads_of_heads hfull (by decide)
      cases extent <;> simp [hsome, hfull, hnot, hnot']

/-- What one rearrangement leaves as it is, any number of them does, forth and back. -/
theorem iff_of_eqvGen {r : List Text → List Text → Prop} (p : List Text → Prop)
    (hstep : ∀ lines lines', r lines lines' → (p lines ↔ p lines'))
    (h : Relation.EqvGen r lines lines') : p lines ↔ p lines' := by
  induction h with
  | rel _ _ h => exact hstep _ _ h
  | refl => exact .rfl
  | symm _ _ _ ih => exact ih.symm
  | trans _ _ _ _ _ ih ih' => exact ih.trans ih'

/-- What a file is read as is up to what its lines are accepted as. -/
theorem readOf_eq_of_progressOf
    (h : ∀ progress, progressOf lines = .ok progress ↔ progressOf lines' = .ok progress) :
    readOf lines = readOf lines' ∨
      (∃ error, progressOf lines = .error error) ∧ ∃ error, progressOf lines' = .error error := by
  cases hread : progressOf lines with
  | ok progress =>
    have hread' := (h progress).mp hread
    exact .inl (by rw [readOf, readOf, hread, hread'])
  | error error =>
    cases hread' : progressOf lines' with
    | ok progress => simp [(h progress).mpr hread'] at hread
    | error error' => exact .inr ⟨⟨error, rfl⟩, error', rfl⟩

end Rearrangement

/-- A pressure file is accepted exactly if every line that is not blank is of some kind and has no
figure that is malformed, and one line is about some tasks. It is read as the last line of each
kind, and of that line each figure as the last one for its key. Otherwise the first line at fault is
reported, or that no line is about some tasks. What is accepted, and as what, does not change if
neighbours of different kinds change places, or blank lines or foreign words come in; these do not
change what is reported either, but for the number of the line. -/
theorem readLines_lastLines (text : Text) :
    let read (text : Text) := readLines (Lines.ofBytes (encode text))
    let lines := linesOf text
    ((∃ p, read text = .ok p) ↔
      (∀ line ∈ lines, IsSoundLine line) ∧ ∃ line ∈ lines, Heads .some line) ∧
    (∀ p, read text = .ok p ↔
      (∀ line ∈ lines, IsSoundLine line) ∧ Reports lines ⟨.some p.some, p.full⟩) ∧
    (∀ failure, read text = .error failure ↔ Refused lines failure) ∧
    (∀ other, Relation.EqvGen Exchanged lines (linesOf other) → read other = read text ∨
      ((∃ line ∈ lines, ¬ IsSoundLine line) ∧ ∃ line ∈ linesOf other, ¬ IsSoundLine line)) ∧
    (∀ other, Relation.EqvGen Padded lines (linesOf other) → ∀ complaint number,
      FirstTells (TellsNumbered LineFault) (lines.zipIdx 1) (complaint, number) →
        ∃ number, read other = .error (.malformed (complaint number))) := by
  dsimp only
  simp only [readLines_encode]
  refine ⟨exists_readOf_eq_ok_iff, fun p => readOf_eq_ok_iff, fun failure => readOf_eq_error_iff,
    fun other hexchanged => ?_, fun other hpadded complaint number hfirst => ?_⟩
  · have hsame : readOf (linesOf text) = readOf (linesOf other) ∨
        (∃ error, progressOf (linesOf text) = .error error) ∧
          ∃ error, progressOf (linesOf other) = .error error := by
      apply readOf_eq_of_progressOf
      intro progress
      apply iff_of_eqvGen (progressOf · = .ok progress) _ hexchanged
      exact fun _ _ h => h.progressOf_iff
    simp only [exists_progressOf_eq_error_iff, not_forall, exists_prop] at hsame
    exact hsame.imp_left Eq.symm
  · have hfault : FirstTells LineFault (linesOf text) complaint :=
      exists_firstTells_zipIdx_iff.mp ⟨number, hfirst⟩
    have hother : FirstTells LineFault (linesOf other) complaint := by
      apply (iff_of_eqvGen (FirstTells LineFault · complaint) _ hpadded).mp hfault
      exact fun _ _ h => h.firstTells_iff
    obtain ⟨number', hnumber⟩ := exists_firstTells_zipIdx_iff.mpr hother
    exact ⟨number', readOf_eq_error_iff.mpr (.line hnumber)⟩

/-- Lines of both kinds change places, a blank line comes between them, and a word that is no
figure behind one of them. -/
theorem readLines_lastLines_exchanged :
    readLines (Lines.ofBytes (encode "full total=3 new=1\n\nsome total=7\n".toList)) =
      .ok ⟨{ Stall.none with total := .ofMicros 7 },
        .some { Stall.none with total := .ofMicros 3 }⟩ := by
  have hread : readLines (Lines.ofBytes (encode "some total=7\nfull total=3\n".toList)) =
      .ok ⟨{ Stall.none with total := .ofMicros 7 },
        .some { Stall.none with total := .ofMicros 3 }⟩ := by
    rw [Lines.ofBytes_encode]
    rfl
  have hexchanged : Relation.EqvGen Exchanged (linesOf "some total=7\nfull total=3\n".toList)
      (linesOf "full total=3 new=1\n\nsome total=7\n".toList) := by
    have hswap : Exchanged ["some total=7".toList, "full total=3".toList]
        ["full total=3".toList, "some total=7".toList] := .swap [] [] (by decide) (by decide)
    have hforeign : ¬ HasFigure "new=1".toList := by
      rintro (⟨average, h⟩ | h)
      · obtain ⟨value, hcut⟩ := hasKey_iff.mp h
        cases average <;> cases hcut
      · obtain ⟨value, hcut⟩ := hasKey_iff.mp h
        cases hcut
    have hwords : words "full total=3".toList =
        Extent.full.word :: (["total=3".toList] ++ []) := rfl
    have hwords' : words "full total=3 new=1".toList =
        Extent.full.word :: (["total=3".toList] ++ "new=1".toList :: []) := rfl
    have hword : Padded ["full total=3".toList, "some total=7".toList]
        ["full total=3 new=1".toList, "some total=7".toList] :=
      .word [] ["some total=7".toList] hforeign hwords hwords'
    have hblank : Padded ["full total=3 new=1".toList, "some total=7".toList]
        ["full total=3 new=1".toList, [], "some total=7".toList] :=
      .blank ["full total=3 new=1".toList] ["some total=7".toList] rfl
    exact .trans _ _ _ (.rel _ _ hswap)
      (.trans _ _ _ (.rel _ _ (.padded hword)) (.rel _ _ (.padded hblank)))
  obtain ⟨haccepted, -, -, hother, -⟩ :=
    readLines_lastLines "some total=7\nfull total=3\n".toList
  rcases hother _ hexchanged with hsame | ⟨⟨line, hline, hfault⟩, -⟩
  · exact hsame.trans hread
  · exact absurd ((haccepted.mp ⟨_, hread⟩).1 line hline) hfault

end Pressure

end ProcessMeter
