import ProcessMeter.Proofs.CoalescedDevices

/-!
# Foreign figures

Between the figures of its devices a line of the `io` controller may have some under other keys.
Where they are numbers of 64 bits they change nothing, wherever on the line they stand. But a value
is read before its key is looked at, so one that is no such number has the whole file refused.
-/

namespace ProcessMeter

open Text Probe

/-- Lines are carried through one after the other. -/
theorem Lines.carry_append {m : Type → Type} [Monad m] [LawfulMonad m] {σ : Type}
    (unreadable : FileFailure → m σ) (step : Nat → Text → σ → m σ) (number : Nat) (state : σ)
    (front : List Text) (behind : Lines) :
    Lines.carry unreadable step number state (front.map .ok ++ behind) =
      Lines.carry unreadable step number state (front.map .ok) >>= fun between =>
        Lines.carry unreadable step (number + front.length) between behind := by
  induction front generalizing number state with
  | nil => simp [Lines.carry]
  | cons line front ih =>
    have hnumber : number + (line :: front).length = number + 1 + front.length := by
      rw [List.length_cons]
      omega
    simp only [List.map_cons, List.cons_append, Lines.carry, bind_assoc, ih, hnumber]

namespace Unified

/-- Words and added ones in one list, both in their order. -/
inductive Interleaves : (words added all : List Text) → Prop where
  /-- No words. -/
  | nil : Interleaves [] [] []
  /-- A word that was there before. -/
  | kept {words added all : List Text} (word : Text) (rest : Interleaves words added all) :
    Interleaves (word :: words) added (word :: all)
  /-- A word that is added. -/
  | added {words added all : List Text} (word : Text) (rest : Interleaves words added all) :
    Interleaves words (word :: added) (word :: all)

/-- The word gives a figure, but not one of a device. -/
def IsForeign (word : Text) : Prop :=
  ∃ key, HasKey key word ∧ ∀ counter : Counter, key ≠ counter.key

/-- The word gives a figure as a number of 64 bits. -/
def IsNumeric (word : Text) : Prop := ∃ key n, GivesFigure word key n

/-- The fault is the complaint about one of the words. -/
def ComplainsAbout (number : Nat) (words : List Text) (fault : Fault ReadFailure) : Prop :=
  ∃ word ∈ words, ∃ error, Offends number word error ∧ fault = .failed (.malformed error)

section Words

variable {word : Text}

/-- Under another key no figure of a device changes. -/
theorem IoDevice.withFigure_foreign {key : Text} (hkey : ∀ counter : Counter, key ≠ counter.key)
    (n : Nat) (figures : IoDevice) : figures.withFigure key n = figures :=
  Counter.of_injective fun counter => Counter.of_withFigure_of_ne (hkey counter) n figures

/-- A foreign word that is a number keeps the figures. -/
theorem IsForeign.keeps {key : Text} {n : Nat} (hword : IsForeign word) (h : GivesFigure word key n)
    (figures : IoDevice) : figures.withFigure key n = figures := by
  obtain ⟨key', ⟨hkey', value', hvalue'⟩, hforeign⟩ := hword
  obtain ⟨hkey, value, hvalue, -⟩ := h
  -- the key of a word ends at its first `=`
  have hcut := cut_append_cons hkey value
  rw [← hvalue, hvalue', cut_append_cons hkey'] at hcut
  obtain rfl : key' = key := congrArg Prod.fst (Option.some.inj hcut)
  exact IoDevice.withFigure_foreign hforeign n figures

/-- Of the words with `=` exactly those offend that give no number. -/
theorem offends_iff_not_isNumeric (number : Nat) (hword : '=' ∈ word) :
    (∃ error, Offends number word error) ↔ ¬ IsNumeric word := by
  constructor
  · rintro ⟨error, herror⟩ ⟨key, n, hgives⟩
    cases (read_of_offends herror).symm.trans (read_of_givesFigure hgives)
  · intro hnot
    rcases read_cases number word with h | h | ⟨device, h⟩ | ⟨h, -⟩
    · exact h
    · exact absurd h hnot
    · exact absurd hword h.1
    · exact absurd hword h

/-- A foreign figure has an equals sign. -/
theorem IsForeign.mem (hword : IsForeign word) : '=' ∈ word := by
  obtain ⟨key, ⟨-, value, rfl⟩, -⟩ := hword
  simp

end Words

section Line

variable {nameOf : BlockDevice → Probe ReadFailure Text} {number : Nat}
  {words added all : List Text} {word : Text}

/-- Where a figure is to come it does not matter whether one was there before. -/
theorem takeWords_of_figures (line : IoLine) (hfigures : ∃ word ∈ words, '=' ∈ word) :
    IoLine.takeWords nameOf number { line with hasFigures := true } words =
      IoLine.takeWords nameOf number line words := by
  induction words generalizing line with
  | nil => simp at hfigures
  | cons word rest ih =>
    rcases read_cases number word with ⟨error, h⟩ | ⟨key, n, h⟩ | ⟨device, h⟩ | ⟨hword, -, h⟩
    · simp only [IoLine.takeWords, read_of_offends h]
    · simp only [IoLine.takeWords, read_of_givesFigure h]
    · have hrest : ∃ word ∈ rest, '=' ∈ word := by simpa [h.1] using hfigures
      simp only [IoLine.takeWords, read_of_listsDevice h]
      exact bind_congr fun name => ih { line with names := line.names ++ [name] } hrest
    · have hrest : ∃ word ∈ rest, '=' ∈ word := by simpa [hword] using hfigures
      simp only [IoLine.takeWords, h]
      exact ih line hrest

/-- Whether there is a figure among the words or was one before them. -/
private def Figured (line : IoLine) (words : List Text) : Prop :=
  line.hasFigures = true ∨ ∃ word ∈ words, '=' ∈ word

/-- Behind a word without an equals sign the line has figures as before. -/
private theorem Figured.tail {line next : IoLine} (h : Figured line (word :: words))
    (hword : '=' ∉ word) (hnext : next.hasFigures = line.hasFigures) : Figured next words := by
  rw [Figured, hnext]
  simpa [Figured, hword] using h

/-- A foreign number in front of the words of a line with figures. -/
private theorem takeWords_foreign {line : IoLine} {key : Text} {n : Nat} (hword : IsForeign word)
    (hgives : GivesFigure word key n) (hfigured : Figured line words) :
    IoLine.takeWords nameOf number
        { line with figures := line.figures.withFigure key n, hasFigures := true } words =
      IoLine.takeWords nameOf number line words := by
  rw [hword.keeps hgives]
  rcases hfigured with hline | hwords
  · rw [← hline]
  · exact takeWords_of_figures line hwords

/-- Foreign numbers between the words of a line with figures. -/
private theorem takeWords_of_isNumeric (h : Interleaves words added all)
    (hforeign : ∀ word ∈ added, IsForeign word) (hnumeric : ∀ word ∈ added, IsNumeric word)
    {line : IoLine} (hfigured : Figured line words) :
    IoLine.takeWords nameOf number line all = IoLine.takeWords nameOf number line words := by
  induction h generalizing line with
  | nil => rfl
  | kept word _ ih =>
    have ih {next : IoLine} := @ih hforeign hnumeric next
    rcases read_cases number word with ⟨error, h⟩ | ⟨key, n, h⟩ | ⟨device, h⟩ | ⟨hword, -, h⟩
    · simp only [IoLine.takeWords, read_of_offends h]
    · simp only [IoLine.takeWords, read_of_givesFigure h]
      exact ih (.inl rfl)
    · simp only [IoLine.takeWords, read_of_listsDevice h]
      exact bind_congr fun name => ih (hfigured.tail h.1 rfl)
    · simp only [IoLine.takeWords, h]
      exact ih (hfigured.tail hword rfl)
  | added word _ ih =>
    obtain ⟨hword, hforeign⟩ := List.forall_mem_cons.mp hforeign
    obtain ⟨⟨key, n, hgives⟩, hnumeric⟩ := List.forall_mem_cons.mp hnumeric
    rw [IoLine.takeWords, read_of_givesFigure hgives]
    exact (ih hforeign hnumeric (.inl rfl)).trans (takeWords_foreign hword hgives hfigured)

/-- One foreign word that is no number, and the words of a line with figures do not get through. -/
private theorem takeWords_of_not_isNumeric {w : World} (h : Interleaves words added all)
    (hforeign : ∀ word ∈ added, IsForeign word) (hbad : ∃ word ∈ added, ¬ IsNumeric word)
    {line : IoLine} (hfigured : Figured line words) :
    ∃ fault, (IoLine.takeWords nameOf number line all).outcome w = .error fault ∧
      ((IoLine.takeWords nameOf number line words).outcome w = .error fault ∨
        ComplainsAbout number added fault) := by
  induction h generalizing line with
  | nil => simp at hbad
  | kept word _ ih =>
    have ih {next : IoLine} := @ih hforeign hbad next
    rcases read_cases number word with ⟨error, h⟩ | ⟨key, n, h⟩ | ⟨device, h⟩ | ⟨hword, -, h⟩
    · simp only [IoLine.takeWords, read_of_offends h]
      exact ⟨_, rfl, .inl rfl⟩
    · simp only [IoLine.takeWords, read_of_givesFigure h]
      exact ih (.inl rfl)
    · simp only [IoLine.takeWords, read_of_listsDevice h, outcome_bind]
      cases (nameOf device).outcome w with
      | error fault => exact ⟨fault, rfl, .inl rfl⟩
      | ok name => exact ih (hfigured.tail h.1 rfl)
    · simp only [IoLine.takeWords, h]
      exact ih (hfigured.tail hword rfl)
  | @added words added all word _ ih =>
    obtain ⟨hword, hforeign⟩ := List.forall_mem_cons.mp hforeign
    by_cases hnumeric : IsNumeric word
    · have hrest : ∃ word ∈ added, ¬ IsNumeric word := by simpa [hnumeric] using hbad
      obtain ⟨key, n, hgives⟩ := hnumeric
      let next : IoLine :=
        { line with figures := line.figures.withFigure key n, hasFigures := true }
      obtain ⟨fault, hfault, hwords⟩ := @ih hforeign hrest next (.inl rfl)
      rw [takeWords_foreign hword hgives hfigured] at hwords
      rw [IoLine.takeWords, read_of_givesFigure hgives]
      refine ⟨fault, hfault, hwords.imp_right ?_⟩
      rintro ⟨other, hother, herror⟩
      exact ⟨other, List.mem_cons_of_mem word hother, herror⟩
    · obtain ⟨error, herror⟩ := (offends_iff_not_isNumeric number hword.mem).mpr hnumeric
      rw [IoLine.takeWords, read_of_offends herror]
      exact ⟨_, rfl, .inr ⟨word, List.mem_cons_self, error, herror, rfl⟩⟩

end Line

section File

variable {nameOf : BlockDevice → Probe ReadFailure Text} {text other line extended : Text}
  {front behind added : List Text}

/-- What is known before a line. -/
private def before (nameOf : BlockDevice → Probe ReadFailure Text) (front : List Text) :
    Probe ReadFailure (TextMap IoDevice) :=
  Lines.carry (fun failure => Probe.fail (.file failure)) (takeIoLine nameOf) 1 .empty
    (front.map .ok)

/-- A file is read up to a line, then the line, and then what is behind it. -/
private theorem readIoLines_eq (htext : rawLines text = front ++ line :: behind) :
    readIoLines nameOf (Lines.ofBytes (encode text)) =
      before nameOf front >>= fun devices =>
        takeIoLine nameOf (1 + front.length) line devices >>= fun devices =>
          Lines.carry (fun failure => Probe.fail (.file failure)) (takeIoLine nameOf)
            (1 + front.length + 1) devices (behind.map .ok) := by
  rw [readIoLines, Lines.ofBytes_encode, Lines.ofText, htext, List.map_append,
    Lines.carry_append, List.map_cons]
  rfl

/-- A file is refused for the line that is refused. -/
private theorem readIoLines_eq_error {w : World} {devices : TextMap IoDevice}
    {fault : Fault ReadFailure} (htext : rawLines text = front ++ line :: behind)
    (hbefore : (before nameOf front).outcome w = .ok devices)
    (hline : (IoLine.takeWords nameOf (1 + front.length) .start (words line)).outcome w =
      .error fault) :
    (readIoLines nameOf (Lines.ofBytes (encode text))).outcome w = .error fault := by
  have htake : (takeIoLine nameOf (1 + front.length) line devices).outcome w = .error fault :=
    outcome_bind_eq_error.mpr (.inl hline)
  rw [readIoLines_eq htext, outcome_bind_of_ok hbefore]
  exact outcome_bind_eq_error.mpr (.inl htake)

/-- **Foreign figures.** Words with figures under other keys are put anywhere into a line with
figures. If all of them are numbers of 64 bits, the file is read as it was. Otherwise it is refused,
and if not as before then for one of these words. -/
theorem readIoLines_foreign (htext : rawLines text = front ++ line :: behind)
    (hother : rawLines other = front ++ extended :: behind)
    (hwords : Interleaves (words line) added (words extended))
    (hforeign : ∀ word ∈ added, IsForeign word) (hfigures : HasFigures line) :
    let read (text : Text) := readIoLines nameOf (Lines.ofBytes (encode text))
    ((∀ word ∈ added, IsNumeric word) → read other = read text) ∧
      ((∃ word ∈ added, ¬ IsNumeric word) → ∀ w, ∃ fault, (read other).outcome w = .error fault ∧
        ((read text).outcome w = .error fault ∨
          ComplainsAbout (1 + front.length) added fault)) := by
  intro read
  constructor
  · intro hnumeric
    have hline : takeIoLine nameOf (1 + front.length) extended =
        takeIoLine nameOf (1 + front.length) line := by
      funext devices
      rw [takeIoLine, takeIoLine, takeWords_of_isNumeric hwords hforeign hnumeric (.inr hfigures)]
    simp only [read, readIoLines_eq htext, readIoLines_eq hother, hline]
  · intro hbad w
    cases hbefore : (before nameOf front).outcome w with
    | error fault =>
      have hrefused {text line : Text} (htext : rawLines text = front ++ line :: behind) :
          (read text).outcome w = .error fault :=
        (congrArg (·.outcome w) (readIoLines_eq htext)).trans
          (outcome_bind_eq_error.mpr (.inl hbefore))
      exact ⟨fault, hrefused hother, .inl (hrefused htext)⟩
    | ok devices =>
      obtain ⟨fault, hfault, hline⟩ :=
        takeWords_of_not_isNumeric hwords hforeign hbad (.inr hfigures : Figured .start _)
      exact ⟨fault, readIoLines_eq_error hother hbefore hfault,
        hline.imp_left (readIoLines_eq_error htext hbefore)⟩

/-- Two controllers have figures on the second line. -/
theorem readIoLines_foreign_cost :
    let text := "7:7\n8:0 rbytes=1 8:1\n".toList
    let other := "7:7\ncost.usage=9 8:0 rbytes=1 depth=3 8:1\n".toList
    let added := ["cost.usage=9".toList, "depth=3".toList]
    let line := "8:0 rbytes=1 8:1\n".toList
    let extended := "cost.usage=9 8:0 rbytes=1 depth=3 8:1\n".toList
    let read (text : Text) :=
      readIoLines DeviceDirectory.absent.name (Lines.ofBytes (encode text))
    rawLines text = ["7:7\n".toList] ++ line :: [] ∧
      rawLines other = ["7:7\n".toList] ++ extended :: [] ∧
      Interleaves (words line) added (words extended) ∧ (∀ word ∈ added, IsForeign word) ∧
      HasFigures line ∧ (∀ word ∈ added, IsNumeric word) ∧ read other = read text := by
  intro text other added line extended read
  have htext : rawLines text = ["7:7\n".toList] ++ line :: [] := by decide
  have hother : rawLines other = ["7:7\n".toList] ++ extended :: [] := by decide
  have hwords : Interleaves (words line) added (words extended) := by
    have hline : words line = ["8:0".toList, "rbytes=1".toList, "8:1".toList] := by decide
    have hextended : words extended = ["cost.usage=9".toList, "8:0".toList, "rbytes=1".toList,
      "depth=3".toList, "8:1".toList] := by decide
    rw [hline, hextended]
    exact .added _ (.kept _ (.kept _ (.added _ (.kept _ .nil))))
  have hcost : '=' ∉ "cost.usage".toList := by decide
  have hdepth : '=' ∉ "depth".toList := by decide
  have hforeign : ∀ word ∈ added, IsForeign word := by
    simp only [added, List.forall_mem_cons]
    refine ⟨⟨_, ⟨hcost, "9".toList, rfl⟩, ?_⟩, ⟨_, ⟨hdepth, "3".toList, rfl⟩, ?_⟩, by simp⟩ <;>
      (intro counter; cases counter <;> decide)
  have hfigures : HasFigures line := by decide
  have hnumeric : ∀ word ∈ added, IsNumeric word := by
    simp only [added, List.forall_mem_cons]
    exact ⟨⟨_, 9, hcost, _, rfl, rfl⟩, ⟨_, 3, hdepth, _, rfl, rfl⟩, by simp⟩
  exact ⟨htext, hother, hwords, hforeign, hfigures, hnumeric,
    (readIoLines_foreign htext hother hwords hforeign hfigures).1 hnumeric⟩

/-- The figure of the other controller is a word, and the file is refused for it. -/
theorem readIoLines_foreign_word :
    let read (text : Text) :=
      (readIoLines DeviceDirectory.absent.name (Lines.ofBytes (encode text))).outcome default
    let line := "8:0 rbytes=1\n".toList
    let extended := "8:0 rbytes=1 depth=max\n".toList
    rawLines line = [line] ∧ rawLines extended = [extended] ∧
      Interleaves (words line) ["depth=max".toList] (words extended) ∧
      IsForeign "depth=max".toList ∧ HasFigures line ∧ (∃ devices, read line = .ok devices) ∧
      read extended = .error (.failed (.malformed
        (.invalidKeyValue "depth".toList "max".toList 1 .invalidDigit))) := by
  intro read line extended
  have hwords : Interleaves (words line) ["depth=max".toList] (words extended) := by
    have hline : words line = ["8:0".toList, "rbytes=1".toList] := by decide
    have hextended : words extended = ["8:0".toList, "rbytes=1".toList, "depth=max".toList] := by
      decide
    rw [hline, hextended]
    exact .kept _ (.kept _ (.added _ .nil))
  have hforeign : IsForeign "depth=max".toList := by
    refine ⟨"depth".toList, ⟨by decide, "max".toList, rfl⟩, fun counter => ?_⟩
    cases counter <;> decide
  have hread : ∃ devices, read line = .ok devices := by
    simp only [read, Lines.ofBytes_encode]
    exact ⟨_, rfl⟩
  have hrefused : read extended = .error (.failed (.malformed
      (.invalidKeyValue "depth".toList "max".toList 1 .invalidDigit))) := by
    simp only [read, Lines.ofBytes_encode]
    rfl
  exact ⟨by decide, by decide, hwords, hforeign, by decide, hread, hrefused⟩

end File

end Unified

end ProcessMeter
