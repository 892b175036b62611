import ProcessMeter.Proofs.FileReads
import ProcessMeter.Proofs.KeyedFiles

/-!
# How the kernel spells what a file holds

For every format of accounting files a relation says which texts the kernel writes for a value. The
numbers behind a value are unsigned numbers of 64 bits, and times are whole numbers of the unit of
the file. The reader of a format undoes its spelling.
-/

namespace ProcessMeter

namespace Text

/-- A line of words with single blanks between them. -/
def printLine (parts : List Text) : Text := join [' '] parts ++ ['\n']

/-- A word has no line feed. -/
theorem IsWord.not_mem_break {t : Text} (h : IsWord t) : '\n' ∉ t :=
  fun hmem => absurd (h.2 _ hmem) (by decide)

/-- Words joined by blanks have no line feed. -/
private theorem not_mem_join {parts : List Text} (h : ∀ part ∈ parts, IsWord part) :
    '\n' ∉ join [' '] parts := by
  induction parts with
  | nil => simp [join]
  | cons part rest ih =>
    obtain ⟨hpart, hrest⟩ := List.forall_mem_cons.mp h
    have hbreak := hpart.not_mem_break
    cases rest with
    | nil => simpa [join] using hbreak
    | cons other more =>
      rw [join_cons_cons]
      simp [hbreak, ih hrest]

/-- A text up to its first line feed is a line. -/
theorem rawLines_append_break {t : Text} (h : '\n' ∉ t) (rest : Text) :
    rawLines (t ++ '\n' :: rest) = (t ++ ['\n']) :: rawLines rest := by
  induction t with
  | nil => simp [rawLines]
  | cons c t ih =>
    obtain ⟨hc, ht⟩ := not_or.mp (mt List.mem_cons.mpr h)
    rw [List.cons_append, rawLines, if_neg (Ne.symm hc), ih ht]
    rfl

/-- A printed line in front of other text is one line of the file. -/
theorem rawLines_printLine_append {parts : List Text} (h : ∀ part ∈ parts, IsWord part)
    (rest : Text) : rawLines (printLine parts ++ rest) = printLine parts :: rawLines rest := by
  rw [printLine, List.append_assoc]
  exact rawLines_append_break (not_mem_join h) rest

/-- A printed line is a file of one line. -/
theorem rawLines_printLine {parts : List Text} (h : ∀ part ∈ parts, IsWord part) :
    rawLines (printLine parts) = [printLine parts] := by
  simpa [rawLines] using rawLines_printLine_append h []

/-- The words of a printed line are read back. -/
theorem words_printLine {parts : List Text} (h : ∀ part ∈ parts, IsWord part) :
    words (printLine parts) = parts := by
  rw [printLine, words_append_cons (by decide)]
  change words (join [' '] parts) ++ [] = parts
  rw [List.append_nil]
  induction parts with
  | nil => rfl
  | cons part rest ih =>
    obtain ⟨hpart, hrest⟩ := List.forall_mem_cons.mp h
    cases rest with
    | nil => simpa [join] using hpart.words_eq
    | cons other more =>
      rw [join_cons_cons, List.singleton_append, words_append_cons (by decide), hpart.words_eq,
        ih hrest]
      rfl

/-- The blanks around a word are cut off, and nothing else. -/
theorem trim_printLine {word : Text} (h : IsWord word) : trim (printLine [word]) = word := by
  have hstart : trimStart (word ++ ['\n']) = word ++ ['\n'] := by
    obtain ⟨c, rest, rfl⟩ := List.exists_cons_of_ne_nil h.1
    have hc : isBlank c = false := h.2 c List.mem_cons_self
    simp [trimStart, hc]
  have hline : printLine [word] = word ++ ['\n'] := by simp [printLine, join]
  rw [hline, trim, hstart, trimEnd, trimEndWhile_concat, if_pos (by decide)]
  exact trimEndWhile_eq_self fun c hc => h.2 c (List.mem_of_getLast? hc)

/-- The word for a figure: its key and its value around an equals sign. -/
def figure (key : String) (value : Text) : Text := key.toList ++ '=' :: value

/-- A key with its value behind an equals sign is one word. -/
theorem isWord_figure {key : String} (hkey : ∀ c ∈ key.toList, Text.isBlank c = false)
    {value : Text} (hvalue : Text.IsWord value) : Text.IsWord (figure key value) := by
  refine ⟨by simp [figure], List.forall_mem_append.mpr ⟨hkey, List.forall_mem_cons.mpr ?_⟩⟩
  exact ⟨by decide, hvalue.2⟩

/-- Such a word is cut into key and value again. -/
theorem cut_figure {key : String} (h : '=' ∉ key.toList) (value : Text) :
    cut '=' (figure key value) = some (key.toList, value) := cut_append_cons h value

/-- Printed lines are cut off one by one. -/
theorem rawLines_flatMap_printLine {ι : Type} {parts : ι → List Text} {items : List ι}
    (h : ∀ item ∈ items, ∀ part ∈ parts item, IsWord part) :
    rawLines (items.flatMap fun item => printLine (parts item)) =
      items.map fun item => printLine (parts item) := by
  induction items with
  | nil => rfl
  | cons item rest ih =>
    obtain ⟨hitem, hrest⟩ := List.forall_mem_cons.mp h
    rw [List.flatMap_cons, rawLines_printLine_append hitem, ih hrest, List.map_cons]

end Text

namespace LineReader

variable {α : Type}

/-- The reader turns every text that spells a value into this value. -/
def Undoes (reader : LineReader α) (spells : Text → α → Prop) : Prop :=
  ∀ {text : Text} {a : α}, spells text a →
    reader (Lines.ofBytes (Text.encode text)) = .ok a

end LineReader

namespace Scalar

/-- A reader of the first line reads a file of one line. -/
private theorem readFirst_printLine {α : Type} {parse : Text → Except StatError α} {a : α}
    {parts : List Text} (hparts : ∀ part ∈ parts, Text.IsWord part)
    (h : parse (Text.printLine parts) = .ok a) :
    readFirst parse (Lines.ofBytes (Text.encode (Text.printLine parts))) = .ok a := by
  simp [readFirst, Lines.ofText, Text.rawLines_printLine hparts, Lines.first, h]

/-- A number on a line of its own. -/
def SpellsNumber (text : Text) (n : Nat) : Prop :=
  n ≤ Numeral.max64 ∧ text = Text.printLine [Numeral.write n]

/-- A number that is spelled out is read back. -/
theorem readNumber_undoes : LineReader.Undoes readNumber SpellsNumber := by
  rintro text n ⟨hn, rfl⟩
  have hword := Numeral.isWord_write n
  refine readFirst_printLine (by simpa using hword) ?_
  rw [Text.trim_printLine hword, number_write 1 hn]

/-- The word for a limit: its number, or `max` for none. -/
def limitWord : Option Nat → Text
  | none => "max".toList
  | some n => Numeral.write n

/-- A limit is spelled by one word. -/
theorem isWord_limitWord (limit : Option Nat) : Text.IsWord (limitWord limit) := by
  cases limit with
  | none => decide
  | some n => exact Numeral.isWord_write n

/-- The word for a limit is read back. -/
theorem limit_limitWord (line : Nat) {value : Option Nat} (h : ∀ n ∈ value, n ≤ Numeral.max64) :
    limit line (limitWord value) = .ok value := by
  cases value with
  | none => rfl
  | some n =>
    have hne : Numeral.write n ≠ "max".toList := fun heq =>
      Numeral.not_mem_write (by decide) n (heq ▸ List.mem_cons_self : 'm' ∈ Numeral.write n)
    rw [limitWord, limit, if_neg hne, number_write line (h n rfl)]
    rfl

/-- A limit on a line of its own. -/
def SpellsLimit (text : Text) (value : Option Nat) : Prop :=
  (∀ n ∈ value, n ≤ Numeral.max64) ∧ text = Text.printLine [limitWord value]

/-- A limit that is spelled out is read back. -/
theorem readLimit_undoes : LineReader.Undoes readLimit SpellsLimit := by
  rintro text value ⟨hvalue, rfl⟩
  have hword := isWord_limitWord value
  refine readFirst_printLine (by simpa using hword) ?_
  rw [Text.trim_printLine hword, limit_limitWord 1 hvalue]

end Scalar

namespace KeyTable

variable {σ : Type}

/-- A file that states the values of known keys, in any order and between any foreign lines. -/
def Spells (table : KeyTable σ) (ofValues : (Text → Option Nat) → σ) (text : Text) (record : σ) :
    Prop :=
  ∃ statements values, table.Lists 1 (Text.rawLines text) statements ∧
    (statements.map Statement.key).Nodup ∧ Assigns statements values ∧ record = ofValues values

/-- A table that decodes a file reads back every record that is spelled in any of the ways it
allows. -/
theorem Decodes.read_undoes {table : KeyTable σ} {fresh : σ}
    {ofValues : (Text → Option Nat) → σ} (h : table.Decodes fresh ofValues) :
    LineReader.Undoes (table.read fresh) (table.Spells ofValues) := by
  rintro text record ⟨statements, values, hlists, honce, hassigns, rfl⟩
  rw [h.read_encode hlists honce, hassigns.outcome_eq]

/-- The statements of keys with their values, a line for each. -/
private def statementsFrom : (number : Nat) → List (Text × Nat) → List Statement
  | _, [] => []
  | number, (key, n) :: rest => ⟨number, key, Numeral.write n⟩ :: statementsFrom (number + 1) rest

/-- Printed pairs of known keys list a statement for each of them. -/
private theorem lists_print {table : KeyTable σ} {pairs : List (Text × Nat)}
    (hkeys : ∀ pair ∈ pairs, pair.1 ∈ table.keys ∧ Text.IsWord pair.1) (number : Nat) :
    table.Lists number
      (Text.rawLines (pairs.flatMap fun pair => Text.printLine [pair.1, Numeral.write pair.2]))
      (statementsFrom number pairs) := by
  induction pairs generalizing number with
  | nil => exact .nil number
  | cons pair rest ih =>
    obtain ⟨⟨hknown, hword⟩, hrest⟩ := List.forall_mem_cons.mp hkeys
    have hvalue := Numeral.isWord_write pair.2
    have hpair : Text.IsPairLine pair.1 (Numeral.write pair.2)
        (Text.printLine [pair.1, Numeral.write pair.2]) := by
      simpa [Text.printLine, Text.join] using
        @Text.IsPairLine.intro pair.1 (Numeral.write pair.2) [] [' '] ['\n'] (by decide) (by decide)
          (by decide) (by decide)
    rw [List.flatMap_cons, Text.rawLines_printLine_append (by simp [hword, hvalue])]
    exact .states hknown hvalue hpair (ih hrest (number + 1))

/-- Printed pairs of different keys assign each key its number. -/
private theorem assigns_print {pairs : List (Text × Nat)}
    (honce : (pairs.map Prod.fst).Nodup) (hfits : ∀ pair ∈ pairs, pair.2 ≤ Numeral.max64)
    (number : Nat) :
    (statementsFrom number pairs).map Statement.key = pairs.map Prod.fst ∧
      ∀ s ∈ statementsFrom number pairs, ∃ n, Numeral.read64 s.value = .ok n ∧
        pairs.lookup s.key = some n := by
  induction pairs generalizing number with
  | nil => simp [statementsFrom]
  | cons pair rest ih =>
    obtain ⟨key, n⟩ := pair
    obtain ⟨hkey, honce⟩ := List.nodup_cons.mp honce
    obtain ⟨hn, hfits⟩ := List.forall_mem_cons.mp hfits
    obtain ⟨hkeys, hvalues⟩ := ih honce hfits (number + 1)
    refine ⟨congrArg (key :: ·) hkeys, List.forall_mem_cons.mpr ⟨⟨n, ?_, by simp⟩, ?_⟩⟩
    · exact Numeral.readUpTo_write hn
    · intro s hs
      obtain ⟨m, hread, hlookup⟩ := hvalues s hs
      refine ⟨m, hread, ?_⟩
      have hne : (s.key == key) = false := by
        refine beq_eq_false_iff_ne.mpr ?_
        rintro rfl
        exact hkey (hkeys ▸ List.mem_map_of_mem hs)
      rw [List.lookup_cons, hne]
      exact hlookup

/-- Every assignment of numbers to known keys is spelled by a line for each key, in any order. -/
theorem spells_print {table : KeyTable σ} (ofValues : (Text → Option Nat) → σ)
    {pairs : List (Text × Nat)} (hkeys : ∀ pair ∈ pairs, pair.1 ∈ table.keys ∧ Text.IsWord pair.1)
    (honce : (pairs.map Prod.fst).Nodup) (hfits : ∀ pair ∈ pairs, pair.2 ≤ Numeral.max64) :
    table.Spells ofValues
      (pairs.flatMap fun pair => Text.printLine [pair.1, Numeral.write pair.2])
      (ofValues fun key => pairs.lookup key) := by
  obtain ⟨hstated, hvalues⟩ := assigns_print honce hfits 1
  refine ⟨statementsFrom 1 pairs, fun key => pairs.lookup key, lists_print hkeys 1, hstated ▸ honce,
    ⟨hvalues, fun key hkey => ?_⟩, rfl⟩
  rw [hstated] at hkey
  refine List.lookup_eq_none_iff.mpr fun pair hpair => ?_
  rw [bne_iff_ne]
  rintro rfl
  exact hkey (List.mem_map_of_mem hpair)

end KeyTable

namespace Unified

/-- The processor statistics of version 2 are read back, -/
theorem CpuStat.readLines_undoes : LineReader.Undoes readLines (table.Spells ofValues) :=
  table_decodes.read_undoes

/-- and so are the memory statistics, -/
theorem MemoryStat.readLines_undoes : LineReader.Undoes readLines (table.Spells ofValues) :=
  table_decodes.read_undoes

/-- and so are the memory events. -/
theorem MemoryEvents.readLines_undoes : LineReader.Undoes readLines (table.Spells ofValues) :=
  table_decodes.read_undoes

/-- A quota or `max`, and a period, in microseconds. -/
def CpuLimit.Spells (text : Text) (limit : CpuLimit) : Prop :=
  ∃ (quota : Option Nat) (period : Nat), (∀ n ∈ quota, n ≤ Numeral.max64) ∧
    period ≤ Numeral.max64 ∧ limit = ⟨quota.map .ofMicros, .ofMicros period⟩ ∧
    text = Text.printLine [Scalar.limitWord quota, Numeral.write period]

/-- The processor limit of version 2 is read back, with a quota and without one. -/
theorem CpuLimit.readLines_undoes : LineReader.Undoes readLines Spells := by
  rintro text limit ⟨quota, period, hquota, hperiod, rfl, rfl⟩
  have hparts : ∀ part ∈ [Scalar.limitWord quota, Numeral.write period], Text.IsWord part := by
    simp [Scalar.isWord_limitWord, Numeral.isWord_write]
  refine Scalar.readFirst_printLine hparts ?_
  simp [readLine, Text.words_printLine hparts, Scalar.limit_limitWord 1 hquota,
    Scalar.number_write 1 hperiod]

end Unified

namespace Legacy

/-- The throttling statistics of version 1 are read back, -/
theorem Throttling.readLines_undoes : LineReader.Undoes readLines (table.Spells ofValues) :=
  table_decodes.read_undoes

/-- and so are the times by mode, in the units of the host, -/
theorem ModeTimes.readLines_undoes (units : HostUnits) :
    LineReader.Undoes (readLines units) ((table units).Spells (ofValues units)) :=
  (table_decodes units).read_undoes

/-- and so are the memory statistics. -/
theorem MemoryStat.readLines_undoes : LineReader.Undoes readLines (table.Spells ofValues) :=
  table_decodes.read_undoes

/-- The word for a quota in microseconds: its number, or `-1` for none. -/
def quotaWord : Option Nat → Text
  | none => "-1".toList
  | some n => Numeral.write n

/-- A quota on a line of its own. -/
def SpellsQuota (text : Text) (quota : Option Duration) : Prop :=
  ∃ micros : Option Nat, (∀ n ∈ micros, n ≤ 0x7FFFFFFFFFFFFFFF) ∧
    quota = micros.map .ofMicros ∧ text = Text.printLine [quotaWord micros]

/-- A number that fits is read back as a signed one. -/
private theorem readSigned64_write {n : Nat} (h : n ≤ 0x7FFFFFFFFFFFFFFF) :
    Numeral.readSigned64 (Numeral.write n) = .ok n := by
  have hminus : '-' ∉ Numeral.write n := Numeral.not_mem_write (by decide) n
  unfold Numeral.readSigned64
  split
  · next hone => simp [hone] at hminus
  · next hsign => simp [hsign] at hminus
  · rw [Numeral.readUpTo_write h]
    rfl

/-- A quota is read as a signed number that stands for its time. -/
theorem exists_readSigned_of_spellsQuota {text : Text} {quota : Option Duration}
    (h : SpellsQuota text quota) :
    ∃ n, Scalar.readSigned (Lines.ofBytes (Text.encode text)) = .ok n ∧ quotaTime n = quota := by
  obtain ⟨micros, hmicros, rfl, rfl⟩ := h
  have hword : Text.IsWord (quotaWord micros) := by
    cases micros with
    | none => decide
    | some n => exact Numeral.isWord_write n
  have hread : ∃ i, Numeral.readSigned64 (quotaWord micros) = .ok i ∧
      quotaTime i = micros.map .ofMicros := by
    cases micros with
    | none => exact ⟨-1, by decide, rfl⟩
    | some n => exact ⟨n, readSigned64_write (hmicros n rfl), by simp [quotaTime]⟩
  obtain ⟨i, hi, htime⟩ := hread
  refine ⟨i, Scalar.readFirst_printLine (by simpa using hword) ?_, htime⟩
  simp only [Text.trim_printLine hword, hi]

/-- The times of the processors in nanoseconds, with a blank behind each. -/
def SpellsProcessorTimes (text : Text) (times : List Duration) : Prop :=
  ∃ nanos : List Nat, (∀ n ∈ nanos, n ≤ Numeral.max64) ∧ times = nanos.map .ofNanos ∧
    text = (nanos.flatMap fun n => Numeral.write n ++ [' ']) ++ ['\n']

/-- The times of the processors are printed as one word each. -/
private theorem words_processorTimes (nanos : List Nat) :
    Text.words ((nanos.flatMap fun n => Numeral.write n ++ [' ']) ++ ['\n']) =
      nanos.map Numeral.write := by
  induction nanos with
  | nil => decide
  | cons n rest ih =>
    rw [List.flatMap_cons, List.append_assoc, List.append_assoc, List.singleton_append,
      Text.words_append_cons (by decide), ih, (Numeral.isWord_write n).words_eq]
    rfl

/-- Numbers that fit are read back one by one. -/
private theorem readNumbers_write {numbers : List Nat} (h : ∀ n ∈ numbers, n ≤ Numeral.max64) :
    readNumbers (numbers.map Numeral.write) = .ok numbers := by
  induction numbers with
  | nil => rfl
  | cons n rest ih =>
    obtain ⟨hn, hrest⟩ := List.forall_mem_cons.mp h
    simp [readNumbers, Scalar.number_write 1 hn, ih hrest, Except.map]

/-- The times of the processors are read back. -/
theorem readProcessorTimes_undoes :
    LineReader.Undoes readProcessorTimes SpellsProcessorTimes := by
  rintro text times ⟨nanos, hnanos, rfl, rfl⟩
  have hbreak : '\n' ∉ nanos.flatMap fun n => Numeral.write n ++ [' '] := by
    simp [(Numeral.isWord_write _).not_mem_break]
  simp [readProcessorTimes, Scalar.readFirst, Lines.ofText, Text.rawLines_append_break hbreak,
    Lines.first, words_processorTimes, readNumbers_write hnanos, Except.map]

end Legacy

namespace Pressure

/-- A line of a kind of waiting. The averages are given by words that are read as these decimals,
the total is in microseconds. -/
def IsStallLine (kind : String) (line : Text) (stall : Stall) : Prop :=
  ∃ (average10 average60 average300 : Text) (total : Nat),
    Text.IsWord average10 ∧ Double.read average10 = .ok stall.average10 ∧
    Text.IsWord average60 ∧ Double.read average60 = .ok stall.average60 ∧
    Text.IsWord average300 ∧ Double.read average300 = .ok stall.average300 ∧
    total ≤ Numeral.max64 ∧ stall.total = .ofMicros total ∧
    line = Text.printLine [
      kind.toList, Text.figure "avg10" average10, Text.figure "avg60" average60,
      Text.figure "avg300" average300, Text.figure "total" (Numeral.write total)]

/-- A line of some waiting, and maybe one of full waiting. -/
def Spells (text : Text) (pressure : Pressure) : Prop :=
  ∃ line, IsStallLine "some" line pressure.some ∧
    match pressure.full with
    | .none => text = line
    | .some full => ∃ more, IsStallLine "full" more full ∧ text = line ++ more

/-- A figure goes where its key belongs. -/
private theorem takeWord_figure (line : Nat) (stall : Stall) {key : String}
    (hkey : '=' ∉ key.toList) (value : Text) :
    takeWord line stall (Text.figure key value) =
      if key = "avg10" then
        (average line key.toList value).map fun x => { stall with average10 := x }
      else if key = "avg60" then
        (average line key.toList value).map fun x => { stall with average60 := x }
      else if key = "avg300" then
        (average line key.toList value).map fun x => { stall with average300 := x }
      else if key = "total" then
        (Scalar.number line value).map fun n => { stall with total := .ofMicros n }
      else .ok stall := by
  simp only [takeWord, Text.cut_figure hkey, String.toList_inj]

/-- A line of a kind of waiting is cut off as a line, and its figures are read back. -/
private theorem IsStallLine.read {kind : String} {line : Text} {stall : Stall}
    (h : IsStallLine kind line stall) (hkind : Text.IsWord kind.toList) :
    (∀ rest, Text.rawLines (line ++ rest) = line :: Text.rawLines rest) ∧
      ∃ figures, Text.words line = kind.toList :: figures ∧
        ∀ number, takeWords number .none figures = .ok stall := by
  obtain ⟨average10, average60, average300, total, hword10, hread10, hword60, hread60, hword300,
    hread300, htotal, hstall, rfl⟩ := h
  have hparts : ∀ part ∈ [kind.toList, Text.figure "avg10" average10, Text.figure "avg60" average60,
      Text.figure "avg300" average300, Text.figure "total" (Numeral.write total)],
      Text.IsWord part := by
    simp only [List.forall_mem_cons]
    exact ⟨hkind, Text.isWord_figure (by decide) hword10, Text.isWord_figure (by decide) hword60,
      Text.isWord_figure (by decide) hword300,
      Text.isWord_figure (by decide) (Numeral.isWord_write total),
      by simp⟩
  refine ⟨Text.rawLines_printLine_append hparts, _, Text.words_printLine hparts, fun number => ?_⟩
  have hkeys : '=' ∉ "avg10".toList ∧ '=' ∉ "avg60".toList ∧ '=' ∉ "avg300".toList ∧
      '=' ∉ "total".toList := by decide
  obtain ⟨h10, h60, h300, hlast⟩ := hkeys
  simp [takeWords, takeWord_figure, h10, h60, h300, hlast, average, hread10, hread60, hread300,
    Scalar.number_write number htotal, Except.map, ← hstall, -String.reduceToList]

/-- The figures of waiting are read back, with and without the line about all tasks. -/
theorem readLines_undoes : LineReader.Undoes readLines Spells := by
  rintro text ⟨stall, full⟩ ⟨line, hline, hfull⟩
  obtain ⟨hraw, figures, hwords, hfigures⟩ := hline.read (by decide)
  cases full with
  | none =>
    obtain rfl : text = line := hfull
    have hlines : Text.rawLines text = [text] := by simpa [Text.rawLines] using hraw []
    simp [readLines, Lines.foldLines, Lines.ofText, hlines, Lines.carry, takeLine, hwords,
      hfigures, Except.map, -String.reduceToList]
  | some full =>
    obtain ⟨more, hmore, rfl⟩ := hfull
    obtain ⟨hrawMore, figuresMore, hwordsMore, hfiguresMore⟩ := hmore.read (by decide)
    have hlines : Text.rawLines (line ++ more) = [line, more] := by
      simpa [Text.rawLines, hraw] using hrawMore []
    have hkind : "full".toList ≠ "some".toList := by decide
    simp [readLines, Lines.foldLines, Lines.ofText, hlines, Lines.carry, takeLine, hwords,
      hwordsMore, hkind, hfigures, hfiguresMore, Except.map, bind, Except.bind, pure, Except.pure,
      -String.reduceToList]

end Pressure

end ProcessMeter
