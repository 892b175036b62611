import ProcessMeter.Proofs.CounterSums
import ProcessMeter.Proofs.EncodedText
import ProcessMeter.Proofs.NetworkRows

/-!
# Which texts are network tables

A network table has rows and blank lines below two headings. The counters of the loopback interface
are checked and left out. A table is refused exactly for a line that is neither blank nor a row, and
otherwise the interfaces on its rows are read, as long as their sums are numbers of 64 bits.
-/

namespace ProcessMeter

open Text

namespace NetworkCounters

variable {number : Nat} {line : Text}

/-- The lines in order: blank ones, and a row for each of the interfaces with its counters. -/
inductive Lists : List Text → List (Text × InterfaceCounters) → Prop where
  | nil : Lists [] []
  | blank {line : Text} {lines : List Text} {rows : List (Text × InterfaceCounters)}
    (blank : IsBlankText line) (rest : Lists lines rows) : Lists (line :: lines) rows
  | row {line name : Text} {counters : InterfaceCounters} {lines : List Text}
    {rows : List (Text × InterfaceCounters)} (row : IsRow line name counters)
    (rest : Lists lines rows) : Lists (line :: lines) ((name, counters) :: rows)

/-- Every interface but the loopback interface. -/
def counted (rows : List (Text × InterfaceCounters)) : List (Text × InterfaceCounters) :=
  rows.filter fun row => row.1 ≠ "lo".toList

/-- Column by column the sum over the interfaces. -/
def sum (rows : List (Text × InterfaceCounters)) : InterfaceCounters :=
  (rows.map Prod.snd).foldl .add .zero

/-- What the rows of a table add up to. -/
def ofRows (rows : List (Text × InterfaceCounters)) : NetworkCounters :=
  ⟨sum (counted rows), .ofList (counted rows)⟩

/-- The rows that count are those in front and those behind. -/
private theorem counted_append (front behind : List (Text × InterfaceCounters)) :
    counted (front ++ behind) = counted front ++ counted behind :=
  List.filter_append ..

/-- Further rows are added to the sum. -/
private theorem sum_append (front behind : List (Text × InterfaceCounters)) :
    sum (front ++ behind) = (behind.map Prod.snd).foldl .add (sum front) := by
  rw [sum, List.map_append, List.foldl_append, sum]

/-- Sums only grow. -/
private theorem fits_of_fits_append {front behind : List (Text × InterfaceCounters)}
    (h : (sum (counted (front ++ behind))).fits = true) : (sum (counted front)).fits = true := by
  rw [counted_append, sum_append] at h
  exact InterfaceCounters.fits_of_fits_foldl h

/-- One more row is taken in if the sum is still a number of 64 bits. -/
private theorem add?_ofRows (rows : List (Text × InterfaceCounters)) (name : Text)
    (counters : InterfaceCounters) (hfits : (sum (counted rows)).fits = true) :
    (ofRows rows).add? name counters =
      if (sum (counted (rows ++ [(name, counters)]))).fits then
        some (ofRows (rows ++ [(name, counters)]))
      else Option.none := by
  by_cases hloopback : name = loopback
  · have hsame : counted (rows ++ [(name, counters)]) = counted rows := by
      have hnone : counted [(name, counters)] = [] := by simp [counted, hloopback, loopback]
      rw [counted_append, hnone, List.append_nil]
    rw [add?, if_pos hloopback, ofRows, hsame, if_pos hfits, ofRows, hsame]
  · have hmore : counted (rows ++ [(name, counters)]) = counted rows ++ [(name, counters)] := by
      have hone : counted [(name, counters)] = [(name, counters)] := by
        simpa [counted, loopback] using hloopback
      rw [counted_append, hone]
    rw [add?, if_neg hloopback, ofRows, ofRows, hmore, sum_append, TextMap.ofList,
      TextMap.ofList, List.foldl_append]
    rfl

/-- A blank line adds nothing. -/
private theorem takeLine_blank (h : IsBlankText line) (counters : NetworkCounters) :
    takeLine number line counters = .ok counters := by
  simp [takeLine, trim_eq_nil_iff.mpr h]

/-- Below the headings every line counts that is not blank. -/
private theorem not_idle (hnumber : 2 < number) (h : ¬ IsBlankText line) :
    ¬ (number ≤ headingLines || (trim line).isEmpty) = true := by
  have hlarge : ¬ number ≤ headingLines := Nat.not_le_of_lt hnumber
  have htrim : trim line ≠ [] := mt trim_eq_nil_iff.mp h
  simp [hlarge, htrim]

/-- A row is added to the rows before it, unless a sum is then out of range. -/
private theorem IsRow.takeLine_eq {name : Text} {counters : InterfaceCounters}
    (h : IsRow line name counters) (hnumber : 2 < number)
    {rows : List (Text × InterfaceCounters)} (hfits : (sum (counted rows)).fits = true) :
    takeLine number line (ofRows rows) =
      if (sum (counted (rows ++ [(name, counters)]))).fits then
        .ok (ofRows (rows ++ [(name, counters)]))
      else .error .overflow := by
  rw [takeLine, if_neg (not_idle hnumber h.not_isBlankText), h.readLine_eq]
  dsimp only
  rw [add?_ofRows rows name counters hfits]
  by_cases hsum : (sum (counted (rows ++ [(name, counters)]))).fits = true
  · rw [if_pos hsum, if_pos hsum]
  · rw [if_neg hsum, if_neg hsum]

/-- A malformed line ends the reading. -/
private theorem IsMalformed.takeLine_eq (h : IsMalformed line) (hblank : ¬ IsBlankText line)
    (hnumber : 2 < number) (counters : NetworkCounters) :
    ∃ failure, takeLine number line counters = .error (.failed failure) := by
  obtain ⟨error, hread⟩ := h.readLine_eq number
  refine ⟨.malformed error, ?_⟩
  rw [takeLine, if_neg (not_idle hnumber hblank), hread]

/-- What the lines from the one with the given number on make of the counters. -/
private def carry (number : Nat) (counters : NetworkCounters) (lines : List Text) :
    Except (Fault ReadFailure) NetworkCounters :=
  Lines.carry (fun failure => .error (.failed (.file failure))) takeLine number counters
    (lines.map .ok)

/-- The lines are taken one after the other. -/
private theorem carry_cons (number : Nat) (counters : NetworkCounters) (line : Text)
    (lines : List Text) : carry number counters (line :: lines) =
      (takeLine number line counters).bind fun counters => carry (number + 1) counters lines :=
  rfl

/-- Below the headings rows are added up one after the other until a sum overflows. The induction is
on the lines; the counters so far are those of the rows seen. -/
private theorem Lists.carry_eq {lines : List Text} {rows : List (Text × InterfaceCounters)}
    (h : Lists lines rows) (behind : List Text) (hnumber : 2 < number)
    {seen : List (Text × InterfaceCounters)} (hfits : (sum (counted seen)).fits = true) :
    carry number (ofRows seen) (lines ++ behind) =
      if (sum (counted (seen ++ rows))).fits then
        carry (number + lines.length) (ofRows (seen ++ rows)) behind
      else .error .overflow := by
  induction h generalizing number seen with
  | nil => simp [hfits]
  | @blank line lines rows hblank _ ih =>
    have hnext := ih (Nat.lt_succ_of_lt hnumber) hfits
    rw [List.cons_append, carry_cons, takeLine_blank hblank, List.length_cons,
      Nat.add_comm lines.length, ← Nat.add_assoc]
    exact hnext
  | @row line name counters lines rows hrow _ ih =>
    have happend : seen ++ (name, counters) :: rows = (seen ++ [(name, counters)]) ++ rows := by
      simp
    rw [List.cons_append, carry_cons, hrow.takeLine_eq hnumber hfits, happend]
    by_cases hsum : (sum (counted (seen ++ [(name, counters)]))).fits = true
    · have hnext := ih (Nat.lt_succ_of_lt hnumber) hsum
      rw [if_pos hsum, List.length_cons, Nat.add_comm lines.length, ← Nat.add_assoc]
      exact hnext
    · have hlarge : ¬ (sum (counted (seen ++ [(name, counters)] ++ rows))).fits = true :=
        mt fits_of_fits_append hsum
      rw [if_neg hsum, if_neg hlarge]
      rfl

/-- The two headings count for nothing. -/
private theorem readLines_encode (text : Text) :
    readLines (Lines.ofBytes (encode text)) = carry 3 (ofRows []) ((rawLines text).drop 2) := by
  have hheading : ∀ number line, number ≤ 2 → takeLine number line none = .ok none := by
    intro number line hnumber
    have hle : number ≤ headingLines := hnumber
    simp [takeLine, hle]
  have hread : readLines (Lines.ofBytes (encode text)) = carry 1 none (rawLines text) := by
    rw [Lines.ofBytes_encode, Lines.ofText, readLines, carry]
  rw [hread]
  rcases rawLines text with _ | ⟨first, _ | ⟨second, lines⟩⟩
  · rfl
  · rw [carry_cons, hheading 1 first (by omega)]
    rfl
  · rw [carry_cons, hheading 1 first (by omega)]
    dsimp only [Except.bind]
    rw [carry_cons, hheading 2 second (by omega)]
    rfl

/-- What the lines below the headings make of a table if they begin with rows. -/
private theorem read_append {text : Text} {front behind : List Text}
    {rows : List (Text × InterfaceCounters)} (hlines : (rawLines text).drop 2 = front ++ behind)
    (h : Lists front rows) :
    readLines (Lines.ofBytes (encode text)) =
      if (sum (counted rows)).fits then carry (3 + front.length) (ofRows rows) behind
      else .error .overflow := by
  have hnone : (sum (counted [])).fits = true := rfl
  rw [readLines_encode, hlines, h.carry_eq behind (by omega) hnone]
  rfl

/-- Lines that list rows give those rows, or an overflow if a sum is out of range. -/
private theorem read_of_lists {text : Text} {rows : List (Text × InterfaceCounters)}
    (h : Lists ((rawLines text).drop 2) rows) :
    readLines (Lines.ofBytes (encode text)) =
      if (sum (counted rows)).fits then .ok (ofRows rows) else .error .overflow :=
  read_append (List.append_nil _).symm h

/-- The first malformed line is reported, unless the rows before it overflow. -/
private theorem read_of_isMalformed {text line : Text} {front behind : List Text}
    {rows : List (Text × InterfaceCounters)}
    (hlines : (rawLines text).drop 2 = front ++ line :: behind) (h : Lists front rows)
    (hblank : ¬ IsBlankText line) (hline : IsMalformed line) :
    ∃ failure, readLines (Lines.ofBytes (encode text)) =
      if (sum (counted rows)).fits then .error (.failed failure) else .error .overflow := by
  have hnumber : 2 < 3 + front.length := by omega
  obtain ⟨failure, htaken⟩ := hline.takeLine_eq hblank hnumber (ofRows rows)
  refine ⟨failure, ?_⟩
  rw [read_append hlines h, carry_cons, htaken]
  rfl

/-- Lines are a table, or there is a first one that is neither blank nor a row. -/
private theorem lists_or (lines : List Text) :
    (∃ rows, Lists lines rows) ∨ ∃ front line behind rows,
      lines = front ++ line :: behind ∧ Lists front rows ∧ ¬ IsBlankText line ∧
        IsMalformed line := by
  induction lines with
  | nil => exact Or.inl ⟨[], .nil⟩
  | cons line lines ih =>
    by_cases hblank : IsBlankText line
    · rcases ih with ⟨rows, hrows⟩ | ⟨front, bad, behind, rows, rfl, hrows, hbad⟩
      · exact Or.inl ⟨rows, .blank hblank hrows⟩
      · exact Or.inr ⟨line :: front, bad, behind, rows, rfl, .blank hblank hrows, hbad⟩
    · rcases row_or_malformed line with ⟨name, counters, hrow⟩ | hbad
      · rcases ih with ⟨rows, hrows⟩ | ⟨front, bad, behind, rows, rfl, hrows, hbad⟩
        · exact Or.inl ⟨_, .row hrow hrows⟩
        · exact Or.inr ⟨line :: front, bad, behind, _, rfl, .row hrow hrows, hbad⟩
      · exact Or.inr ⟨[], line, lines, [], rfl, .nil, hblank, hbad⟩

/-- Among lines that list rows none is malformed. -/
private theorem Lists.not_isMalformed {lines : List Text} {rows : List (Text × InterfaceCounters)}
    (h : Lists lines rows) : ∀ line ∈ lines, ¬ IsBlankText line → ¬ IsMalformed line := by
  induction h with
  | nil => simp
  | blank hblank _ ih =>
    intro line hmem hline
    rcases List.mem_cons.mp hmem with rfl | hmem
    · exact absurd hblank hline
    · exact ih line hmem hline
  | row hrow _ ih =>
    intro line hmem hline hbad
    rcases List.mem_cons.mp hmem with rfl | hmem
    · obtain ⟨error, herror⟩ := hbad.readLine_eq 0
      cases hrow.readLine_eq.symm.trans herror
    · exact ih line hmem hline hbad

/-- The sums over the rows that the lines begin with are numbers of 64 bits. -/
def SumsFit (lines : List Text) : Prop :=
  ∀ front rows, front <+: lines → Lists front rows → (sum (counted rows)).fits = true

/-- Reading a table adds its rows up, fails for a malformed line below rows that can be added up, or
overflows. -/
private theorem read_cases (text : Text) :
    let lines := (rawLines text).drop 2
    let read := readLines (Lines.ofBytes (encode text))
    (∃ rows, Lists lines rows ∧ (sum (counted rows)).fits = true ∧ read = .ok (ofRows rows)) ∨
    (∃ line ∈ lines, ¬ IsBlankText line ∧ IsMalformed line ∧
      ∃ failure, read = .error (.failed failure)) ∨
    (¬ SumsFit lines ∧ read = .error .overflow) := by
  intro lines read
  rcases lists_or lines with
    ⟨rows, hrows⟩ | ⟨front, bad, behind, rows, hlines, hrows, hblank, hbad⟩
  · have hread : read = _ := read_of_lists hrows
    by_cases hfits : (sum (counted rows)).fits = true
    · rw [if_pos hfits] at hread
      exact Or.inl ⟨rows, hrows, hfits, hread⟩
    · rw [if_neg hfits] at hread
      have hlarge : ¬ SumsFit lines := fun h => hfits (h lines rows (List.prefix_refl lines) hrows)
      exact Or.inr (Or.inr ⟨hlarge, hread⟩)
  · obtain ⟨failure, hread⟩ := read_of_isMalformed hlines hrows hblank hbad
    by_cases hfits : (sum (counted rows)).fits = true
    · rw [if_pos hfits] at hread
      have hmem : bad ∈ lines := by simp [hlines]
      exact Or.inr (Or.inl ⟨bad, hmem, hblank, hbad, failure, hread⟩)
    · rw [if_neg hfits] at hread
      have hlarge : ¬ SumsFit lines := fun h => hfits (h front rows ⟨_, hlines.symm⟩ hrows)
      exact Or.inr (Or.inr ⟨hlarge, hread⟩)

/-- A table is read exactly if its lines are blank or rows and the sums are numbers of 64 bits. -/
theorem readLines_eq_ok_iff {text : Text} {counters : NetworkCounters} :
    readLines (Lines.ofBytes (encode text)) = .ok counters ↔
      ∃ rows, Lists ((rawLines text).drop 2) rows ∧ (sum (counted rows)).fits = true ∧
        counters = ofRows rows := by
  constructor
  · intro h
    rcases read_cases text with
      ⟨rows, hrows, hfits, hread⟩ | ⟨_, -, -, -, _, hread⟩ | ⟨-, hread⟩
    · exact ⟨rows, hrows, hfits, Except.ok.inj (h.symm.trans hread)⟩
    · cases h.symm.trans hread
    · cases h.symm.trans hread
  · rintro ⟨rows, hrows, hfits, rfl⟩
    exact (read_of_lists hrows).trans (if_pos hfits)

/-- Where a sum leaves the range, there is an overflow. -/
private theorem read_of_not_sumsFit {text : Text} (h : ¬ SumsFit ((rawLines text).drop 2)) :
    readLines (Lines.ofBytes (encode text)) = .error .overflow := by
  simp only [SumsFit, not_forall] at h
  obtain ⟨front, rows, ⟨behind, hlines⟩, hrows, hlarge⟩ := h
  exact (read_append hlines.symm hrows).trans (if_neg hlarge)

/-- **Network tables.** If the lines below the two headings are blank or rows, and every interface
but the loopback interface has one row, exactly these interfaces are read with their sixteen columns
in order. As long as the sums are numbers of 64 bits, a table is refused exactly for a line that is
not blank and has no colon, a word behind its first colon that is no number of 64 bits, or fewer
than sixteen of them; and reading overflows exactly if a sum is larger. -/
theorem readLines_decodes (text : Text) :
    let lines := (rawLines text).drop 2
    let read := readLines (Lines.ofBytes (encode text))
    (∀ rows, Lists lines rows → TextMap.Distinct (counted rows) →
      (sum (counted rows)).fits = true →
      ∃ counters, read = .ok counters ∧ counters.interfaces.entries.Perm (counted rows)) ∧
    (SumsFit lines → ((∃ failure, read = .error (.failed failure)) ↔
      ∃ line ∈ lines, ¬ IsBlankText line ∧ IsMalformed line)) ∧
    (read = .error .overflow ↔ ¬ SumsFit lines) := by
  intro lines read
  refine ⟨?_, ?_, ?_⟩
  · intro rows hrows hdistinct hfits
    have hread : read = .ok (ofRows rows) := readLines_eq_ok_iff.mpr ⟨rows, hrows, hfits, rfl⟩
    exact ⟨ofRows rows, hread, TextMap.entries_ofList_perm hdistinct⟩
  · intro hsums
    constructor
    · rintro ⟨failure, hfailed⟩
      rcases read_cases text with
        ⟨_, -, -, hread⟩ | ⟨line, hmem, hblank, hbad, -⟩ | ⟨hlarge, -⟩
      · cases hread.symm.trans hfailed
      · exact ⟨line, hmem, hblank, hbad⟩
      · exact absurd hsums hlarge
    · rintro ⟨line, hmem, hblank, hbad⟩
      rcases read_cases text with ⟨rows, hrows, -⟩ | ⟨_, -, -, -, hfailed⟩ | ⟨hlarge, -⟩
      · exact absurd hbad (hrows.not_isMalformed line hmem hblank)
      · exact hfailed
      · exact absurd hsums hlarge
  · constructor
    · intro hoverflow
      rcases read_cases text with ⟨_, -, -, hread⟩ | ⟨_, -, -, -, _, hread⟩ | ⟨hlarge, -⟩
      · cases hread.symm.trans hoverflow
      · cases hread.symm.trans hoverflow
      · exact hlarge
    · exact read_of_not_sumsFit

/-- The lines below the headings: a blank one, an interface with no blank behind the colon and one
column too many, the loopback interface, and an interface with a sign. -/
private def sharedLines : List Text :=
  ["\n".toList, "wlan0:1 2 3 4 5 6 7 8 9 10 11 12 13 14 15 16 17\n".toList,
    "    lo: 1 1 1 1 1 1 1 1 1 1 1 1 1 1 1 1\n".toList,
    "  eth0: 18446744073709551614 0 0 0 0 0 0 0 0 0 0 0 0 0 0 +3".toList]

/-- A row that is one column short. -/
private def shortLine : Text := "    lo: 1 1 1 1 1 1 1 1 1 1 1 1 1 1 1\n".toList

private def headed (lines : List Text) : Text :=
  "Inter-|   Receive\n face |bytes\n".toList ++ lines.flatten

/-- Both interfaces of a table are read, and a table with a short row is refused. -/
theorem readLines_decodes_shared :
    let wlan : Text × InterfaceCounters :=
      ("wlan0".toList, ⟨1, 2, 3, 4, 5, 6, 7, 8, 9, 10, 11, 12, 13, 14, 15, 16⟩)
    let loop : Text × InterfaceCounters :=
      ("lo".toList, ⟨1, 1, 1, 1, 1, 1, 1, 1, 1, 1, 1, 1, 1, 1, 1, 1⟩)
    let eth : Text × InterfaceCounters :=
      ("eth0".toList, ⟨18446744073709551614, 0, 0, 0, 0, 0, 0, 0, 0, 0, 0, 0, 0, 0, 0, 3⟩)
    let read := fun lines => readLines (Lines.ofBytes (encode (headed lines)))
    Lists sharedLines [wlan, loop, eth] ∧ TextMap.Distinct (counted [wlan, loop, eth]) ∧
      (sum (counted [wlan, loop, eth])).fits = true ∧
      (∃ counters, read sharedLines = .ok counters ∧
        counters.interfaces.entries.Perm [wlan, eth]) ∧
      SumsFit [shortLine] ∧ IsMalformed shortLine ∧
      (∃ failure, read [shortLine] = .error (.failed failure)) ∧
      read [shortLine] ≠ .error .overflow := by
  intro wlan loop eth read
  have hshared : (rawLines (headed sharedLines)).drop 2 = sharedLines := by decide +kernel
  have hshort : (rawLines (headed [shortLine])).drop 2 = [shortLine] := by decide +kernel
  obtain ⟨hlisted, -, -⟩ := readLines_decodes (headed sharedLines)
  obtain ⟨-, hrefused, hoverflow⟩ := readLines_decodes (headed [shortLine])
  rw [hshared] at hlisted
  rw [hshort] at hrefused hoverflow
  have hrows : Lists sharedLines [wlan, loop, eth] := by
    refine .blank (by decide) (.row ?_ (.row ?_ (.row ?_ .nil)))
    · exact (readLine_eq_ok_iff 4).mp (by decide +kernel)
    · exact (readLine_eq_ok_iff 5).mp (by decide +kernel)
    · exact (readLine_eq_ok_iff 6).mp (by decide +kernel)
  have hdistinct : TextMap.Distinct (counted [wlan, loop, eth]) := by decide
  have hfits : (sum (counted [wlan, loop, eth])).fits = true := by decide
  have hblank : ¬ IsBlankText shortLine := by decide
  have hbad : IsMalformed shortLine := by
    have hcolon : ':' ∉ "    lo".toList := by decide
    have hfew : (words " 1 1 1 1 1 1 1 1 1 1 1 1 1 1 1\n".toList).length < 16 := by
      decide +kernel
    exact .few hcolon hfew
  have hsmall : read [shortLine] ≠ .error .overflow := by decide +kernel
  have hsums : SumsFit [shortLine] := not_not.mp (mt hoverflow.mpr hsmall)
  have hfailed := (hrefused hsums).mpr ⟨shortLine, List.mem_singleton_self _, hblank, hbad⟩
  exact ⟨hrows, hdistinct, hfits, hlisted _ hrows hdistinct hfits, hsums, hbad, hfailed, hsmall⟩

end NetworkCounters

end ProcessMeter
