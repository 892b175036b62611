import ProcessMeter.Proofs.NetworkTables

/-!
# Totals of network tables

The total of a network table adds up its rows, while the interfaces are kept by name, and of several
rows for one interface the last one is kept. So the total is the sum over the interfaces together
with the rows that later ones have replaced.
-/

namespace ProcessMeter

open Text

namespace InterfaceCounters

/-- The counter in one of the sixteen columns. -/
def column (i : Fin 16) (s : InterfaceCounters) : Nat := s.columns.get i

variable {s t : InterfaceCounters}

/-- Counters are added column by column. -/
theorem column_add (i : Fin 16) : (s.add t).column i = s.column i + t.column i := by
  calc (s.add t).column i = (List.zipWith (· + ·) s.columns t.columns).get ⟨i, i.isLt⟩ := rfl
    _ = s.column i + t.column i := by
      rw [List.get_eq_getElem, List.getElem_zipWith]
      rfl

/-- Counters that agree in all columns are equal. -/
theorem ext_column (h : ∀ i, s.column i = t.column i) : s = t := by
  have hcolumns : s.columns = t.columns := List.ext_get rfl fun n hn _ => h ⟨n, hn⟩
  have hsame : ofColumns? s.columns = ofColumns? t.columns := congrArg ofColumns? hcolumns
  exact Option.some.inj hsame

/-- The empty counters are zero in each column. -/
theorem column_zero (i : Fin 16) : zero.column i = 0 := by
  revert i
  decide

/-- Counters are all zero exactly if each column is. -/
theorem eq_zero_iff : s = zero ↔ ∀ i, s.column i = 0 := by
  constructor
  · rintro rfl
    exact column_zero
  · intro h
    apply ext_column
    intro i
    rw [h i, column_zero]

end InterfaceCounters

/-- The entries with a later entry for the same name. -/
def superseded {α : Type} : List (Text × α) → List (Text × α)
  | [] => []
  | entry :: rest =>
    if rest.any fun later => later.1 = entry.1 then entry :: superseded rest else superseded rest

/-- Among different names no row is superseded. -/
theorem superseded_of_distinct {α : Type} {entries : List (Text × α)}
    (h : TextMap.Distinct entries) : superseded entries = [] := by
  induction entries with
  | nil => rfl
  | cons entry rest ih =>
    obtain ⟨hnew, hrest⟩ := List.nodup_cons.mp h
    have hlast : ¬ (rest.any fun later => later.1 = entry.1) = true := by
      simpa using hnew
    rw [superseded, if_neg hlast, ih hrest]

/-- What a list adds up to is the sum over its map and over the entries that the map has lost. -/
theorem TextMap.total_ofList {α : Type} (f : α → Nat) (entries : List (Text × α)) :
    (ofList entries).total f + (superseded entries).foldr (fun e sum => f e.2 + sum) 0 =
      entries.foldr (fun e sum => f e.2 + sum) 0 := by
  induction entries with
  | nil => rfl
  | cons entry rest ih =>
    obtain ⟨name, value⟩ := entry
    have hlater : (rest.any fun later => later.1 = name) = true ↔ name ∈ rest.map Prod.fst := by
      simp
    rw [superseded, ofList_cons, List.foldr_cons]
    by_cases hname : name ∈ rest.map Prod.fst
    · rw [if_pos hname, if_pos (hlater.mpr hname), List.foldr_cons]
      omega
    · have hfigure : (ofList rest).figure f name = 0 := by
        have hnone : (ofList rest).get? name = none := get?_ofList_eq_none_iff.mpr hname
        rw [figure, hnone]
        rfl
      have hinsert := total_insert f (ofList rest) name value
      rw [if_neg hname, if_neg (mt hlater.mp hname)]
      dsimp only
      omega

namespace NetworkCounters

open InterfaceCounters

/-- The sum over rows, column by column. -/
private theorem column_sum (i : Fin 16) (rows : List (Text × InterfaceCounters)) :
    (sum rows).column i = rows.foldr (fun row n => row.2.column i + n) 0 := by
  have hfrom : ∀ s : InterfaceCounters, ((rows.map Prod.snd).foldl add s).column i =
      s.column i + rows.foldr (fun row n => row.2.column i + n) 0 := by
    induction rows with
    | nil => exact fun _ => rfl
    | cons row rest ih =>
      intro s
      rw [List.map_cons, List.foldl_cons, ih, column_add, List.foldr_cons, Nat.add_assoc]
  rw [sum, hfrom, column_zero, Nat.zero_add]

/-- Rows add up to nothing exactly if each of them is zero. -/
private theorem sum_eq_zero_iff {rows : List (Text × InterfaceCounters)} :
    sum rows = .zero ↔ ∀ row ∈ rows, row.2 = .zero := by
  have hcolumn : ∀ i, rows.foldr (fun row n => row.2.column i + n) 0 = 0 ↔
      ∀ row ∈ rows, row.2.column i = 0 := by
    intro i
    induction rows with
    | nil => simp
    | cons row rest ih => rw [List.foldr_cons, Nat.add_eq_zero_iff, ih, List.forall_mem_cons]
  rw [eq_zero_iff]
  simp only [column_sum, hcolumn]
  constructor
  · intro h row hrow
    exact eq_zero_iff.mpr fun i => h i row hrow
  · intro h i row hrow
    exact eq_zero_iff.mp (h row hrow) i

/-- **Network totals.** A table that is read consists of blank lines and rows. Each column of the
total adds up the interfaces that are kept and, beyond them, the rows that a later row for the same
interface has replaced. So the total is the sum over the interfaces exactly if every replaced row is
zero, as it is if no interface has two rows. The loopback interface is not kept. -/
theorem readLines_total (text : Text) (counters : NetworkCounters)
    (h : readLines (Lines.ofBytes (encode text)) = .ok counters) :
    ∃ rows, Lists ((rawLines text).drop 2) rows ∧
      (∀ i, counters.total.column i = counters.interfaces.total (column i) +
        (sum (superseded (counted rows))).column i) ∧
      ((∀ i, counters.total.column i = counters.interfaces.total (column i)) ↔
        ∀ row ∈ superseded (counted rows), row.2 = .zero) ∧
      (TextMap.Distinct (counted rows) →
        ∀ i, counters.total.column i = counters.interfaces.total (column i)) ∧
      counters.interfaces.get? "lo".toList = Option.none := by
  obtain ⟨rows, hrows, -, rfl⟩ := readLines_eq_ok_iff.mp h
  have hcolumn : ∀ i, (ofRows rows).total.column i = (ofRows rows).interfaces.total (column i) +
      (sum (superseded (counted rows))).column i := by
    intro i
    rw [ofRows, column_sum, column_sum]
    exact (TextMap.total_ofList (column i) (counted rows)).symm
  have hexact : (∀ i, (ofRows rows).total.column i = (ofRows rows).interfaces.total (column i)) ↔
      ∀ row ∈ superseded (counted rows), row.2 = .zero := by
    rw [← sum_eq_zero_iff, eq_zero_iff]
    apply forall_congr'
    intro i
    have hlost := hcolumn i
    omega
  refine ⟨rows, hrows, hcolumn, hexact, ?_, ?_⟩
  · intro hdistinct
    apply hexact.mpr
    rw [superseded_of_distinct hdistinct]
    intro row hrow
    cases hrow
  · apply TextMap.get?_ofList_eq_none_iff.mpr
    intro hmem
    obtain ⟨row, hrow, hname⟩ := List.mem_map.mp hmem
    have hcounted := (List.mem_filter.mp hrow).2
    simp [hname] at hcounted

/-- A table with two rows for one interface. -/
private def repeatedTable : Text :=
  ("Inter-|   Receive\n face |bytes\n" ++ "eth0: 1 0 0 0 0 0 0 0 0 0 0 0 0 0 0 0\n" ++
    "eth0: 2 0 0 0 0 0 0 0 0 0 0 0 0 0 0 0\n").toList

private def received (octets : Nat) : InterfaceCounters :=
  ⟨octets, 0, 0, 0, 0, 0, 0, 0, 0, 0, 0, 0, 0, 0, 0, 0⟩

/-- The row that is replaced is one of the rows of the table. -/
theorem readLines_total_repeated :
    let counters : NetworkCounters := ⟨received 3, .ofList [("eth0".toList, received 2)]⟩
    readLines (Lines.ofBytes (encode repeatedTable)) = .ok counters ∧
      ∃ rows, Lists ((rawLines repeatedTable).drop 2) rows ∧
        (∀ i, (received 3).column i = counters.interfaces.total (column i) +
          (sum (superseded (counted rows))).column i) ∧
        counters.interfaces.get? "lo".toList = Option.none := by
  intro counters
  have hread : readLines (Lines.ofBytes (encode repeatedTable)) = .ok counters := by
    decide +kernel
  obtain ⟨rows, hrows, hcolumn, -, -, hloopback⟩ := readLines_total repeatedTable counters hread
  exact ⟨hread, rows, hrows, hcolumn, hloopback⟩

/-- Its total has three octets received, and the only interface two. -/
theorem readLines_total_exceeds :
    ∃ counters, readLines (Lines.ofBytes (encode repeatedTable)) = .ok counters ∧
      counters.total.receivedBytes = 3 ∧
      counters.interfaces.total (fun s => s.receivedBytes) = 2 := by
  refine ⟨⟨received 3, .ofList [("eth0".toList, received 2)]⟩, ?_, rfl, ?_⟩
  · decide +kernel
  · decide +kernel

end NetworkCounters

end ProcessMeter
