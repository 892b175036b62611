import Mathlib.Data.List.ReduceOption
import ProcessMeter.Cgroup.Membership
import ProcessMeter.Proofs.EncodedText
import ProcessMeter.Proofs.LexicalPath
import ProcessMeter.Proofs.SpelledFiles

/-!
# Membership files are read back

The kernel prints a line for each hierarchy that a process is in: a number, the controllers, and the
path of the cgroup, with colons between them. The path is the last field, so it may hold anything
but a line feed. A file of such lines is read back, and any text is read if its lines have a number
and two colons. Otherwise the first line that lacks one of these is reported.
-/

namespace ProcessMeter

/-- A text without line feeds is one line. -/
theorem Text.rawLines_eq_self {t : Text} (h : '\n' ∉ t) (hne : t ≠ []) : rawLines t = [t] := by
  induction t with
  | nil => exact absurd rfl hne
  | cons c rest ih =>
    obtain ⟨hc, hrest⟩ := not_or.mp (mt List.mem_cons.mpr h)
    rw [rawLines, if_neg (Ne.symm hc)]
    cases rest with
    | nil => rfl
    | cons d more => rw [ih hrest (by simp)]

namespace Lines

variable {m : Type → Type} [Monad m] [LawfulMonad m] {σ : Type}

/-- A loop that looks neither at line feeds nor at empty lines runs over the pieces between the line
feeds of a text. -/
theorem carry_ofText {unreadable : FileFailure → m σ} {step : Nat → Text → σ → m σ}
    (hbreak : ∀ number line state, '\n' ∉ line →
      step number (line ++ ['\n']) state = step number line state)
    (hempty : ∀ number state, step number [] state = pure state)
    (number : Nat) (state : σ) (text : Text) :
    carry unreadable step number state (ofText text) =
      carry unreadable step number state ((Text.split '\n' text).map .ok) := by
  -- induction over the lines, of which the first one may be the only one
  induction hlength : text.length using Nat.strongRecOn generalizing text number state with
  | ind length ih =>
    by_cases hmem : '\n' ∈ text
    · obtain ⟨line, rest, rfl, hline⟩ := List.eq_append_cons_of_mem hmem
      have hraw : ofText (line ++ '\n' :: rest) = .ok (line ++ ['\n']) :: ofText rest := by
        rw [ofText, Text.rawLines_append_break hline]
        rfl
      have hrest : rest.length < length := by
        rw [← hlength, List.length_append, List.length_cons]
        omega
      rw [hraw, Text.split_append_cons, Text.split_of_not_mem hline, List.singleton_append,
        List.map_cons, carry, carry, hbreak _ _ _ hline]
      exact bind_congr fun next => ih rest.length hrest (number + 1) next rest rfl
    · rw [Text.split_of_not_mem hmem]
      cases text with
      | nil => simp [ofText, Text.rawLines, carry, hempty]
      | cons c rest => rw [ofText, Text.rawLines_eq_self hmem (by simp)]

end Lines

namespace Membership

/-- The line of the entry without its line feed. -/
def print (e : Membership) : Text :=
  Numeral.write e.hierarchy ++ ':' :: (Text.join [','] e.controllers ++ ':' :: e.path)

/-- The text with the given lines, of which `none` is an empty one. There is no line feed behind the
last line, so a text that ends in a line feed has an empty last line. -/
def printLines (lines : List (Option Membership)) : Text :=
  Text.join ['\n'] (lines.map fun line => line.elim [] print)

/-- An entry that can be told from its line. -/
structure IsPrintable (e : Membership) : Prop where
  /-- The hierarchy has a number of 64 bits. -/
  hierarchy_le : e.hierarchy ≤ Numeral.max64
  /-- The controllers have names. -/
  named : [] ∉ e.controllers
  /-- The names hold nothing that ends them. -/
  separate : ∀ controller ∈ e.controllers, ':' ∉ controller ∧ ',' ∉ controller ∧ '\n' ∉ controller
  /-- The path is on one line. -/
  oneLine : '\n' ∉ e.path

/-- What stands before the first colon of a line. -/
def front (line : Text) : Text := line.takeWhile (· ≠ ':')

/-- The line has at least two colons, and a number of 64 bits before the first one. -/
def IsEntry (line : Text) : Prop := 2 ≤ line.count ':' ∧ ∃ n, Numeral.read64 (front line) = .ok n

/-- What is wrong with the line of the given number. -/
inductive Refused (number : Nat) (line : Text) : StatError → Prop where
  /-- It has fewer than two colons. -/
  | shape (few : line.count ':' < 2) : Refused number line (.unexpectedFormat line number)
  /-- It has two colons, but no number before the first one. -/
  | hierarchy {cause : NumeralError} (enough : 2 ≤ line.count ':')
    (noNumber : Numeral.read64 (front line) = .error cause) :
    Refused number line (.invalidValue (front line) number cause)

/-- The complaint is about the first line that is neither empty nor an entry. -/
def FirstRefused (number : Nat) (lines : List Text) (error : StatError) : Prop :=
  ∃ earlier line later, lines = earlier ++ line :: later ∧
    (∀ fine ∈ earlier, fine = [] ∨ IsEntry fine) ∧ line ≠ [] ∧
    Refused (number + earlier.length) line error

/-- The line says what the entry holds. -/
def IsLineOf (line : Text) (e : Membership) : Prop :=
  ∃ hierarchy controllers, line = hierarchy ++ ':' :: (controllers ++ ':' :: e.path) ∧
    ':' ∉ hierarchy ∧ ':' ∉ controllers ∧ Numeral.read64 hierarchy = .ok e.hierarchy ∧
    e.controllers = Text.items ',' controllers

/-- The lines that are not empty say in order what the entries hold. -/
inductive AreLinesOf : List Text → List Membership → Prop where
  /-- No lines. -/
  | nil : AreLinesOf [] []
  /-- An empty line says nothing. -/
  | empty {lines : List Text} {entries : List Membership} (rest : AreLinesOf lines entries) :
    AreLinesOf ([] :: lines) entries
  /-- A line for the next entry. -/
  | entry {line : Text} {e : Membership} {lines : List Text} {entries : List Membership}
    (first : IsLineOf line e) (rest : AreLinesOf lines entries) :
    AreLinesOf (line :: lines) (e :: entries)

section Line

variable {number : Nat} {line : Text} {e : Membership} {error : StatError}

/-- A line with an entry is not empty. -/
theorem IsLineOf.ne_nil (h : IsLineOf line e) : line ≠ [] := by
  obtain ⟨hierarchy, controllers, rfl, -⟩ := h
  simp

/-- What stands before the first colon is the number of the hierarchy. -/
private theorem front_append {hierarchy : Text} (h : ':' ∉ hierarchy) (rest : Text) :
    front (hierarchy ++ ':' :: rest) = hierarchy := by
  have hcut := (Text.cut_eq ':' (hierarchy ++ ':' :: rest)).symm.trans
    (Text.cut_append_cons h rest)
  rw [if_pos (by simp)] at hcut
  exact congrArg Prod.fst (Option.some.inj hcut)

/-- A line of three fields is cut at its first two colons. -/
private theorem fields?_append {hierarchy controllers : Text} (hhierarchy : ':' ∉ hierarchy)
    (hcontrollers : ':' ∉ controllers) (path : Text) :
    fields? (hierarchy ++ ':' :: (controllers ++ ':' :: path)) =
      some (hierarchy, controllers, path) := by
  simp only [fields?, Text.cut_append_cons hhierarchy, Text.cut_append_cons hcontrollers,
    Option.map_some]

/-- Two colons leave three fields. -/
private theorem exists_fields (h : 2 ≤ line.count ':') :
    ∃ hierarchy controllers path, line = hierarchy ++ ':' :: (controllers ++ ':' :: path) ∧
      ':' ∉ hierarchy ∧ ':' ∉ controllers := by
  have hfirst : ':' ∈ line := List.count_pos_iff.mp (by omega)
  obtain ⟨hierarchy, rest, rfl, hhierarchy⟩ := List.eq_append_cons_of_mem hfirst
  rw [List.count_append, List.count_eq_zero.mpr hhierarchy, List.count_cons_self] at h
  have hsecond : ':' ∈ rest := List.count_pos_iff.mp (by omega)
  obtain ⟨controllers, path, rfl, hcontrollers⟩ := List.eq_append_cons_of_mem hsecond
  exact ⟨hierarchy, controllers, path, rfl, hhierarchy, hcontrollers⟩

/-- Three fields have two colons between them. -/
private theorem two_le_count (hierarchy controllers path : Text) :
    2 ≤ (hierarchy ++ ':' :: (controllers ++ ':' :: path)).count ':' := by
  simp only [List.count_append, List.count_cons_self]
  omega

/-- With fewer than two colons there are no three fields. -/
private theorem fields?_of_few (h : line.count ':' < 2) : fields? line = none := by
  unfold fields?
  split
  · rfl
  · next hierarchy rest hcut =>
    obtain ⟨rfl, -⟩ := Text.cut_eq_some_iff.mp hcut
    rw [List.count_append, List.count_cons_self] at h
    have hnone : ':' ∉ rest := List.count_eq_zero.mp (by omega)
    rw [Text.cut_eq_none_iff.mpr hnone, Option.map_none]

/-- A line is read as the entry that it says. -/
theorem IsLineOf.read (h : IsLineOf line e) (number : Nat) : readLine number line = .ok e := by
  obtain ⟨hierarchy, controllers, rfl, hhierarchy, hcontrollers, hnumber, hitems⟩ := h
  rw [readLine, fields?_append hhierarchy hcontrollers]
  dsimp only
  rw [Scalar.number, hnumber]
  dsimp only
  rw [← hitems]

/-- It is refused for what is wrong with it. -/
theorem Refused.read (h : Refused number line error) : readLine number line = .error error := by
  cases h with
  | shape few => rw [readLine, fields?_of_few few]
  | hierarchy enough noNumber =>
    obtain ⟨hierarchy, controllers, path, rfl, hhierarchy, hcontrollers⟩ := exists_fields enough
    rw [front_append hhierarchy] at noNumber ⊢
    rw [readLine, fields?_append hhierarchy hcontrollers]
    dsimp only
    rw [Scalar.number, noNumber]

/-- A line says an entry, or something is wrong with it. -/
theorem line_cases (number : Nat) (line : Text) :
    (∃ e, IsLineOf line e) ∨ ∃ error, Refused number line error := by
  by_cases hfew : line.count ':' < 2
  · exact .inr ⟨_, .shape hfew⟩
  · have henough : 2 ≤ line.count ':' := Nat.le_of_not_lt hfew
    cases hnumber : Numeral.read64 (front line) with
    | error cause => exact .inr ⟨_, .hierarchy henough hnumber⟩
    | ok n =>
      obtain ⟨hierarchy, controllers, path, rfl, hhierarchy, hcontrollers⟩ := exists_fields henough
      rw [front_append hhierarchy] at hnumber
      exact .inl ⟨⟨n, Text.items ',' controllers, path⟩, hierarchy, controllers, rfl, hhierarchy,
        hcontrollers, hnumber, rfl⟩

/-- A line of an entry has the shape of an entry. -/
theorem IsLineOf.isEntry (h : IsLineOf line e) : IsEntry line := by
  obtain ⟨hierarchy, controllers, rfl, hhierarchy, -, hnumber, -⟩ := h
  refine ⟨two_le_count _ _ _, e.hierarchy, ?_⟩
  rw [front_append hhierarchy, hnumber]

/-- What is wrong with a line keeps it from being an entry. -/
theorem Refused.not_isEntry (h : Refused number line error) : ¬ IsEntry line := by
  rintro ⟨henough, n, hn⟩
  cases h with
  | shape few => omega
  | hierarchy _ noNumber => cases hn.symm.trans noNumber

/-- Without its line feed a line is taken in as it is. -/
private theorem trimEndWhile_break (h : '\n' ∉ line) :
    Text.trimEndWhile (· == '\n') line = line ∧
      Text.trimEndWhile (· == '\n') (line ++ ['\n']) = line := by
  have hself : Text.trimEndWhile (· == '\n') line = line := by
    refine Text.trimEndWhile_eq_self fun c hc => ?_
    rw [beq_eq_false_iff_ne]
    rintro rfl
    exact h (List.mem_of_getLast? hc)
  refine ⟨hself, ?_⟩
  rw [Text.trimEndWhile_concat, if_pos (by simp), hself]

end Line

section File

variable {number : Nat} {line : Text} {e : Membership} {found entries : List Membership}
  {lines : List Text} {error : StatError}

/-- One turn of the loop over the lines of a file. -/
private def turn (number : Nat) (line : Text) (found : List Membership) :
    Except ReadFailure (List Membership) :=
  (takeLine number line found).mapError .malformed

/-- A line feed at the end of a line makes no difference. -/
private theorem turn_break (h : '\n' ∉ line) :
    turn number (line ++ ['\n']) found = turn number line found := by
  obtain ⟨hself, hbreak⟩ := trimEndWhile_break h
  simp only [turn, takeLine, hself, hbreak]

/-- A line of an entry adds that entry. -/
private theorem IsLineOf.turn_eq (h : IsLineOf line e) (hbreak : '\n' ∉ line) :
    turn number line found = .ok (found ++ [e]) := by
  have hempty : line.isEmpty = false := by simpa using h.ne_nil
  simp [turn, takeLine, (trimEndWhile_break hbreak).1, hempty, h.read, Except.mapError]

/-- A line that is refused ends the reading with its complaint. -/
private theorem Refused.turn_eq (h : Refused number line error) (hne : line ≠ [])
    (hbreak : '\n' ∉ line) : turn number line found = .error (.malformed error) := by
  have hempty : line.isEmpty = false := by simpa using hne
  simp [turn, takeLine, (trimEndWhile_break hbreak).1, hempty, h.read, Except.mapError]

/-- The loop over the lines of a file. -/
private def loop (number : Nat) (found : List Membership) (lines : List Text) :
    Except ReadFailure (List Membership) :=
  Lines.carry (fun failure => .error (.file failure)) turn number found (lines.map .ok)

/-- The file is read by going through its lines, counted from one. -/
private theorem readAll_eq_loop (text : Text) :
    readAll (Lines.ofBytes (Text.encode text)) = loop 1 [] (Text.split '\n' text) := by
  rw [Lines.ofBytes_encode, readAll, Lines.foldLines_eq_carry]
  exact Lines.carry_ofText (fun _ _ _ h => turn_break h) (fun _ _ => rfl) 1 [] text

/-- After a line that is taken the next one follows. -/
private theorem loop_cons_of_ok {next : List Membership} (h : turn number line found = .ok next) :
    loop number found (line :: lines) = loop (number + 1) next lines := by
  rw [loop, List.map_cons, Lines.carry, h]
  rfl

/-- After a line that is refused none follows. -/
private theorem loop_cons_of_error {failure : ReadFailure}
    (h : turn number line found = .error failure) :
    loop number found (line :: lines) = .error failure := by
  rw [loop, List.map_cons, Lines.carry, h]
  rfl

/-- Entries are collected in the order of their lines. -/
private theorem loop_of_areLinesOf (h : AreLinesOf lines entries)
    (hbreak : ∀ line ∈ lines, '\n' ∉ line) : loop number found lines = .ok (found ++ entries) := by
  induction h generalizing number found with
  | nil =>
    rw [List.append_nil]
    rfl
  | empty rest ih =>
    rw [loop_cons_of_ok rfl]
    exact ih (List.forall_mem_cons.mp hbreak).2
  | entry first rest ih =>
    obtain ⟨hline, hlines⟩ := List.forall_mem_cons.mp hbreak
    rw [loop_cons_of_ok (first.turn_eq hline), ih hlines, List.append_assoc,
      List.singleton_append]

/-- What stands behind lines that are fine is reported as if it stood at the beginning. -/
private theorem firstRefused_cons (hfine : line = [] ∨ IsEntry line)
    (h : FirstRefused (number + 1) lines error) : FirstRefused number (line :: lines) error := by
  obtain ⟨earlier, culprit, later, rfl, hearlier, hne, hrefused⟩ := h
  refine ⟨line :: earlier, culprit, later, rfl, List.forall_mem_cons.mpr ⟨hfine, hearlier⟩, hne, ?_⟩
  rwa [List.length_cons, show number + (earlier.length + 1) = number + 1 + earlier.length by omega]

/-- Lines are those of some entries, or one of them is the first to be refused. -/
private theorem lines_cases (number : Nat) (lines : List Text) :
    (∃ entries, AreLinesOf lines entries) ∨ ∃ error, FirstRefused number lines error := by
  induction lines generalizing number with
  | nil => exact .inl ⟨[], .nil⟩
  | cons line rest ih =>
    by_cases hempty : line = []
    · subst hempty
      exact (ih (number + 1)).imp (fun ⟨entries, h⟩ => ⟨entries, .empty h⟩)
        fun ⟨error, h⟩ => ⟨error, firstRefused_cons (.inl rfl) h⟩
    · rcases line_cases number line with ⟨e, he⟩ | ⟨error, hrefused⟩
      · exact (ih (number + 1)).imp (fun ⟨entries, h⟩ => ⟨e :: entries, .entry he h⟩)
          fun ⟨error, h⟩ => ⟨error, firstRefused_cons (.inr he.isEntry) h⟩
      · exact .inr ⟨error, [], line, rest, rfl, by simp, hempty, hrefused⟩

/-- The loop stops at the first line that is refused. -/
private theorem loop_of_firstRefused (h : FirstRefused number lines error)
    (hbreak : ∀ line ∈ lines, '\n' ∉ line) :
    loop number found lines = .error (.malformed error) := by
  obtain ⟨earlier, line, later, rfl, hearlier, hne, hrefused⟩ := h
  induction earlier generalizing number found with
  | nil => exact loop_cons_of_error (hrefused.turn_eq hne (hbreak line (by simp)))
  | cons first earlier ih =>
    obtain ⟨hfirst, hrest⟩ := List.forall_mem_cons.mp hearlier
    rw [List.cons_append] at hbreak ⊢
    obtain ⟨hline, hlines⟩ := List.forall_mem_cons.mp hbreak
    rw [List.length_cons, show number + (earlier.length + 1) = number + 1 + earlier.length by omega]
      at hrefused
    rcases hfirst with rfl | hentry
    · rw [loop_cons_of_ok rfl]
      exact ih hlines hrest hrefused
    · obtain ⟨e, he⟩ := (line_cases number first).resolve_right
        fun ⟨_, hwrong⟩ => hwrong.not_isEntry hentry
      rw [loop_cons_of_ok (he.turn_eq hline)]
      exact ih hlines hrest hrefused

/-- The line that is refused is no entry. -/
theorem FirstRefused.exists_not_isEntry (h : FirstRefused number lines error) :
    ¬ ∀ line ∈ lines, line = [] ∨ IsEntry line := by
  obtain ⟨earlier, line, later, rfl, -, hne, hrefused⟩ := h
  intro hfine
  exact (hfine line (by simp)).elim hne hrefused.not_isEntry

/-- Lines of entries are empty or have the shape of an entry. -/
theorem AreLinesOf.forall_isEntry (h : AreLinesOf lines entries) :
    ∀ line ∈ lines, line = [] ∨ IsEntry line := by
  induction h with
  | nil => simp
  | empty rest ih => exact List.forall_mem_cons.mpr ⟨.inl rfl, ih⟩
  | entry first rest ih => exact List.forall_mem_cons.mpr ⟨.inr first.isEntry, ih⟩

end File

section Printed

variable {e : Membership} {lines : List (Option Membership)}

/-- Names joined by commas have no character that is in none of them. -/
private theorem join_comma_not_mem {c : Char} (hc : c ≠ ',') {names : List Text}
    (h : ∀ name ∈ names, c ∉ name) : c ∉ Text.join [','] names := by
  induction names with
  | nil => simp [Text.join]
  | cons name rest ih =>
    obtain ⟨hname, hrest⟩ := List.forall_mem_cons.mp h
    cases rest with
    | nil => simpa [Text.join] using hname
    | cons other more =>
      rw [Text.join_cons_cons]
      simp [hname, hc, ih hrest]

/-- An entry that can be printed is read from its line. -/
private theorem IsPrintable.isLineOf_print (h : e.IsPrintable) : IsLineOf e.print e := by
  have hcolon := join_comma_not_mem (c := ':') (by decide) fun name hname =>
    (h.separate name hname).1
  refine ⟨_, _, rfl, Numeral.not_mem_write (by decide) _, hcolon, ?_, ?_⟩
  · exact Numeral.readUpTo_write h.hierarchy_le
  · exact (Text.items_join h.named fun name hname => (h.separate name hname).2.1).symm

/-- Its line has no line feed. -/
private theorem IsPrintable.break_not_mem_print (h : e.IsPrintable) : '\n' ∉ e.print := by
  have hnumber : '\n' ∉ Numeral.write e.hierarchy := Numeral.not_mem_write (by decide) _
  have hcontrollers := join_comma_not_mem (c := '\n') (by decide) fun name hname =>
    (h.separate name hname).2.2
  simp [print, hnumber, hcontrollers, h.oneLine]

/-- Neither has any line of a printed file. -/
private theorem break_not_mem_printLine (h : ∀ e ∈ lines.reduceOption, e.IsPrintable) :
    ∀ line ∈ lines.map fun line => line.elim [] print, '\n' ∉ line := by
  intro line hline
  obtain ⟨_ | e, hmem, rfl⟩ := List.mem_map.mp hline
  · exact List.not_mem_nil
  · exact (h e (List.reduceOption_mem_iff.mpr hmem)).break_not_mem_print

/-- The printed lines, empty ones among them, are lines of the entries. -/
private theorem areLinesOf_print (h : ∀ e ∈ lines.reduceOption, e.IsPrintable) :
    AreLinesOf (lines.map fun line => line.elim [] print) lines.reduceOption := by
  induction lines with
  | nil => exact .nil
  | cons line rest ih =>
    cases line with
    | none => exact .empty (ih (by simpa using h))
    | some e =>
      rw [List.reduceOption_cons_of_some] at h ⊢
      obtain ⟨he, hrest⟩ := List.forall_mem_cons.mp h
      exact .entry he.isLineOf_print (ih hrest)

end Printed

/-- **Membership files.** A file that holds the lines of entries, with any empty lines between them,
is read as these entries in their order. Any text is read exactly if each of its lines is empty or
has two colons and a number before the first one, and otherwise the complaint is about the first
line that has not. -/
theorem readAll_undoes_print :
    (∀ lines : List (Option Membership), (∀ e ∈ lines.reduceOption, e.IsPrintable) →
      readAll (Lines.ofBytes (Text.encode (printLines lines))) = .ok lines.reduceOption) ∧
    ∀ text : Text,
      ((∃ entries, readAll (Lines.ofBytes (Text.encode text)) = .ok entries) ↔
        ∀ line ∈ Text.split '\n' text, line = [] ∨ IsEntry line) ∧
      ∀ failure, readAll (Lines.ofBytes (Text.encode text)) = .error failure ↔
        ∃ error, failure = .malformed error ∧ FirstRefused 1 (Text.split '\n' text) error := by
  refine ⟨fun lines hlines => ?_, fun text => ?_⟩
  · rw [readAll_eq_loop]
    by_cases hne : lines = []
    · rw [hne]
      rfl
    · have hbreak := break_not_mem_printLine hlines
      rw [printLines, Text.split_join (by simpa using hne) hbreak]
      exact loop_of_areLinesOf (areLinesOf_print hlines) hbreak
  · have hbreak : ∀ line ∈ Text.split '\n' text, '\n' ∉ line := fun line =>
      Text.not_mem_of_mem_split
    rw [readAll_eq_loop]
    rcases lines_cases 1 (Text.split '\n' text) with ⟨entries, hentries⟩ | ⟨error, herror⟩
    · have hread : loop 1 [] (Text.split '\n' text) = .ok ([] ++ entries) :=
        loop_of_areLinesOf hentries hbreak
      have hfine := hentries.forall_isEntry
      refine ⟨iff_of_true ⟨_, hread⟩ hfine, fun failure => iff_of_false (by simp [hread]) ?_⟩
      rintro ⟨error, -, hrefused⟩
      exact hrefused.exists_not_isEntry hfine
    · have hread : loop 1 [] (Text.split '\n' text) = .error (.malformed error) :=
        loop_of_firstRefused herror hbreak
      refine ⟨iff_of_false (by simp [hread]) herror.exists_not_isEntry, fun failure => ?_⟩
      rw [hread]
      constructor
      · intro h
        exact ⟨error, (Except.error.inj h).symm, herror⟩
      · rintro ⟨other, rfl, hother⟩
        exact hread.symm.trans (loop_of_firstRefused hother hbreak)

/-- Two hierarchies with an empty line between them, without a line feed at the end; the second path
holds colons, a blank and a carriage return. -/
theorem readAll_undoes_print_colons :
    let lines : List (Option Membership) :=
      [some ⟨4, ["cpu".toList, "cpuacct".toList], []⟩, none, some ⟨0, [], "/a:b c\r".toList⟩]
    (∀ e ∈ lines.reduceOption, e.IsPrintable) ∧
      printLines lines = "4:cpu,cpuacct:\n\n0::/a:b c\r".toList ∧
      readAll (Lines.ofBytes (Text.encode (printLines lines))) = .ok lines.reduceOption := by
  intro lines
  have hprintable : ∀ e ∈ lines.reduceOption, e.IsPrintable := by
    intro e he
    have hcases : e = ⟨4, ["cpu".toList, "cpuacct".toList], []⟩ ∨
        e = ⟨0, [], "/a:b c\r".toList⟩ := by
      simpa [lines, List.reduceOption] using he
    rcases hcases with rfl | rfl
    · exact ⟨by decide, by decide, by decide, by decide⟩
    · exact ⟨by decide, by decide, by decide, by decide⟩
  exact ⟨hprintable, by decide, readAll_undoes_print.1 lines hprintable⟩

end Membership

end ProcessMeter
