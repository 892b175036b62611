import ProcessMeter.Proofs.CoalescedDevices
import ProcessMeter.Proofs.FileReads
import ProcessMeter.Proofs.StateGrammar

/-!
# Throttle files

A throttle file of version 1 has lines with three words: a block device, an operation and a figure.
Devices go by names, and of several figures for one operation of a name the last one counts. Grand
totals and other operations than the three that are asked for give no figures. This file says what
the columns of an accepted file hold.
-/

namespace ProcessMeter

open Text Probe

section Last

variable {α : Type} {gives : α → Nat → Prop} {start m n : Nat} {x : α} {xs : List α}

/-- The figure that elements leave where it was `start` before them: the one that the last element
with a figure gives. -/
inductive LastFigure (gives : α → Nat → Prop) (xs : List α) (start : Nat) : Nat → Prop where
  /-- No element gives a figure. -/
  | kept (none : ∀ x ∈ xs, ∀ n, ¬ gives x n) : LastFigure gives xs start start
  /-- The last element that gives a figure gives this one. -/
  | given {x : α} {n : Nat} (last : IsLast (fun x => ∃ n, gives x n) xs x) (figure : gives x n) :
    LastFigure gives xs start n

namespace LastFigure

/-- The last element with a figure tells the figure. -/
theorem iff_lastTells :
    LastFigure gives xs start n ↔ LastTells (fun x => ∃ n, gives x n) gives xs start n := by
  constructor
  · intro h
    cases h with
    | kept hnone => exact .usual fun x hx => not_exists.mpr (hnone x hx)
    | given hlast hfigure => exact .told hlast hfigure
  · intro h
    cases h with
    | usual hnone => exact .kept fun x hx => not_exists.mp (hnone x hx)
    | told hlast hfigure => exact .given hlast hfigure

/-- If each element gives one figure at most, so do all of them together. -/
theorem unique (hgives : ∀ x m n, gives x m → gives x n → m = n)
    (hm : LastFigure gives xs start m) (hn : LastFigure gives xs start n) : m = n :=
  (iff_lastTells.mp hm).unique hgives (iff_lastTells.mp hn)

/-- An element without a figure does not matter. -/
theorem cons_of_none (hx : ∀ n, ¬ gives x n) (h : LastFigure gives xs start n) :
    LastFigure gives (x :: xs) start n :=
  iff_lastTells.mpr ((iff_lastTells.mp h).cons_of_not (not_exists.mpr hx))

/-- An element gives the figure that those behind it start from. -/
theorem cons_of_gives (hx : gives x m) (h : LastFigure gives xs m n) :
    LastFigure gives (x :: xs) start n :=
  iff_lastTells.mpr ((iff_lastTells.mp h).cons_of_tells ⟨m, hx⟩ hx)

/-- Elements that are left out without losing a figure do not matter. -/
theorem filter_iff {q : α → Prop} [DecidablePred q] (hq : ∀ x n, gives x n → q x) :
    LastFigure gives (xs.filter q) start n ↔ LastFigure gives xs start n := by
  have hgives : ∀ x, (∃ n, gives x n) → q x := fun x ⟨n, hx⟩ => hq x n hx
  rw [iff_lastTells, iff_lastTells, LastTells.filter_iff hgives]

end LastFigure

end Last

/-- The token is a device: two numbers of 32 bits around its first colon. -/
def BlockDevice.Denotes (token : Text) (device : BlockDevice) : Prop :=
  device.token = token ∧ ∃ major minor, token = major ++ ':' :: minor ∧ ':' ∉ major ∧
    Numeral.Spells major device.major ∧ device.major < 2 ^ 32 ∧
    Numeral.Spells minor device.minor ∧ device.minor < 2 ^ 32

/-- A token is read as a device exactly if it denotes the device. -/
theorem BlockDevice.read?_eq_some_iff {token : Text} {device : BlockDevice} :
    read? token = some device ↔ Denotes token device := by
  have hnumber : ∀ (word : Text) (n : Nat),
      Numeral.read32 word = .ok n ↔ Numeral.Spells word n ∧ n < 2 ^ 32 := by
    intro word n
    have hbound : n ≤ Numeral.max32 ↔ n < 2 ^ 32 := by
      rw [Numeral.max32]
      omega
    rw [Numeral.read32, Numeral.readUpTo_eq_ok_iff, hbound]
  constructor
  · intro h
    rw [read?] at h
    cases hcut : cut ':' token with
    | none => simp [hcut] at h
    | some parts =>
      obtain ⟨major, minor⟩ := parts
      obtain ⟨htoken, hcolon⟩ := cut_eq_some_iff.mp hcut
      simp only [hcut] at h
      split at h
      · next m n hm hn =>
        obtain rfl := Option.some.inj h
        obtain ⟨hmajor, hm⟩ := (hnumber _ _).mp hm
        obtain ⟨hminor, hn⟩ := (hnumber _ _).mp hn
        exact ⟨rfl, major, minor, htoken, hcolon, hmajor, hm, hminor, hn⟩
      · cases h
  · rintro ⟨rfl, major, minor, htoken, hcolon, hmajor, hm, hminor, hn⟩
    have hcut : cut ':' device.token = some (major, minor) :=
      cut_eq_some_iff.mpr ⟨htoken, hcolon⟩
    rw [read?, hcut]
    simp only [(hnumber _ _).mpr ⟨hmajor, hm⟩, (hnumber _ _).mpr ⟨hminor, hn⟩]

/-- The name that a device goes by. -/
def DeviceDirectory.nameIn (names : DeviceDirectory) (w : World) (device : BlockDevice) : Text :=
  (names.find? w.files device.major device.minor).getD device.token

namespace Legacy

/-- The operations whose figures are asked for. -/
inductive Operation where
  | read
  | write
  | total
  deriving DecidableEq

namespace Operation

/-- How the operation is written. -/
def word : Operation → Text
  | read => "Read".toList
  | write => "Write".toList
  | total => "Total".toList

/-- The figure of the operation in a column. -/
def of (column : DeviceColumn) : Operation → Nat
  | read => column.read
  | write => column.write
  | total => column.total

/-- The octets and the operations of a device. -/
def count (device : BlockIoDevice) : Operation → IoCount
  | read => device.read
  | write => device.write
  | total => device.total

/-- A device is known by its octets and operations. -/
theorem ext_count {device device' : BlockIoDevice}
    (h : ∀ operation : Operation,
      (operation.count device).bytes = (operation.count device').bytes ∧
        (operation.count device).operations = (operation.count device').operations) :
    device = device' := by
  obtain ⟨⟨a, b⟩, ⟨c, d⟩, ⟨e, f⟩⟩ := device
  obtain ⟨⟨a', b'⟩, ⟨c', d'⟩, ⟨e', f'⟩⟩ := device'
  obtain ⟨rfl, rfl⟩ : a = a' ∧ b = b' := h read
  obtain ⟨rfl, rfl⟩ : c = c' ∧ d = d' := h write
  obtain ⟨rfl, rfl⟩ : e = e' ∧ f = f' := h total
  rfl

variable {operation : Operation}

/-- A figure goes to its own operation. -/
theorem of_withOperation (written : Text) (n : Nat) (column : DeviceColumn) :
    operation.of (column.withOperation written n) =
      if written = operation.word then n else operation.of column := by
  unfold DeviceColumn.withOperation
  by_cases h : written = operation.word
  · subst h
    cases operation <;> rfl
  · rw [if_neg h]
    cases operation <;> unfold word at h <;> split_ifs <;> first | rfl | contradiction

end Operation

namespace DeviceColumn

/-- The line has three words: a device that goes by the name `key`, the operation and a figure. -/
def GivesFigure (name : BlockDevice → Text) (key operation line : Text) (n : Nat) : Prop :=
  ∃ token figure device, words line = [token, operation, figure] ∧
    BlockDevice.Denotes token device ∧ name device = key ∧ IsCount figure n

section Lines

variable {name : BlockDevice → Text} {key operation line : Text} {m n number : Nat}

/-- A line gives one figure to one name. -/
theorem GivesFigure.unique {key' operation' : Text} (h : GivesFigure name key operation line m)
    (h' : GivesFigure name key' operation' line n) :
    key = key' ∧ operation = operation' ∧ m = n := by
  obtain ⟨token, figure, device, hwords, hdevice, rfl, hfigure⟩ := h
  obtain ⟨token', figure', device', hwords', hdevice', rfl, hfigure'⟩ := h'
  have hsame : [token, operation, figure] = [token', operation', figure'] :=
    hwords.symm.trans hwords'
  simp only [List.cons.injEq, and_true] at hsame
  obtain ⟨rfl, rfl, rfl⟩ := hsame
  have hread := BlockDevice.read?_eq_some_iff.mpr hdevice
  obtain rfl := Option.some.inj (hread.symm.trans (BlockDevice.read?_eq_some_iff.mpr hdevice'))
  exact ⟨rfl, rfl, hfigure.unique hfigure'⟩

/-- What is read of a line is what it gives, or it gives nothing. -/
theorem readLine_cases {found : Line} (name : BlockDevice → Text)
    (h : readLine number line = .ok found) :
    (found = .idle ∧ ∀ key operation n, ¬ GivesFigure name key operation line n) ∨
    ∃ device operation n, found = .figure device operation n ∧
      GivesFigure name (name device) operation line n := by
  have hnone (hshort : ∀ token operation figure, words line ≠ [token, operation, figure]) :
      ∀ key operation n, ¬ GivesFigure name key operation line n := by
    rintro key operation n ⟨token, figure, device, hwords, -⟩
    exact hshort token operation figure hwords
  unfold readLine at h
  split at h
  · next hwords =>
    refine Or.inl ⟨(Except.ok.inj h).symm, hnone ?_⟩
    simp [hwords]
  · next first second hwords =>
    split at h
    · refine Or.inl ⟨(Except.ok.inj h).symm, hnone ?_⟩
      simp [hwords]
    · cases h
  · next token operation figure hwords =>
    cases hdevice : BlockDevice.read? token with
    | none => simp [hdevice] at h
    | some device =>
      cases hfigure : Scalar.number number figure with
      | error error => simp [hdevice, hfigure] at h
      | ok n =>
        simp only [hdevice, hfigure] at h
        refine Or.inr ⟨device, operation, n, (Except.ok.inj h).symm, ?_⟩
        exact ⟨token, figure, device, hwords, BlockDevice.read?_eq_some_iff.mp hdevice, rfl,
          Scalar.number_eq_ok_iff.mp hfigure⟩
  · cases h

end Lines

/-- What lines make of the columns before them. -/
structure Follows (name : BlockDevice → Text) (before : TextMap DeviceColumn) (lines : List Text)
    (after : TextMap DeviceColumn) : Prop where
  /-- The names are those to which a line gives a figure. -/
  names : ∀ key, (after.get? key).isSome ↔
    (before.get? key).isSome ∨ ∃ line ∈ lines, ∃ operation n, GivesFigure name key operation line n
  /-- Of several figures for one operation the last one counts. -/
  figures : ∀ key (operation : Operation),
    LastFigure (GivesFigure name key operation.word) lines
      (operation.of ((before.get? key).getD .zero)) (operation.of ((after.get? key).getD .zero))

namespace Follows

variable {name : BlockDevice → Text} {before after : TextMap DeviceColumn} {line : Text}
  {lines : List Text}

/-- Without lines all counters stay as they are. -/
theorem nil : Follows name before [] before where
  names := by simp
  figures _ _ := .kept (by simp)

/-- A line that gives no figure changes no counter. -/
theorem cons_idle (hline : ∀ key operation n, ¬ GivesFigure name key operation line n)
    (h : Follows name before lines after) : Follows name before (line :: lines) after where
  names key := by simp [h.names, hline]
  figures key operation := (h.figures key operation).cons_of_none (hline key operation.word)

/-- A line that gives a figure updates the counter of its device. -/
theorem cons_figure {device : BlockDevice} {written : Text} {n : Nat}
    (hline : GivesFigure name (name device) written line n)
    (h : Follows name (before.update (name device) .zero (withOperation written n)) lines after) :
    Follows name before (line :: lines) after where
  names key := by
    have hhead : (∃ operation m, GivesFigure name key operation line m) ↔ key = name device := by
      constructor
      · rintro ⟨operation, m, hgives⟩
        exact (hgives.unique hline).1
      · rintro rfl
        exact ⟨written, n, hline⟩
    have hupdated :
        ((before.update (name device) .zero (withOperation written n)).get? key).isSome ↔
          (before.get? key).isSome ∨ key = name device := by
      rw [TextMap.update, TextMap.get?_insert]
      by_cases hkey : key = name device
      · simp [hkey]
      · simp [hkey]
    simp only [h.names, hupdated, List.exists_mem_cons_iff, hhead, or_assoc]
  figures key operation := by
    have hrest := h.figures key operation
    rw [TextMap.update, TextMap.get?_insert] at hrest
    by_cases hkey : key = name device
    · subst hkey
      rw [if_pos rfl, Option.getD_some, Operation.of_withOperation] at hrest
      by_cases hword : written = operation.word
      · subst hword
        rw [if_pos rfl] at hrest
        exact hrest.cons_of_gives hline
      · rw [if_neg hword] at hrest
        exact hrest.cons_of_none fun m hgives => hword (hline.unique hgives).2.1
    · rw [if_neg hkey] at hrest
      exact hrest.cons_of_none fun m hgives => hkey (hgives.unique hline).1

end Follows

section Files

variable {nameOf : BlockDevice → Probe ReadFailure Text} {w : World} {name : BlockDevice → Text}

/-- The loop over the lines of a throttle file. All of them are texts if it succeeds. -/
private theorem follows_of_carry
    (hname : ∀ device, (nameOf device).outcome w = .ok (name device)) {number : Nat}
    {before after : TextMap DeviceColumn} {lines : Lines}
    (h : (Lines.carry (fun failure => Probe.fail (.file failure)) (takeLine nameOf) number before
      lines).outcome w = .ok after) :
    ∃ texts, lines = texts.map .ok ∧ Follows name before texts after := by
  induction lines generalizing number before with
  | nil =>
    obtain rfl := Except.ok.inj h
    exact ⟨[], rfl, .nil⟩
  | cons line rest ih =>
    cases line with
    | error failure => cases h
    | ok line =>
      obtain ⟨next, hnext, hrest⟩ := outcome_bind_eq_ok.mp h
      obtain ⟨texts, rfl, hfollows⟩ := ih hrest
      refine ⟨line :: texts, rfl, ?_⟩
      rw [takeLine] at hnext
      cases hline : readLine number line with
      | error error => simp [hline] at hnext
      | ok found =>
        rcases readLine_cases name hline with
          ⟨rfl, hnone⟩ | ⟨device, operation, n, rfl, hgives⟩
        · simp only [hline] at hnext
          obtain rfl := Except.ok.inj hnext
          exact hfollows.cons_idle hnone
        · simp only [hline] at hnext
          rw [outcome_bind_of_ok (hname device)] at hnext
          obtain rfl := Except.ok.inj hnext
          exact hfollows.cons_figure hgives

end Files

end DeviceColumn

namespace BlockIo

open DeviceColumn

variable {w : World} {names : DeviceDirectory} {directory : Path}

/-- The file at the path has these lines. -/
def HasLines (w : World) (path : Path) (lines : List Text) : Prop :=
  ∃ opened, w.files.openFile path = .ok opened ∧ Lines.ofOpened opened = lines.map .ok

/-- A file has one list of lines. -/
theorem HasLines.unique {path : Path} {lines lines' : List Text} (h : HasLines w path lines)
    (h' : HasLines w path lines') : lines = lines' := by
  obtain ⟨opened, hopened, hlines⟩ := h
  obtain ⟨opened', hopened', hlines'⟩ := h'
  obtain rfl := Except.ok.inj (hopened.symm.trans hopened')
  have hinjective : Function.Injective (Except.ok : Text → Except FileFailure Text) :=
    fun _ _ => Except.ok.inj
  exact List.map_injective_iff.mpr hinjective (hlines.symm.trans hlines')

/-- A throttle file that is read has lines, and its columns are what they give. -/
theorem follows_of_column {file : String} {columns : TextMap DeviceColumn}
    (h : (column directory names file).outcome w = .ok columns) :
    ∃ lines, HasLines w (Path.join directory file.toList) lines ∧
      Follows (names.nameIn w) .empty lines columns := by
  obtain ⟨lines, hlines, hread⟩ := outcome_bind_eq_ok.mp h
  obtain ⟨texts, rfl, hfollows⟩ :=
    follows_of_carry (names.outcome_name · w) (outcome_mapFailure_eq_ok.mp hread)
  rw [Stat.outcome_openLines] at hlines
  cases hopened : w.files.openFile (Path.join directory file.toList) with
  | error failure => simp [hopened] at hlines
  | ok opened =>
    simp only [hopened, Except.ok.injEq] at hlines
    exact ⟨texts, ⟨opened, hopened, hlines⟩, hfollows⟩

end BlockIo

end Legacy

end ProcessMeter
