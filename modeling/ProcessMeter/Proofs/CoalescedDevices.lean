import Mathlib.Data.Set.Card
import ProcessMeter.Proofs.FirstAndLast
import ProcessMeter.Proofs.SpelledDevices

/-!
# Block devices that share a line

A line of the `io` controller lists devices and figures in any order, and several lines may list
one device. The first word that is neither what it looks like is reported. Otherwise every name
has the figures of the last line with figures that lists a device of this name, and of several
figures for one key on that line the last one counts.
-/

namespace ProcessMeter

open Text Probe

/-- A map has as many entries as there are names with a value. -/
theorem TextMap.ncard_names {α : Type} (m : TextMap α) :
    Set.ncard {key | (m.get? key).isSome} = m.entries.length := by
  have hkeys : {key | (m.get? key).isSome} = (m.keys.toFinset : Set Text) := by
    ext key
    simp [get?, keys, List.lookup_isSome_iff]
  have hnodup : m.keys.Nodup := m.entries_distinct
  rw [hkeys, Set.ncard_coe_finset, List.toFinset_card_of_nodup hnodup]
  exact List.length_map _

namespace Unified

/-- The word gives a figure for the key. -/
def HasKey (key word : Text) : Prop := '=' ∉ key ∧ ∃ value, word = key ++ '=' :: value

/-- The key of a word ends at its first `=`. -/
theorem HasKey.unique {key key' word : Text} (h : HasKey key word) (h' : HasKey key' word) :
    key = key' := by
  obtain ⟨hkey, value, hword⟩ := h
  obtain ⟨hkey', value', hword'⟩ := h'
  have hcut : cut '=' word = some (key, value) := cut_eq_some_iff.mpr ⟨hword, hkey⟩
  rw [cut_eq_some_iff.mpr ⟨hword', hkey'⟩] at hcut
  exact (Prod.mk.inj (Option.some.inj hcut)).1.symm

/-- The word gives the figure of the key as a number of 64 bits. -/
def GivesFigure (word key : Text) (n : Nat) : Prop :=
  '=' ∉ key ∧ ∃ value, word = key ++ '=' :: value ∧ Numeral.read64 value = .ok n

/-- The word is no figure, and two numbers of 32 bits around its first colon are those of the
device. -/
def ListsDevice (word : Text) (device : BlockDevice) : Prop :=
  '=' ∉ word ∧ ∃ major minor, word = major ++ ':' :: minor ∧ ':' ∉ major ∧
    Numeral.read32 major = .ok device.major ∧ Numeral.read32 minor = .ok device.minor ∧
    device.token = word

/-- What is wrong with a word on the line of the given number. -/
inductive Offends (number : Nat) : (word : Text) → StatError → Prop where
  /-- What stands behind the first `=` is no number of 64 bits. -/
  | figure {key value : Text} {cause : NumeralError} (hkey : '=' ∉ key)
    (hvalue : Numeral.read64 value = .error cause) :
    Offends number (key ++ '=' :: value) (.invalidKeyValue key value number cause)
  /-- There is a colon and no `=`, but no device. -/
  | device {word : Text} (hfigure : '=' ∉ word) (hcolon : ':' ∈ word)
    (hnone : ∀ device, ¬ ListsDevice word device) : Offends number word (.invalidDevice word number)

section Words

variable {number : Nat} {word : Text}

/-- A word that gives a figure is read as that figure. -/
theorem read_of_givesFigure {key : Text} {n : Nat} (h : GivesFigure word key n) :
    IoWord.read number word = .ok (.figure key n) := by
  obtain ⟨hkey, value, rfl, hn⟩ := h
  simp only [IoWord.read, cut_append_cons hkey, hn]

/-- A word that lists a device is read as that device. -/
theorem read_of_listsDevice {device : BlockDevice} (h : ListsDevice word device) :
    IoWord.read number word = .ok (.device device) := by
  obtain ⟨hfigure, major, minor, rfl, hcolon, hmajor, hminor, htoken⟩ := h
  have hcut : cut '=' (major ++ ':' :: minor) = none := cut_eq_none_iff.mpr hfigure
  have hread : BlockDevice.read? (major ++ ':' :: minor) = some device := by
    simp only [BlockDevice.read?, cut_append_cons hcolon, hmajor, hminor]
    rw [← htoken]
  simp [IoWord.read, hcut, hread]

/-- A word that is read as a device lists it, unless it has an equals sign. -/
private theorem exists_listsDevice {device : BlockDevice} (hfigure : '=' ∉ word)
    (h : BlockDevice.read? word = some device) : ListsDevice word device := by
  unfold BlockDevice.read? at h
  split at h
  · cases h
  · next major minor hcut =>
    split at h
    · next hmajor hminor =>
      obtain rfl := Option.some.inj h
      obtain ⟨heq, hcolon⟩ := cut_eq_some_iff.mp hcut
      exact ⟨hfigure, major, minor, heq, hcolon, hmajor, hminor, rfl⟩
    · cases h

/-- A word that offends is refused with its offence. -/
theorem read_of_offends {error : StatError} (h : Offends number word error) :
    IoWord.read number word = .error error := by
  cases h with
  | figure hkey hvalue => simp only [IoWord.read, cut_append_cons hkey, hvalue]
  | device hfigure hcolon hnone =>
    have hcut : cut '=' word = none := cut_eq_none_iff.mpr hfigure
    cases hread : BlockDevice.read? word with
    | none => simp [IoWord.read, hcut, hcolon, hread]
    | some device => exact absurd (exists_listsDevice hfigure hread) (hnone device)

/-- A word says one of four things, and is read so. -/
theorem read_cases (number : Nat) (word : Text) :
    (∃ error, Offends number word error) ∨ (∃ key n, GivesFigure word key n) ∨
      (∃ device, ListsDevice word device) ∨
      ('=' ∉ word ∧ ':' ∉ word ∧ IoWord.read number word = .ok .idle) := by
  by_cases hfigure : '=' ∈ word
  · have hcut : cut '=' word = _ := (cut_eq '=' word).trans (if_pos hfigure)
    obtain ⟨hword, hkey⟩ := cut_eq_some_iff.mp hcut
    rw [hword]
    cases hvalue : Numeral.read64 (word.dropWhile (· ≠ '=')).tail with
    | ok n => exact .inr (.inl ⟨_, n, hkey, _, rfl, hvalue⟩)
    | error cause => exact .inl ⟨_, .figure hkey hvalue⟩
  · by_cases hcolon : ':' ∈ word
    · by_cases hdevice : ∃ device, ListsDevice word device
      · exact .inr (.inr (.inl hdevice))
      · exact .inl ⟨_, .device hfigure hcolon fun device h => hdevice ⟨device, h⟩⟩
    · have hcut : cut '=' word = none := cut_eq_none_iff.mpr hfigure
      exact .inr (.inr (.inr ⟨hfigure, hcolon, by simp [IoWord.read, hcut, hcolon]⟩))

end Words

/-- The complaint is about the first of the numbered words that offends. -/
def FirstOffence (tokens : List (Nat × Text)) (error : StatError) : Prop :=
  ∃ front token behind, tokens = front ++ token :: behind ∧
    (∀ earlier ∈ front, ∀ error, ¬ Offends earlier.1 earlier.2 error) ∧
    Offends token.1 token.2 error

section FirstOffence

variable {tokens rest : List (Nat × Text)} {error : StatError}

/-- The first offence is that of the first word, or else the first one behind it. -/
theorem firstOffence_cons {token : Nat × Text} :
    FirstOffence (token :: rest) error ↔ Offends token.1 token.2 error ∨
      (∀ error, ¬ Offends token.1 token.2 error) ∧ FirstOffence rest error :=
  firstTells_cons

/-- Words behind do not change the first offence. -/
theorem FirstOffence.append (h : FirstOffence tokens error) :
    FirstOffence (tokens ++ rest) error :=
  FirstTells.append h

/-- Words in front that do not offend do not change it either. -/
theorem FirstOffence.append_left (hfine : ∀ t ∈ tokens, ∀ error, ¬ Offends t.1 t.2 error)
    (h : FirstOffence rest error) : FirstOffence (tokens ++ rest) error :=
  FirstTells.append_left hfine h

/-- There is one first offence at most. -/
theorem FirstOffence.unique {error' : StatError} (h : FirstOffence tokens error)
    (h' : FirstOffence tokens error') : error = error' := by
  have hword : ∀ (token : Nat × Text) error error', Offends token.1 token.2 error →
      Offends token.1 token.2 error' → error = error' := by
    intro token error error' h h'
    exact Except.error.inj ((read_of_offends h).symm.trans (read_of_offends h'))
  exact FirstTells.unique hword h h'

/-- There is a first offence exactly if some word offends. -/
theorem exists_firstOffence_iff :
    (∃ error, FirstOffence tokens error) ↔ ∃ t ∈ tokens, ∃ error, Offends t.1 t.2 error :=
  exists_firstTells_iff

end FirstOffence

/-- The figures of a device. -/
inductive Counter where
  | readBytes
  | writtenBytes
  | reads
  | writes
  | discardedBytes
  | discards
  deriving DecidableEq

namespace Counter

/-- The key that the figure has in the file. -/
def key : Counter → Text
  | readBytes => "rbytes".toList
  | writtenBytes => "wbytes".toList
  | reads => "rios".toList
  | writes => "wios".toList
  | discardedBytes => "dbytes".toList
  | discards => "dios".toList

/-- The figure of a device. -/
def of (device : IoDevice) : Counter → Nat
  | readBytes => device.read.bytes
  | writtenBytes => device.write.bytes
  | reads => device.read.operations
  | writes => device.write.operations
  | discardedBytes => device.discarded.bytes
  | discards => device.discarded.operations

/-- A figure that was stored under the key of a counter is the value of that counter. -/
theorem of_withFigure_key (counter : Counter) (n : Nat) (device : IoDevice) :
    counter.of (device.withFigure counter.key n) = n := by
  cases counter <;> rfl

/-- Figures under other keys leave a counter as it is. -/
theorem of_withFigure_of_ne {counter : Counter} {key : Text} (hne : key ≠ counter.key) (n : Nat)
    (device : IoDevice) : counter.of (device.withFigure key n) = counter.of device := by
  unfold IoDevice.withFigure
  cases counter <;> unfold Counter.key at hne <;> split_ifs <;> first | rfl | contradiction

/-- A device is known by its figures. -/
theorem of_injective {device device' : IoDevice}
    (h : ∀ counter : Counter, counter.of device = counter.of device') : device = device' := by
  obtain ⟨⟨a, b⟩, ⟨c, d⟩, ⟨e, f⟩⟩ := device
  obtain ⟨⟨a', b'⟩, ⟨c', d'⟩, ⟨e', f'⟩⟩ := device'
  obtain rfl : a = a' := h readBytes
  obtain rfl : b = b' := h reads
  obtain rfl : c = c' := h writtenBytes
  obtain rfl : d = d' := h writes
  obtain rfl : e = e' := h discardedBytes
  obtain rfl : f = f' := h discards
  rfl

end Counter

/-- The figure of a key that words leave where it was `start` before them: the one that the last
word with the key gives. -/
inductive FigureFrom (start : Nat) (words : List Text) (key : Text) : Nat → Prop where
  /-- No word has the key. -/
  | kept (hnone : ∀ word ∈ words, ¬ HasKey key word) : FigureFrom start words key start
  /-- The last word with the key gives the figure. -/
  | given {word : Text} {n : Nat} (hlast : IsLast (HasKey key) words word)
    (hfigure : GivesFigure word key n) : FigureFrom start words key n

section FigureFrom

variable {start n : Nat} {word key : Text} {words : List Text}

/-- A word that gives a figure has its key. -/
theorem GivesFigure.hasKey (h : GivesFigure word key n) : HasKey key word := by
  obtain ⟨hkey, value, hword, -⟩ := h
  exact ⟨hkey, value, hword⟩

/-- A word that gives a figure has an equals sign. -/
theorem GivesFigure.mem (h : GivesFigure word key n) : '=' ∈ word := by
  obtain ⟨-, value, rfl, -⟩ := h
  simp

/-- The last word with the key tells the figure. -/
theorem figureFrom_iff : FigureFrom start words key n ↔
    LastTells (HasKey key) (fun word n => GivesFigure word key n) words start n := by
  constructor
  · intro h
    cases h with
    | kept hnone => exact .usual hnone
    | given hlast hfigure => exact .told hlast hfigure
  · intro h
    cases h with
    | usual hnone => exact .kept hnone
    | told hlast hfigure => exact .given hlast hfigure

/-- Words give a key one figure at most. -/
theorem FigureFrom.unique {n' : Nat} (h : FigureFrom start words key n)
    (h' : FigureFrom start words key n') : n = n' := by
  have hword : ∀ word m m', GivesFigure word key m → GivesFigure word key m' → m = m' := by
    intro word m m' hm hm'
    have hread : IoWord.read 0 word = _ := read_of_givesFigure hm
    simpa using hread.symm.trans (read_of_givesFigure hm')
  exact (figureFrom_iff.mp h).unique hword (figureFrom_iff.mp h')

/-- A word with another key does not matter. -/
theorem FigureFrom.cons_of_not_hasKey (hword : ¬ HasKey key word)
    (h : FigureFrom start words key n) : FigureFrom start (word :: words) key n :=
  figureFrom_iff.mpr ((figureFrom_iff.mp h).cons_of_not hword)

/-- A word with the key gives the figure that the words behind it start from. -/
theorem FigureFrom.cons_of_givesFigure {m : Nat} (hword : GivesFigure word key m)
    (h : FigureFrom m words key n) : FigureFrom start (word :: words) key n :=
  figureFrom_iff.mpr ((figureFrom_iff.mp h).cons_of_tells hword.hasKey hword)

end FigureFrom

/-- What the words of a line make of what was known before them. -/
structure IoLine.Follows (name : BlockDevice → Text) (line : IoLine) (words : List Text)
    (final : IoLine) : Prop where
  /-- The names are those of the listed devices. -/
  names : ∀ key, key ∈ final.names ↔
    key ∈ line.names ∨ ∃ word ∈ words, ∃ device, ListsDevice word device ∧ name device = key
  /-- A word with `=` is a figure. -/
  hasFigures : final.hasFigures = true ↔ line.hasFigures = true ∨ ∃ word ∈ words, '=' ∈ word
  /-- Of several figures for one key the last one counts. -/
  figures : ∀ counter : Counter,
    FigureFrom (counter.of line.figures) words counter.key (counter.of final.figures)

namespace IoLine.Follows

variable {name : BlockDevice → Text} {line final : IoLine} {word : Text} {words : List Text}

/-- Without words the line stays as it is. -/
theorem nil : Follows name line [] line where
  names := by simp
  hasFigures := by simp
  figures _ := .kept (by simp)

/-- A word without an equals sign and without a colon changes nothing. -/
theorem cons_idle (hfigure : '=' ∉ word) (hcolon : ':' ∉ word)
    (h : Follows name line words final) : Follows name line (word :: words) final where
  names key := by
    have hnone : ∀ device, ¬ ListsDevice word device := by
      rintro device ⟨-, major, minor, rfl, -⟩
      simp at hcolon
    simp [h.names, hnone]
  hasFigures := by simp [h.hasFigures, hfigure]
  figures counter := by
    refine (h.figures counter).cons_of_not_hasKey ?_
    rintro ⟨-, value, rfl⟩
    simp at hfigure

/-- A word that lists a device adds its name to those of the line. -/
theorem cons_device {device : BlockDevice} (hword : ListsDevice word device)
    (h : Follows name { line with names := line.names ++ [name device] } words final) :
    Follows name line (word :: words) final where
  names key := by
    have hsame : ∀ device', ListsDevice word device' → device' = device := by
      intro device' hword'
      have hread : IoWord.read 0 word = _ := read_of_listsDevice hword'
      simpa using hread.symm.trans (read_of_listsDevice hword)
    have hhead : (∃ device', ListsDevice word device' ∧ name device' = key) ↔
        key = name device := by
      constructor
      · rintro ⟨device', hword', rfl⟩
        rw [hsame device' hword']
      · rintro rfl
        exact ⟨device, hword, rfl⟩
    simp [h.names, hhead, or_assoc]
  hasFigures := by simpa [hword.1] using h.hasFigures
  figures counter := by
    refine (h.figures counter).cons_of_not_hasKey ?_
    rintro ⟨-, value, rfl⟩
    exact hword.1 (by simp)

/-- A word that gives a figure stores it, and the line has figures from then on. -/
theorem cons_figure {key : Text} {n : Nat} (hword : GivesFigure word key n)
    (h : Follows name { line with figures := line.figures.withFigure key n, hasFigures := true }
      words final) : Follows name line (word :: words) final where
  names key' := by
    have hnone : ∀ device, ¬ ListsDevice word device := fun device hlists => hlists.1 hword.mem
    simp [h.names, hnone]
  hasFigures := by simp [h.hasFigures, hword.mem]
  figures counter := by
    have hrest := h.figures counter
    by_cases hkey : key = counter.key
    · subst hkey
      simp only [Counter.of_withFigure_key] at hrest
      exact hrest.cons_of_givesFigure hword
    · simp only [Counter.of_withFigure_of_ne hkey] at hrest
      exact hrest.cons_of_not_hasKey fun h => hkey (hword.hasKey.unique h)

end IoLine.Follows

section Reading

variable {nameOf : BlockDevice → Probe ReadFailure Text} {w : World} {name : BlockDevice → Text}

/-- The words of a line: the first offence is reported, or all of them are taken in. -/
private theorem takeWords_cases (hname : ∀ device, (nameOf device).outcome w = .ok (name device))
    (number : Nat) (line : IoLine) (words : List Text) :
    (∃ error, FirstOffence (words.map (number, ·)) error ∧
      (IoLine.takeWords nameOf number line words).outcome w = .error (.failed (.malformed error))) ∨
    ((∀ word ∈ words, ∀ error, ¬ Offends number word error) ∧
      ∃ final, (IoLine.takeWords nameOf number line words).outcome w = .ok final ∧
        IoLine.Follows name line words final) := by
  induction words generalizing line with
  | nil => exact .inr ⟨by simp, line, rfl, .nil⟩
  | cons word rest ih =>
    by_cases hoffends : ∃ error, Offends number word error
    · obtain ⟨error, herror⟩ := hoffends
      refine .inl ⟨error, firstOffence_cons.mpr (.inl herror), ?_⟩
      simp [IoLine.takeWords, read_of_offends herror]
    · have hfine : ∀ error, ¬ Offends number word error := not_exists.mp hoffends
      suffices hnext : ∃ next, (IoLine.takeWords nameOf number line (word :: rest)).outcome w =
          (IoLine.takeWords nameOf number next rest).outcome w ∧
          ∀ final, IoLine.Follows name next rest final →
            IoLine.Follows name line (word :: rest) final by
        obtain ⟨next, hread, hfollows⟩ := hnext
        rw [hread]
        refine (ih next).imp ?_ ?_
        · rintro ⟨error, hfirst, hfails⟩
          exact ⟨error, firstOffence_cons.mpr (.inr ⟨hfine, hfirst⟩), hfails⟩
        · rintro ⟨hrest, final, hfinal, hafter⟩
          exact ⟨List.forall_mem_cons.mpr ⟨hfine, hrest⟩, final, hfinal, hfollows final hafter⟩
      rcases read_cases number word with h | ⟨key, n, h⟩ | ⟨device, h⟩ | ⟨hfigure, hcolon, hread⟩
      · exact absurd h hoffends
      · exact ⟨_, by simp only [IoLine.takeWords, read_of_givesFigure h], fun _ => .cons_figure h⟩
      · refine ⟨_, ?_, fun _ => .cons_device h⟩
        simp only [IoLine.takeWords, read_of_listsDevice h]
        rw [outcome_bind_of_ok (hname device)]
      · exact ⟨line, by simp only [IoLine.takeWords, hread], fun _ => .cons_idle hfigure hcolon⟩

end Reading

/-- The line has a figure. -/
def HasFigures (line : Text) : Prop := ∃ word ∈ words line, '=' ∈ word

instance : DecidablePred HasFigures := fun line =>
  inferInstanceAs (Decidable (∃ word ∈ words line, '=' ∈ word))

/-- The line gives figures to the name: it has figures and lists a device of this name. -/
def GivesTo (name : BlockDevice → Text) (key line : Text) : Prop :=
  HasFigures line ∧ ∃ word ∈ words line, ∃ device, ListsDevice word device ∧ name device = key

/-- The figures of a line. Of several for one key the last one counts, and one that is not given is
zero. -/
def AreFigures (line : Text) (figures : IoDevice) : Prop :=
  ∀ counter : Counter, FigureFrom 0 (words line) counter.key (counter.of figures)

/-- A line has one set of figures only. -/
theorem AreFigures.unique {line : Text} {figures figures' : IoDevice} (h : AreFigures line figures)
    (h' : AreFigures line figures') : figures = figures' :=
  Counter.of_injective fun counter => (h counter).unique (h' counter)

/-- The words of lines in the order of the file, each with the number of its line. -/
def numberedWords (number : Nat) (lines : List Text) : List (Nat × Text) :=
  (lines.zipIdx number).flatMap fun (line, number) => (words line).map (number, ·)

section Reading

variable {nameOf : BlockDevice → Probe ReadFailure Text} {w : World} {name : BlockDevice → Text}

/-- A line: the first offence is reported, or its figures go to the names of its devices. -/
theorem takeIoLine_cases (hname : ∀ device, (nameOf device).outcome w = .ok (name device))
    (number : Nat) (line : Text) (devices : TextMap IoDevice) :
    (∃ error, FirstOffence ((words line).map (number, ·)) error ∧
      (takeIoLine nameOf number line devices).outcome w = .error (.failed (.malformed error))) ∨
    ((∀ word ∈ words line, ∀ error, ¬ Offends number word error) ∧
      ∃ after figures, (takeIoLine nameOf number line devices).outcome w = .ok after ∧
        AreFigures line figures ∧ (∀ key, GivesTo name key line → after.get? key = some figures) ∧
        ∀ key, ¬ GivesTo name key line → after.get? key = devices.get? key) := by
  refine (takeWords_cases hname number .start (words line)).imp ?_ ?_
  · rintro ⟨error, hfirst, hfails⟩
    exact ⟨error, hfirst, outcome_bind_eq_error.mpr (.inl hfails)⟩
  · rintro ⟨hfine, final, hfinal, hfollows⟩
    refine ⟨hfine, final.addTo devices, final.figures, outcome_bind_of_ok hfinal _, ?_⟩
    have hgives : ∀ key, GivesTo name key line ↔ final.hasFigures = true ∧ key ∈ final.names := by
      intro key
      simp [GivesTo, HasFigures, hfollows.hasFigures, hfollows.names, IoLine.start]
    refine ⟨fun counter => ?_, fun key hkey => ?_, fun key hkey => ?_⟩
    · have hstart : counter.of IoLine.start.figures = 0 := by cases counter <;> rfl
      exact hstart ▸ hfollows.figures counter
    · obtain ⟨hfigures, hmem⟩ := (hgives key).mp hkey
      rw [IoLine.addTo, if_pos hfigures, TextMap.get?_insert_all, if_pos hmem]
    · rw [hgives] at hkey
      unfold IoLine.addTo
      split
      · next hfigures => rw [TextMap.get?_insert_all, if_neg fun hmem => hkey ⟨hfigures, hmem⟩]
      · rfl

/-- What lines make of what was known before them: every name has the figures of the last line that
gives it some. -/
def Coalesces (name : BlockDevice → Text) (lines : List Text) (before after : TextMap IoDevice) :
    Prop :=
  ∀ key figures, after.get? key = some figures ↔
    (∃ line, IsLast (GivesTo name key) lines line ∧ AreFigures line figures) ∨
      ((∀ line ∈ lines, ¬ GivesTo name key line) ∧ before.get? key = some figures)

/-- A line in front gives its figures to the names it lists, and the lines behind go on from there.
-/
private theorem Coalesces.cons {line : Text} {lines : List Text} {figures : IoDevice}
    {before next after : TextMap IoDevice} (hfigures : AreFigures line figures)
    (hgiven : ∀ key, GivesTo name key line → next.get? key = some figures)
    (hkept : ∀ key, ¬ GivesTo name key line → next.get? key = before.get? key)
    (h : Coalesces name lines next after) : Coalesces name (line :: lines) before after := by
  intro key figures'
  rw [h key figures']
  simp only [isLast_cons, List.forall_mem_cons]
  by_cases hkey : GivesTo name key line
  · have hsame : some figures = some figures' ↔ AreFigures line figures' := by
      refine ⟨fun heq => Option.some.inj heq ▸ hfigures, fun h' => ?_⟩
      rw [hfigures.unique h']
    simp only [hgiven key hkey, hkey, hsame]
    constructor
    · rintro (⟨found, hlast, hfound⟩ | ⟨hnone, hline⟩)
      · exact .inl ⟨found, .inl hlast, hfound⟩
      · exact .inl ⟨line, .inr ⟨rfl, trivial, hnone⟩, hline⟩
    · rintro (⟨found, hlast | ⟨rfl, -, hnone⟩, hfound⟩ | ⟨⟨hfalse, -⟩, -⟩)
      · exact .inl ⟨found, hlast, hfound⟩
      · exact .inr ⟨hnone, hfound⟩
      · exact absurd trivial hfalse
  · simp [hkept key hkey, hkey]

/-- A file: the first offence is reported, or every line is taken in. -/
private theorem carry_cases (hname : ∀ device, (nameOf device).outcome w = .ok (name device))
    {unreadable : FileFailure → Probe ReadFailure (TextMap IoDevice)} (number : Nat)
    (devices : TextMap IoDevice) (lines : List Text) :
    let read :=
      (Lines.carry unreadable (takeIoLine nameOf) number devices (lines.map .ok)).outcome w
    (∃ error, FirstOffence (numberedWords number lines) error ∧
      read = .error (.failed (.malformed error))) ∨
    ((∀ token ∈ numberedWords number lines, ∀ error, ¬ Offends token.1 token.2 error) ∧
      (∀ line ∈ lines, ∃ figures, AreFigures line figures) ∧
      ∃ after, read = .ok after ∧ Coalesces name lines devices after) := by
  induction lines generalizing number devices with
  | nil =>
    refine .inr ⟨by simp [numberedWords], by simp, devices, rfl, fun key figures => ?_⟩
    simp [IsLast]
  | cons line rest ih =>
    have hwords : numberedWords number (line :: rest) =
        (words line).map (number, ·) ++ numberedWords (number + 1) rest := by
      simp [numberedWords]
    dsimp only
    rw [hwords, List.map_cons, Lines.carry]
    rcases takeIoLine_cases hname number line devices with ⟨error, hfirst, hfails⟩ | ⟨hfine, hline⟩
    · exact .inl ⟨error, hfirst.append, outcome_bind_eq_error.mpr (.inl hfails)⟩
    · obtain ⟨next, figures, hnext, hfigures, hgiven, hkept⟩ := hline
      have hhead : ∀ token ∈ (words line).map (number, ·), ∀ error,
          ¬ Offends token.1 token.2 error := List.forall_mem_map.mpr hfine
      rw [outcome_bind_of_ok hnext]
      refine (ih (number + 1) next).imp ?_ ?_
      · rintro ⟨error, hfirst, hfails⟩
        exact ⟨error, hfirst.append_left hhead, hfails⟩
      · rintro ⟨hrest, hall, after, hafter, hcoalesces⟩
        exact ⟨List.forall_mem_append.mpr ⟨hhead, hrest⟩,
          List.forall_mem_cons.mpr ⟨⟨figures, hfigures⟩, hall⟩, after, hafter,
          hcoalesces.cons hfigures hgiven hkept⟩

end Reading

/-- The device is listed on a line with figures. -/
def IsListed (lines : List Text) (device : BlockDevice) : Prop :=
  ∃ line ∈ lines, HasFigures line ∧ ∃ word ∈ words line, ListsDevice word device

/-- What the lines of a file say about the block devices that go by the names. -/
structure AreCoalesced (name : BlockDevice → Text) (lines : List Text)
    (devices : TextMap IoDevice) : Prop where
  /-- A name is there exactly if some line gives it figures. -/
  present : ∀ key, (devices.get? key).isSome ↔ ∃ line ∈ lines, GivesTo name key line
  /-- It has the figures of the last line that gives it some. -/
  figures : ∀ key figures, devices.get? key = some figures ↔
    ∃ line, IsLast (GivesTo name key) lines line ∧ AreFigures line figures
  /-- Names that have their figures from one line have the same figures. -/
  alike : ∀ key key' line, IsLast (GivesTo name key) lines line →
    IsLast (GivesTo name key') lines line → devices.get? key = devices.get? key'
  /-- Where names tell the listed devices apart just as `identity` does, there are as many names as
  there are devices on lines with figures. -/
  count : ∀ {κ : Type} (identity : BlockDevice → κ),
    (∀ device device', IsListed lines device → IsListed lines device' →
      (name device = name device' ↔ identity device = identity device')) →
        devices.entries.length = Set.ncard (identity '' {device | IsListed lines device})

section Coalesced

variable {name : BlockDevice → Text} {lines : List Text} {devices : TextMap IoDevice}

/-- A name has the figures of the last line that gives figures to it. -/
private theorem Coalesces.get?_iff (h : Coalesces name lines .empty devices) (key : Text)
    (figures : IoDevice) : devices.get? key = some figures ↔
      ∃ line, IsLast (GivesTo name key) lines line ∧ AreFigures line figures := by
  simpa using h key figures

/-- A name has figures exactly if some line gives figures to it. -/
private theorem Coalesces.isSome_iff (h : Coalesces name lines .empty devices)
    (hall : ∀ line ∈ lines, ∃ figures, AreFigures line figures) (key : Text) :
    (devices.get? key).isSome ↔ ∃ line ∈ lines, GivesTo name key line := by
  rw [← exists_isLast_iff, Option.isSome_iff_exists]
  simp only [h.get?_iff]
  constructor
  · rintro ⟨-, line, hlast, -⟩
    exact ⟨line, hlast⟩
  · rintro ⟨line, hlast⟩
    obtain ⟨figures, hfigures⟩ := hall line hlast.mem.1
    exact ⟨figures, line, hlast, hfigures⟩

/-- Two functions that tell the elements of a set apart alike have as many values on it. -/
private theorem ncard_image_eq {α β γ : Type} {f : α → β} {g : α → γ} {s : Set α}
    (hfg : ∀ a b, a ∈ s → b ∈ s → (g a = g b ↔ f a = f b)) : (g '' s).ncard = (f '' s).ncard := by
  symm
  refine Set.ncard_congr (fun _ hb => g hb.choose) ?_ ?_ ?_
  · intro b hb
    exact ⟨_, hb.choose_spec.1, rfl⟩
  · intro b b' hb hb' h
    have hsame := (hfg _ _ hb.choose_spec.1 hb'.choose_spec.1).mp h
    rwa [hb.choose_spec.2, hb'.choose_spec.2] at hsame
  · rintro _ ⟨a, ha, rfl⟩
    have hb : f a ∈ f '' s := ⟨a, ha, rfl⟩
    exact ⟨f a, hb, (hfg _ a hb.choose_spec.1 ha).mpr hb.choose_spec.2⟩

/-- From nothing, the lines leave each name with the figures of its last line. -/
private theorem Coalesces.areCoalesced (h : Coalesces name lines .empty devices)
    (hall : ∀ line ∈ lines, ∃ figures, AreFigures line figures) :
    AreCoalesced name lines devices where
  present := h.isSome_iff hall
  figures := h.get?_iff
  alike key key' line hline hline' := by
    obtain ⟨figures, hfigures⟩ := hall line hline.mem.1
    rw [(h.get?_iff key figures).mpr ⟨line, hline, hfigures⟩,
      (h.get?_iff key' figures).mpr ⟨line, hline', hfigures⟩]
  count identity hidentity := by
    have hnames : {key | (devices.get? key).isSome} = name '' {device | IsListed lines device} := by
      ext key
      simp only [Set.mem_ofPred_eq, h.isSome_iff hall, Set.mem_image, IsListed, GivesTo]
      constructor
      · rintro ⟨line, hline, hfigures, word, hword, device, hlists, rfl⟩
        exact ⟨device, ⟨line, hline, hfigures, word, hword, hlists⟩, rfl⟩
      · rintro ⟨device, ⟨line, hline, hfigures, word, hword, hlists⟩, rfl⟩
        exact ⟨line, hline, hfigures, word, hword, device, hlists, rfl⟩
    rw [← TextMap.ncard_names, hnames]
    exact ncard_image_eq hidentity

/-- Without the lines that have no figures the same comes out. -/
private theorem Coalesces.eq_of_filter {other : TextMap IoDevice}
    (h : Coalesces name lines .empty devices)
    (hother : Coalesces name (lines.filter fun line => HasFigures line) .empty other) :
    other = devices := by
  refine TextMap.ext_get? fun key => Option.ext fun figures => ?_
  rw [h.get?_iff, hother.get?_iff]
  simp only [isLast_filter fun line (hline : GivesTo name key line) => hline.1]

end Coalesced

/-- Whether a word offends does not depend on the number of its line. -/
private theorem Offends.renumber {number : Nat} {word : Text} {error : StatError}
    (h : Offends number word error) (number' : Nat) : ∃ error, Offends number' word error := by
  cases h with
  | figure hkey hvalue => exact ⟨_, .figure hkey hvalue⟩
  | device hfigure hcolon hnone => exact ⟨_, .device hfigure hcolon hnone⟩

/-- Every word of a line is among the words with their line numbers. -/
private theorem mem_numberedWords (number : Nat) {lines : List Text} {line word : Text}
    (hline : line ∈ lines) (hword : word ∈ words line) :
    ∃ number', (number', word) ∈ numberedWords number lines := by
  obtain ⟨i, hi, rfl⟩ := List.mem_iff_getElem.mp hline
  refine ⟨number + i, List.mem_flatMap.mpr ⟨(lines[i], number + i), ?_, ?_⟩⟩
  · rw [List.mk_mem_zipIdx_iff_le_and_getElem?_sub]
    simp [hi]
  · exact List.mem_map.mpr ⟨word, hword, rfl⟩

section Reading

variable {nameOf : BlockDevice → Probe ReadFailure Text} {w : World} {name : BlockDevice → Text}

/-- The lines are either all read, or the first offending word is reported. -/
private theorem readIoLines_cases (hname : ∀ device, (nameOf device).outcome w = .ok (name device))
    (text : Text) :
    let read := (readIoLines nameOf (Lines.ofBytes (encode text))).outcome w
    (∃ error, FirstOffence (numberedWords 1 (rawLines text)) error ∧
      read = .error (.failed (.malformed error))) ∨
    ((∀ token ∈ numberedWords 1 (rawLines text), ∀ error, ¬ Offends token.1 token.2 error) ∧
      ∃ devices, read = .ok devices ∧ Coalesces name (rawLines text) .empty devices ∧
        AreCoalesced name (rawLines text) devices) := by
  simp only [readIoLines, Lines.ofBytes_encode, Lines.ofText]
  refine (carry_cases hname 1 .empty (rawLines text)).imp_right ?_
  rintro ⟨hfine, hall, devices, hread, hcoalesces⟩
  exact ⟨hfine, devices, hread, hcoalesces, hcoalesces.areCoalesced hall⟩

/-- The file is refused for the first word that offends, and for nothing else. -/
private theorem readIoLines_eq_error_iff
    (hname : ∀ device, (nameOf device).outcome w = .ok (name device)) (text : Text)
    (fault : Fault ReadFailure) :
    (readIoLines nameOf (Lines.ofBytes (encode text))).outcome w = .error fault ↔
      ∃ error, FirstOffence (numberedWords 1 (rawLines text)) error ∧
        fault = .failed (.malformed error) := by
  rcases readIoLines_cases hname text with ⟨error, hfirst, hread⟩ | ⟨hfine, devices, hread, -⟩
  · constructor
    · intro h
      exact ⟨error, hfirst, Except.error.inj (h.symm.trans hread)⟩
    · rintro ⟨error', hfirst', rfl⟩
      rw [hfirst'.unique hfirst]
      exact hread
  · refine iff_of_false (fun h => ?_) ?_
    · cases h.symm.trans hread
    · rintro ⟨error, hfirst, -⟩
      obtain ⟨token, htoken, error, herror⟩ := exists_firstOffence_iff.mp ⟨error, hfirst⟩
      exact hfine token htoken error herror

/-- The lines with figures are read as they are with the others between them. -/
private theorem readIoLines_filter (hname : ∀ device, (nameOf device).outcome w = .ok (name device))
    {text other : Text} {devices : TextMap IoDevice}
    (hread : (readIoLines nameOf (Lines.ofBytes (encode text))).outcome w = .ok devices)
    (hother : rawLines other = (rawLines text).filter fun line => HasFigures line) :
    (readIoLines nameOf (Lines.ofBytes (encode other))).outcome w = .ok devices := by
  rcases readIoLines_cases hname text with ⟨error, -, hfails⟩ | ⟨hfine, found, hfound, hall, -⟩
  · cases hread.symm.trans hfails
  obtain rfl := Except.ok.inj (hfound.symm.trans hread)
  rcases readIoLines_cases hname other with ⟨error, hfirst, -⟩ | ⟨-, found', hfound', hall', -⟩
  · obtain ⟨token, htoken, error, herror⟩ := exists_firstOffence_iff.mp ⟨error, hfirst⟩
    obtain ⟨⟨line, number⟩, hline, hnumbered⟩ := List.mem_flatMap.mp htoken
    obtain ⟨word, hword, rfl⟩ := List.mem_map.mp hnumbered
    have hmem : line ∈ rawLines other := List.fst_mem_of_mem_zipIdx hline
    rw [hother] at hmem
    obtain ⟨number', htoken'⟩ := mem_numberedWords 1 (List.mem_filter.mp hmem).1 hword
    obtain ⟨error', herror'⟩ := herror.renumber number'
    exact absurd herror' (hfine _ htoken' error')
  · rw [hother] at hall'
    rw [hfound', hall.eq_of_filter hall']

end Reading

/-- **Shared lines.** Whatever names devices have, the file is refused exactly if some word
offends, and then for the first one. Otherwise each name has the figures of the last line that
gives it some, and the lines without figures might as well not be there. -/
theorem readIoLines_coalesced {nameOf : BlockDevice → Probe ReadFailure Text} {w : World}
    {name : BlockDevice → Text} (hname : ∀ device, (nameOf device).outcome w = .ok (name device))
    (text : Text) :
    let read (text : Text) := (readIoLines nameOf (Lines.ofBytes (encode text))).outcome w
    let tokens := numberedWords 1 (rawLines text)
    ((∃ fault, read text = .error fault) ↔
        ∃ token ∈ tokens, ∃ error, Offends token.1 token.2 error) ∧
      (∀ fault, read text = .error fault ↔
        ∃ error, FirstOffence tokens error ∧ fault = .failed (.malformed error)) ∧
      ∀ devices, read text = .ok devices →
        AreCoalesced name (rawLines text) devices ∧
          ∀ other, rawLines other = (rawLines text).filter (fun line => HasFigures line) →
            read other = .ok devices := by
  intro read tokens
  have hfails : ∀ fault, read text = .error fault ↔
      ∃ error, FirstOffence tokens error ∧ fault = .failed (.malformed error) :=
    readIoLines_eq_error_iff hname text
  refine ⟨?_, hfails, fun devices hread => ⟨?_, fun other => readIoLines_filter hname hread⟩⟩
  · rw [← exists_firstOffence_iff]
    constructor
    · rintro ⟨fault, hfault⟩
      obtain ⟨error, hfirst, -⟩ := (hfails fault).mp hfault
      exact ⟨error, hfirst⟩
    · rintro ⟨error, hfirst⟩
      exact ⟨_, (hfails _).mpr ⟨error, hfirst, rfl⟩⟩
  · rcases readIoLines_cases hname text with ⟨error, -, hread'⟩ | ⟨-, found, hfound, -, hall⟩
    · cases hread.symm.trans hread'
    · obtain rfl := Except.ok.inj (hfound.symm.trans hread)
      exact hall

/-- Figures stand before and behind the devices that they belong to, and the device `8:1` is listed
on two lines. -/
theorem readIoLines_coalesced_shared :
    let read (text : Text) :=
      (readIoLines DeviceDirectory.absent.name (Lines.ofBytes (encode text))).outcome default
    let text := "8:0 rbytes=1 8:1\n7:7\nrbytes=2 8:1 rbytes=5 wios=3\n".toList
    (∀ device, (DeviceDirectory.absent.name device : Probe ReadFailure Text).outcome default =
        .ok device.token) ∧
      ∃ devices, read text = .ok devices ∧
        devices.get? "8:1".toList = some ⟨⟨5, 0⟩, ⟨0, 3⟩, ⟨0, 0⟩⟩ ∧
        AreCoalesced BlockDevice.token (rawLines text) devices := by
  intro read text
  have hname : ∀ device,
      (DeviceDirectory.absent.name device : Probe ReadFailure Text).outcome default =
        .ok device.token := fun device => DeviceDirectory.outcome_name_absent device default
  let devices : TextMap IoDevice :=
    ⟨[("8:0".toList, ⟨⟨1, 0⟩, ⟨0, 0⟩, ⟨0, 0⟩⟩), ("8:1".toList, ⟨⟨5, 0⟩, ⟨0, 3⟩, ⟨0, 0⟩⟩)],
      by decide⟩
  have hread : read text = .ok devices := by
    simp only [read, Lines.ofBytes_encode]
    rfl
  exact ⟨hname, devices, hread, rfl, ((readIoLines_coalesced hname text).2.2 devices hread).1⟩

end Unified

end ProcessMeter
