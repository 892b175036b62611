import Mathlib.Data.List.Infix
import ProcessMeter.Cgroup.Membership
import ProcessMeter.Process.Network
import ProcessMeter.Proofs.CoalescedDevices
import ProcessMeter.Proofs.ConsideredPairs
import ProcessMeter.Proofs.FileReads

/-!
# The lines that complaints name

A complaint about the content of a file quotes a part of it and names a line. Every reader of
files with many lines counts all lines from the first one on, headings and blank lines included,
so the line of that number has what is quoted. Only a table of keys and values begins to count
behind its header.
-/

namespace ProcessMeter

namespace Text

/-- Both sides of a cut are parts of the text. -/
theorem isInfix_of_cut {separator : Char} {t before behind : Text}
    (h : cut separator t = some (before, behind)) : before <:+: t ∧ behind <:+: t := by
  obtain ⟨rfl, -⟩ := cut_eq_some_iff.mp h
  exact ⟨(List.prefix_append _ _).isInfix, ⟨before ++ [separator], [], by simp⟩⟩

/-- Pieces are parts of the text, and the first piece begins it. -/
private theorem isInfix_of_mem_splitWhere (p : Char → Bool) (t : Text) :
    ∃ first others, splitWhere p t = first :: others ∧ first <+: t ∧
      ∀ piece ∈ others, piece <:+: t := by
  induction t with
  | nil => exact ⟨[], [], rfl, List.prefix_rfl, by simp⟩
  | cons c rest ih =>
    obtain ⟨first, others, hsplit, hfirst, hothers⟩ := ih
    have hlonger : ∀ piece : Text, piece <:+: rest → piece <:+: c :: rest := fun piece h =>
      h.trans (List.suffix_cons c rest).isInfix
    cases hc : p c with
    | true =>
      refine ⟨[], first :: others, by simp [splitWhere, hc, hsplit], List.nil_prefix, ?_⟩
      exact List.forall_mem_cons.mpr
        ⟨hlonger first hfirst.isInfix, fun piece hpiece => hlonger piece (hothers piece hpiece)⟩
    | false =>
      refine ⟨c :: first, others, by simp [splitWhere, hc, hsplit], ?_,
        fun piece hpiece => hlonger piece (hothers piece hpiece)⟩
      exact (List.prefix_cons_inj c).mpr hfirst

/-- Words are parts of the text. -/
theorem isInfix_of_mem_words {word t : Text} (h : word ∈ words t) : word <:+: t := by
  obtain ⟨first, others, hsplit, hfirst, hothers⟩ := isInfix_of_mem_splitWhere isBlank t
  have hmem : word ∈ first :: others := hsplit ▸ (List.mem_filter.mp h).1
  rcases List.mem_cons.mp hmem with rfl | hmem
  · exact hfirst.isInfix
  · exact hothers word hmem

/-- A text without the white space at its end is part of it. -/
theorem isInfix_trimEnd (t : Text) : trimEnd t <:+: t := (isPrefix_trimEndWhile isBlank t).isInfix

/-- A text without the white space around it is part of it. -/
theorem isInfix_trim (t : Text) : trim t <:+: t :=
  (isInfix_trimEnd _).trans (List.dropWhile_suffix isBlank).isInfix

end Text

namespace KeyFormat

/-- The two sides of a couple are words. -/
private theorem mem_of_mem_couples {key value : Text} {words : List Text}
    (h : (key, value) ∈ couples words) : key ∈ words ∧ value ∈ words := by
  fun_induction couples words with
  | case1 first second rest ih =>
    rcases List.mem_cons.mp h with heq | h
    · obtain ⟨rfl, rfl⟩ := Prod.mk.inj heq
      simp
    · obtain ⟨hkey, hvalue⟩ := ih h
      exact ⟨by simp [hkey], by simp [hvalue]⟩
  | case2 => simp at h

/-- Key and value of a pair are parts of the line. -/
theorem isInfix_of_mem_pairs (format : KeyFormat) {key value line : Text}
    (h : (key, value) ∈ format.pairs line) : key <:+: line ∧ value <:+: line := by
  have hword : ∀ word ∈ (Text.words line).drop format.headerWords, word <:+: line :=
    fun word hmem => Text.isInfix_of_mem_words (List.mem_of_mem_drop hmem)
  unfold pairs at h
  cases hseparator : format.separator with
  | some c =>
    simp only [hseparator, List.mem_filterMap] at h
    obtain ⟨word, hmem, hcut⟩ := h
    have hpart : word <:+: line := by
      refine hword word ?_
      split at hmem
      · exact hmem
      · exact List.mem_of_mem_take hmem
    obtain ⟨hkey, hvalue⟩ := Text.isInfix_of_cut hcut
    exact ⟨hkey.trans hpart, hvalue.trans hpart⟩
  | none =>
    simp only [hseparator] at h
    have hmem : (key, value) ∈ couples ((Text.words line).drop format.headerWords) := by
      split at h
      · exact h
      · exact List.mem_of_mem_take h
    obtain ⟨hkey, hvalue⟩ := mem_of_mem_couples hmem
    exact ⟨hword key hkey, hword value hvalue⟩

end KeyFormat

namespace StatError

/-- The number of the line that a complaint names. -/
def line? : StatError → Option Nat
  | .duplicateField _ line => some line
  | .invalidKeyValue _ _ line _ => some line
  | .invalidValue _ line _ => some line
  | .invalidFloat _ _ line _ => some line
  | .invalidDevice _ line => some line
  | .missingField _ => none
  | .unexpectedFormat _ line => some line

/-- What a complaint quotes from the line that it names. -/
def quotes : StatError → List Text
  | .duplicateField field _ => [field]
  | .invalidKeyValue key value _ _ => [key, value]
  | .invalidValue value _ _ => [value]
  | .invalidFloat key value _ _ => [key, value]
  | .invalidDevice value _ => [value]
  | .missingField _ => []
  | .unexpectedFormat content _ => [content]

/-- The complaint names the line of the given number, and what it quotes is part of that line. -/
def IsAbout (error : StatError) (number : Nat) (line : Text) : Prop :=
  error.line? = some number ∧ ∀ part ∈ error.quotes, part <:+: line

/-- A complaint about part of a line is a complaint about the line. -/
theorem IsAbout.mono {error : StatError} {number : Nat} {part line : Text}
    (h : error.IsAbout number part) (hpart : part <:+: line) : error.IsAbout number line :=
  ⟨h.1, fun quote hquote => (h.2 quote hquote).trans hpart⟩

end StatError

open StatError

/-- A word that is no number is quoted as it stands. -/
theorem Scalar.isAbout_of_number {number : Nat} {value : Text} {error : StatError}
    (h : Scalar.number number value = .error error) : error.IsAbout number value := by
  unfold Scalar.number at h
  split at h
  · cases h
  · obtain rfl := Except.error.inj h
    exact ⟨rfl, by simp [quotes]⟩

/-- A loop that fails over lines that can be read fails at one of them. `Fails` is a way to fail
that a value does not have, and that a sequence has from one of its parts. -/
theorem Lines.exists_of_carry {m : Type → Type} [Monad m] {σ : Type} (Fails : m σ → Prop)
    (hpure : ∀ state, ¬ Fails (pure state))
    (hbind : ∀ (x : m σ) (f : σ → m σ), Fails (x >>= f) → Fails x ∨ ∃ state, Fails (f state))
    {unreadable : FileFailure → m σ} {step : Nat → Text → σ → m σ} {number : Nat} {state : σ}
    {lines : List Text} (h : Fails (carry unreadable step number state (lines.map .ok))) :
    ∃ index line state, lines[index]? = some line ∧ Fails (step (number + index) line state) := by
  induction lines generalizing number state with
  | nil => exact absurd h (hpure state)
  | cons line rest ih =>
    rw [List.map_cons, carry] at h
    rcases hbind _ _ h with h | ⟨next, h⟩
    · exact ⟨0, line, state, rfl, h⟩
    · obtain ⟨index, found, state, hfound, hfails⟩ := ih h
      refine ⟨index + 1, found, state, by simpa using hfound, ?_⟩
      rwa [show number + (index + 1) = number + 1 + index by omega]

/-- A loop over lines that can be read fails at one of the lines. -/
theorem Lines.exists_of_carry_except {ε σ : Type} {unreadable : FileFailure → Except ε σ}
    {step : Nat → Text → σ → Except ε σ} {number : Nat} {state : σ} {lines : List Text} {error : ε}
    (h : carry unreadable step number state (lines.map .ok) = .error error) :
    ∃ index line state, lines[index]? = some line ∧
      step (number + index) line state = .error error := by
  refine exists_of_carry (fun x : Except ε σ => x = .error error) ?_ ?_ h
  · intro state hpure
    cases hpure
  · intro x f hbind
    cases x with
    | error error => exact .inl hbind
    | ok state => exact .inr ⟨state, hbind⟩

/-- The same holds of a loop that asks the world at each line. -/
theorem Lines.exists_of_carry_probe {ε σ : Type} {unreadable : FileFailure → Probe ε σ}
    {step : Nat → Text → σ → Probe ε σ} {number : Nat} {state : σ} {lines : List Text} {w : World}
    {fault : Fault ε}
    (h : (carry unreadable step number state (lines.map .ok)).outcome w = .error fault) :
    ∃ index line state, lines[index]? = some line ∧
      (step (number + index) line state).outcome w = .error fault := by
  refine exists_of_carry (fun x : Probe ε σ => x.outcome w = .error fault) ?_ ?_ h
  · intro state hpure
    simp at hpure
  · intro x f hbind
    rcases Probe.outcome_bind_eq_error.mp hbind with hfirst | ⟨state, -, hnext⟩
    · exact .inl hfirst
    · exact .inr ⟨state, hnext⟩

/-- A loop of steps that complain about the line at hand. -/
theorem Lines.exists_of_foldLines {σ : Type} {step : Nat → Text → σ → Except StatError σ}
    {state : σ} {lines : List Text} {error : StatError}
    (h : foldLines step state (lines.map .ok) = .error (.malformed error)) :
    ∃ index line state, lines[index]? = some line ∧ step (1 + index) line state = .error error := by
  obtain ⟨index, line, state, hline, hfails⟩ := exists_of_carry_except h
  refine ⟨index, line, state, hline, ?_⟩
  split at hfails
  · cases hfails
  · next hstep => rw [hstep, ReadFailure.malformed.inj (Except.error.inj hfails)]

namespace KeyTable

variable {σ : Type} {table : KeyTable σ}

/-- Where the pairs of a line are refused, one of them is. -/
private theorem exists_of_takeAll {number : Nat} {progress : Progress σ}
    {pairs : List (Text × Text)} {error : StatError}
    (h : table.takeAll number progress pairs = .error error) :
    ∃ pair ∈ pairs, ∃ progress, table.take number progress pair = .error error := by
  induction pairs generalizing progress with
  | nil => simp [takeAll] at h
  | cons pair rest ih =>
    rw [takeAll] at h
    split at h
    · obtain ⟨found, hfound, hfails⟩ := ih h
      exact ⟨found, List.mem_cons_of_mem _ hfound, hfails⟩
    · next hstep => exact ⟨pair, List.mem_cons_self, progress, hstep.trans h⟩

/-- Where the lines of a table are refused, the pairs of one of them are. -/
private theorem exists_of_readFrom {number : Nat} {progress : Progress σ} {lines : List Text}
    {error : StatError}
    (h : table.readFrom number progress (lines.map .ok) = .error (.malformed error)) :
    ∃ index line progress, lines[index]? = some line ∧
      table.takeAll (number + index) progress (table.format.pairs line) = .error error := by
  induction lines generalizing number progress with
  | nil => simp [readFrom] at h
  | cons line rest ih =>
    rw [List.map_cons, readFrom] at h
    split at h
    · next hfails =>
      obtain rfl := ReadFailure.malformed.inj (Except.error.inj h)
      exact ⟨0, line, progress, rfl, hfails⟩
    · split at h
      · cases h
      · obtain ⟨index, found, next, hfound, hfails⟩ := ih h
        refine ⟨index + 1, found, next, by simpa using hfound, ?_⟩
        rwa [show number + (index + 1) = number + 1 + index by omega]

/-- What the table says itself, on the line of the given number, about a pair whose key is unknown.
-/
def Answers (table : KeyTable σ) (number : Nat) (line : Text) (error : StatError) : Prop :=
  ∃ key value, (key, value) ∈ table.format.pairs line ∧ key ∉ table.keys ∧
    table.unknown key value number = .error error

/-- A pair is refused for itself, or the table answers for its unknown key. -/
private theorem isAbout_of_take {number : Nat} {progress : Progress σ} {key value line : Text}
    (hpair : (key, value) ∈ table.format.pairs line) {error : StatError}
    (h : table.take number progress (key, value) = .error error) :
    error.IsAbout number line ∨ table.Answers number line error := by
  obtain ⟨hkey, hvalue⟩ := table.format.isInfix_of_mem_pairs hpair
  unfold take at h
  split at h
  · next hlookup =>
    split at h
    · cases h
    · next hanswer =>
      obtain rfl := Except.error.inj h
      refine .inr ⟨key, value, hpair, fun hmem => ?_, hanswer⟩
      obtain ⟨effect, heffect, -⟩ := exists_lookup_of_mem_keys hmem
      exact Option.some_ne_none effect (heffect.symm.trans hlookup)
  · left
    split at h
    · obtain rfl := Except.error.inj h
      exact ⟨rfl, by simp [quotes, hkey, hvalue]⟩
    · split at h
      · split at h
        · cases h
        · obtain rfl := Except.error.inj h
          exact ⟨rfl, by simp [quotes, hkey]⟩
      · cases h

/-- Where a table complains, it is about the line of that number behind the header, unless it
answers for an unknown key of that line. -/
theorem exists_line_of_read {fresh : σ} {text : Text} {error : StatError}
    (h : table.read fresh (Lines.ofBytes (Text.encode text)) = .error (.malformed error)) :
    ∃ index line, (Text.rawLines text)[table.format.headerLines + index]? = some line ∧
      (error.IsAbout (1 + index) line ∨ table.Answers (1 + index) line error) := by
  rw [Lines.ofBytes_encode, Lines.ofText, read, skipHeader_ok] at h
  obtain ⟨index, line, progress, hline, hfails⟩ := exists_of_readFrom h
  obtain ⟨pair, hpair, _, hfails⟩ := exists_of_takeAll hfails
  rw [List.getElem?_drop] at hline
  exact ⟨index, line, hline, isAbout_of_take hpair hfails⟩

end KeyTable

namespace Unified

/-- What offends in a line about devices is quoted from that line. -/
theorem Offends.isAbout {number : Nat} {word : Text} {error : StatError}
    (h : Offends number word error) : error.IsAbout number word := by
  cases h with
  | @figure key value cause hkey _ =>
    obtain ⟨hkey, hvalue⟩ := Text.isInfix_of_cut (Text.cut_append_cons hkey value)
    exact ⟨rfl, by simp [quotes, hkey, hvalue]⟩
  | device => exact ⟨rfl, by simp [quotes]⟩

/-- A complaint about a line about devices is about that line. -/
theorem isAbout_of_takeIoLine {nameOf : BlockDevice → Probe ReadFailure Text} {w : World}
    (hnamed : ∀ device, (nameOf device).Succeeds w) {number : Nat} {line : Text}
    {devices : TextMap IoDevice} {error : StatError}
    (h : (takeIoLine nameOf number line devices).outcome w = .error (.failed (.malformed error))) :
    error.IsAbout number line := by
  choose name hname using hnamed
  rcases takeIoLine_cases hname number line devices with ⟨first, hfirst, hfails⟩ | ⟨-, hline⟩
  · obtain rfl : first = error := by simpa using hfails.symm.trans h
    obtain ⟨front, token, behind, heq, -, hoffends⟩ := hfirst
    have htoken : token ∈ (Text.words line).map (number, ·) := heq ▸ by simp
    obtain ⟨word, hword, rfl⟩ := List.mem_map.mp htoken
    exact hoffends.isAbout.mono (Text.isInfix_of_mem_words hword)
  · obtain ⟨after, figures, hread, -⟩ := hline
    cases hread.symm.trans h

end Unified

namespace Legacy.DeviceColumn

/-- A complaint about a line of throttled operations quotes that line. -/
theorem isAbout_of_readLine {number : Nat} {text : Text} {error : StatError}
    (h : readLine number text = .error error) : error.IsAbout number text := by
  have hcontent : (StatError.unexpectedFormat (Text.trimEnd text) number).IsAbout number text :=
    ⟨rfl, by simpa [quotes] using Text.isInfix_trimEnd text⟩
  unfold readLine at h
  split at h
  · cases h
  · split at h
    · cases h
    · exact Except.error.inj h ▸ hcontent
  · next device operation value hwords =>
    have hdevice : device <:+: text := Text.isInfix_of_mem_words (hwords ▸ by simp)
    have hvalue : value <:+: text := Text.isInfix_of_mem_words (hwords ▸ by simp)
    split at h
    · obtain rfl := Except.error.inj h
      exact ⟨rfl, by simp [quotes, hdevice]⟩
    · split at h
      · next hnumber =>
        obtain rfl := Except.error.inj h
        exact (Scalar.isAbout_of_number hnumber).mono hvalue
      · cases h
  · exact Except.error.inj h ▸ hcontent

/-- A complaint about such a line is about the line at hand. -/
theorem isAbout_of_takeLine {nameOf : BlockDevice → Probe ReadFailure Text} {w : World}
    (hnamed : ∀ device, (nameOf device).Succeeds w) {number : Nat} {line : Text}
    {columns : TextMap DeviceColumn} {error : StatError}
    (h : (takeLine nameOf number line columns).outcome w = .error (.failed (.malformed error))) :
    error.IsAbout number line := by
  unfold takeLine at h
  split at h
  · next hread =>
    rw [Probe.outcome_fail] at h
    obtain rfl := ReadFailure.malformed.inj (Fault.failed.inj (Except.error.inj h))
    exact isAbout_of_readLine hread
  · simp at h
  · next device _ _ _ =>
    obtain ⟨name, hname⟩ := hnamed device
    rw [Probe.outcome_bind_of_ok hname] at h
    simp at h

end Legacy.DeviceColumn

namespace Pressure

/-- A complaint about a figure of waiting quotes its word. -/
private theorem isAbout_of_takeWord {number : Nat} {stall : Stall} {word : Text} {error : StatError}
    (h : takeWord number stall word = .error error) : error.IsAbout number word := by
  unfold takeWord at h
  split at h
  · cases h
  · next key value hcut =>
    obtain ⟨hkey, hvalue⟩ := Text.isInfix_of_cut hcut
    have haverage {put : Double → Stall}
        (hfails : (average number key value).map put = .error error) :
        error.IsAbout number word := by
      unfold average at hfails
      split at hfails
      · cases hfails
      · obtain rfl := Except.error.inj hfails
        exact ⟨rfl, by simp [quotes, hkey, hvalue]⟩
    have htotal {put : Nat → Stall}
        (hfails : (Scalar.number number value).map put = .error error) :
        error.IsAbout number word := by
      cases hnumber : Scalar.number number value with
      | ok n => simp [hnumber, Except.map] at hfails
      | error cause =>
        obtain rfl : cause = error := by simpa [hnumber, Except.map] using hfails
        exact (Scalar.isAbout_of_number hnumber).mono hvalue
    split_ifs at h
    · exact haverage h
    · exact haverage h
    · exact haverage h
    · exact htotal h

/-- Where the figures of a line are refused, one of them is. -/
private theorem exists_of_takeWords {number : Nat} {stall : Stall} {words : List Text}
    {error : StatError} (h : takeWords number stall words = .error error) :
    ∃ word ∈ words, error.IsAbout number word := by
  induction words generalizing stall with
  | nil => simp [takeWords] at h
  | cons word rest ih =>
    rw [takeWords] at h
    split at h
    · obtain ⟨found, hfound, habout⟩ := ih h
      exact ⟨found, List.mem_cons_of_mem _ hfound, habout⟩
    · next hword =>
      exact ⟨word, List.mem_cons_self, isAbout_of_takeWord (hword.trans h)⟩

/-- A complaint about a line of a pressure file is about that line. -/
private theorem isAbout_of_takeLine {number : Nat} {text : Text} {progress : Progress}
    {error : StatError} (h : takeLine number text progress = .error error) :
    error.IsAbout number text := by
  unfold takeLine at h
  split at h
  · cases h
  · next kind words hwords =>
    have hstall {put : Stall → Progress}
        (hfails : (takeWords number .none words).map put = .error error) :
        error.IsAbout number text := by
      cases hline : takeWords number .none words with
      | ok stall => simp [hline, Except.map] at hfails
      | error cause =>
        obtain rfl : cause = error := by simpa [hline, Except.map] using hfails
        obtain ⟨word, hword, habout⟩ := exists_of_takeWords hline
        exact habout.mono (Text.isInfix_of_mem_words (hwords ▸ List.mem_cons_of_mem _ hword))
    split_ifs at h
    · exact hstall h
    · exact hstall h
    · obtain rfl := Except.error.inj h
      exact ⟨rfl, by simpa [quotes] using Text.isInfix_trimEnd text⟩

end Pressure

namespace Membership

/-- A complaint about a line of a membership file quotes that line. -/
private theorem isAbout_of_readLine {number : Nat} {line : Text} {error : StatError}
    (h : readLine number line = .error error) : error.IsAbout number line := by
  unfold readLine at h
  split at h
  · obtain rfl := Except.error.inj h
    exact ⟨rfl, by simp [quotes]⟩
  · next hierarchy controllers path hfields =>
    split at h
    · next hnumber =>
      obtain rfl := Except.error.inj h
      have hpart : hierarchy <:+: line := by
        unfold fields? at hfields
        split at hfields
        · cases hfields
        · next first rest hcut =>
          obtain ⟨_, -, heq⟩ := Option.map_eq_some_iff.mp hfields
          obtain rfl : first = hierarchy := congrArg Prod.fst heq
          exact (Text.isInfix_of_cut hcut).1
      exact (Scalar.isAbout_of_number hnumber).mono hpart
    · cases h

/-- A complaint about such a line is about the line at hand. -/
private theorem isAbout_of_takeLine {number : Nat} {line : Text} {found : List Membership}
    {error : StatError} (h : takeLine number line found = .error error) :
    error.IsAbout number line := by
  simp only [takeLine] at h
  split at h
  · cases h
  · split at h
    · cases h
    · next hread =>
      obtain rfl := Except.error.inj h
      exact (isAbout_of_readLine hread).mono (Text.isPrefix_trimEndWhile _ line).isInfix

end Membership

namespace NetworkCounters

/-- Where a list of numbers is refused, one of its words is. -/
private theorem exists_of_mapM_number {number : Nat} {words : List Text} {error : StatError}
    (h : words.mapM (Scalar.number number) = .error error) :
    ∃ word ∈ words, Scalar.number number word = .error error := by
  induction words with
  | nil => cases h
  | cons word rest ih =>
    rw [List.mapM_cons] at h
    cases hword : Scalar.number number word with
    | error cause =>
      rw [hword] at h
      obtain rfl : cause = error := Except.error.inj h
      exact ⟨word, List.mem_cons_self, hword⟩
    | ok figure =>
      cases hrest : rest.mapM (Scalar.number number) with
      | ok figures =>
        rw [hword, hrest] at h
        cases h
      | error cause =>
        rw [hword, hrest] at h
        obtain rfl : cause = error := Except.error.inj h
        obtain ⟨found, hfound, hfails⟩ := ih hrest
        exact ⟨found, List.mem_cons_of_mem _ hfound, hfails⟩

/-- A complaint about a row of network counters quotes that row. -/
private theorem isAbout_of_readLine {number : Nat} {text : Text} {error : StatError}
    (h : readLine number text = .error error) : error.IsAbout number text := by
  have htrim := Text.isInfix_trim text
  simp only [readLine] at h
  split at h
  · obtain rfl := Except.error.inj h
    exact ⟨rfl, by simpa [quotes] using htrim⟩
  · next name figures hcut =>
    split at h
    · next hcolumns =>
      obtain rfl := Except.error.inj h
      obtain ⟨word, hword, hnumber⟩ := exists_of_mapM_number hcolumns
      have hpart : word <:+: Text.trim text :=
        (Text.isInfix_of_mem_words hword).trans (Text.isInfix_of_cut hcut).2
      exact (Scalar.isAbout_of_number hnumber).mono (hpart.trans htrim)
    · split at h
      · obtain rfl := Except.error.inj h
        exact ⟨rfl, by simpa [quotes] using htrim⟩
      · cases h

/-- A complaint about such a row is about the line at hand. -/
private theorem isAbout_of_takeLine {number : Nat} {text : Text} {counters : NetworkCounters}
    {error : StatError} (h : takeLine number text counters = .error (.failed (.malformed error))) :
    error.IsAbout number text := by
  unfold takeLine at h
  split at h
  · cases h
  · split at h
    · next hread =>
      obtain rfl := ReadFailure.malformed.inj (Fault.failed.inj (Except.error.inj h))
      exact isAbout_of_readLine hread
    · split at h <;> cases h

end NetworkCounters

open Text

/-- A way to name block devices that knows a name for each of them. -/
structure DeviceNaming where
  /-- The name of a device. -/
  nameOf : BlockDevice → Probe ReadFailure Text
  /-- No device is without a name. -/
  named : ∀ w device, (nameOf device).Succeeds w

/-- A directory of devices names those that it does not know by their tokens. -/
def DeviceDirectory.naming (names : DeviceDirectory) : DeviceNaming where
  nameOf := names.name
  named w device := ⟨_, names.outcome_name device w⟩

/-- The readers of files with many lines whose complaints name a line. -/
inductive LineReading : Type 1 where
  /-- Keys and values, whatever their layout. -/
  | keyed {σ : Type} (table : KeyTable σ) (fresh : σ)
  /-- Block devices of version 2. -/
  | unifiedIo (naming : DeviceNaming)
  /-- Block devices of version 1. -/
  | throttle (naming : DeviceNaming)
  | pressure
  | membership
  | network

namespace LineReading

/-- The content of a file is refused with the complaint. -/
def Refuses (reading : LineReading) (w : World) (text : Text) (error : StatError) : Prop :=
  let lines := Lines.ofBytes (encode text)
  match reading with
  | .keyed table fresh => table.read fresh lines = .error (.malformed error)
  | .unifiedIo naming =>
    (Unified.readIoLines naming.nameOf lines).outcome w = .error (.failed (.malformed error))
  | .throttle naming =>
    (Legacy.DeviceColumn.readLines naming.nameOf lines).outcome w =
      .error (.failed (.malformed error))
  | .pressure => Pressure.readLines lines = .error (.malformed error)
  | .membership => Membership.readAll lines = .error (.malformed error)
  | .network => NetworkCounters.readLines lines = .error (.failed (.malformed error))

/-- The number of lines before the one that is called the first. -/
def uncounted : LineReading → Nat
  | .keyed table _ => table.format.headerLines
  | _ => 0

/-- The complaint is the table's own answer for an unknown key of the file. -/
def PassesOn (reading : LineReading) (text : Text) (error : StatError) : Prop :=
  match reading with
  | .keyed table _ => ∃ (index : Nat) (line : Text),
      (rawLines text)[table.format.headerLines + index]? = some line ∧
        table.Answers (1 + index) line error
  | _ => False

/-- A complaint that names a line is about that line of the file, or is the table's own answer. -/
private theorem exists_isAbout {reading : LineReading} {w : World} {text : Text} {error : StatError}
    (h : reading.Refuses w text error) (hnumber : error.line?.isSome) :
    (∃ (index : Nat) (line : Text), (rawLines text)[reading.uncounted + index]? = some line ∧
      error.IsAbout (1 + index) line) ∨ reading.PassesOn text error := by
  cases reading with
  | keyed table fresh =>
    obtain ⟨index, line, hline, habout | hanswers⟩ := KeyTable.exists_line_of_read h
    · exact .inl ⟨index, line, hline, habout⟩
    · exact .inr ⟨index, line, hline, hanswers⟩
  | unifiedIo naming =>
    rw [Refuses, Lines.ofBytes_encode, Lines.ofText] at h
    obtain ⟨index, line, devices, hline, hfails⟩ := Lines.exists_of_carry_probe h
    refine .inl ⟨index, line, by simpa [uncounted] using hline, ?_⟩
    exact Unified.isAbout_of_takeIoLine (naming.named w) hfails
  | throttle naming =>
    rw [Refuses, Lines.ofBytes_encode, Lines.ofText] at h
    obtain ⟨index, line, columns, hline, hfails⟩ := Lines.exists_of_carry_probe h
    refine .inl ⟨index, line, by simpa [uncounted] using hline, ?_⟩
    exact Legacy.DeviceColumn.isAbout_of_takeLine (naming.named w) hfails
  | pressure =>
    rw [Refuses, Lines.ofBytes_encode, Lines.ofText, Pressure.readLines] at h
    split at h
    · next failure hfails =>
      obtain rfl := Except.error.inj h
      obtain ⟨index, line, progress, hline, hfails⟩ := Lines.exists_of_foldLines hfails
      refine .inl ⟨index, line, by simpa [uncounted] using hline, ?_⟩
      exact Pressure.isAbout_of_takeLine hfails
    · -- a file without the line `some` is refused as a whole
      split at h
      · cases h
      · obtain rfl := ReadFailure.malformed.inj (Except.error.inj h)
        cases hnumber
  | membership =>
    rw [Refuses, Lines.ofBytes_encode, Lines.ofText] at h
    obtain ⟨index, line, found, hline, hfails⟩ := Lines.exists_of_foldLines h
    refine .inl ⟨index, line, by simpa [uncounted] using hline, ?_⟩
    exact Membership.isAbout_of_takeLine hfails
  | network =>
    rw [Refuses, Lines.ofBytes_encode, Lines.ofText] at h
    obtain ⟨index, line, counters, hline, hfails⟩ := Lines.exists_of_carry_except h
    refine .inl ⟨index, line, by simpa [uncounted] using hline, ?_⟩
    exact NetworkCounters.isAbout_of_takeLine hfails

/-- **Named lines.** Where a reader complains about line `number`, that line of the file has all
that the complaint quotes. A table of keys and values counts from the end of its header, all others
from the start of the file. What a table says itself about unknown keys is passed on as it is. -/
theorem exists_line_of_refuses (reading : LineReading) (w : World) (text : Text) (error : StatError)
    (hrefuses : reading.Refuses w text error) (number : Nat) (hnumber : error.line? = some number) :
    (0 < number ∧ ∃ line, (rawLines text)[reading.uncounted + number - 1]? = some line ∧
      ∀ part ∈ error.quotes, part <:+: line) ∨ reading.PassesOn text error := by
  refine (exists_isAbout hrefuses (by rw [hnumber]; rfl)).imp_left ?_
  rintro ⟨index, line, hline, hcount, hquotes⟩
  obtain rfl : 1 + index = number := Option.some.inj (hcount.symm.trans hnumber)
  have hindex : reading.uncounted + (1 + index) - 1 = reading.uncounted + index := by omega
  exact ⟨by omega, line, by rwa [hindex], hquotes⟩

/-- Headings and blank lines count, so the fourth line is named. -/
theorem exists_line_of_refuses_network :
    let text := "face\nbytes\n\n eth0 12\n".toList
    let error := StatError.unexpectedFormat "eth0 12".toList 4
    network.Refuses default text error ∧ error.line? = some 4 ∧
      ((0 < 4 ∧ ∃ line, (rawLines text)[network.uncounted + 4 - 1]? = some line ∧
        ∀ part ∈ error.quotes, part <:+: line) ∨ network.PassesOn text error) := by
  intro text error
  have hrefuses : network.Refuses default text error := by
    rw [Refuses, Lines.ofBytes_encode]
    decide
  exact ⟨hrefuses, rfl, exists_line_of_refuses network default text error hrefuses 4 rfl⟩

/-- The value stands on the second line, behind a heading, and the complaint names the first. -/
theorem exists_line_of_refuses_heading :
    let text := "figures\nsda alpha=x\n".toList
    (keyed KeyTable.twoFigures (0, 0)).Refuses default text
        (.invalidKeyValue "alpha".toList "x".toList 1 .invalidDigit) ∧
      (rawLines text)[0]? = some "figures\n".toList ∧
      ¬ "alpha".toList <:+: "figures\n".toList ∧ ¬ "x".toList <:+: "figures\n".toList := by
  intro text
  have hrefuses : (keyed KeyTable.twoFigures (0, 0)).Refuses default text
      (.invalidKeyValue "alpha".toList "x".toList 1 .invalidDigit) := by
    rw [Refuses, Lines.ofBytes_encode]
    decide
  exact ⟨hrefuses, by decide, by decide, by decide⟩

end LineReading

end ProcessMeter
