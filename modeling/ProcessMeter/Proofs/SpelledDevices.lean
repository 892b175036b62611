import ProcessMeter.Cgroup.Legacy.BlockIo
import ProcessMeter.Cgroup.Unified.Io
import ProcessMeter.Proofs.CounterSums
import ProcessMeter.Proofs.SpelledFiles
import ProcessMeter.Proofs.TextMaps

/-!
# How the kernel spells the figures of block devices

Both versions list block devices by the token of their numbers, in any order. The file of version 2
has one line for each device, the two files of version 1 have several. Where devices go by their
tokens, the readers put together the very map that was written.
-/

namespace ProcessMeter

open Probe

/-- The token of a device: its numbers around a colon. -/
def BlockDevice.IsToken (token : Text) : Prop :=
  ∃ major minor, major ≤ Numeral.max32 ∧ minor ≤ Numeral.max32 ∧
    token = Numeral.write major ++ ':' :: Numeral.write minor

namespace BlockDevice.IsToken

variable {token : Text}

/-- The token of a device is one word. -/
theorem isWord (h : IsToken token) : Text.IsWord token := by
  obtain ⟨major, minor, -, -, rfl⟩ := h
  refine ⟨by simp, List.forall_mem_append.mpr ⟨(Numeral.isWord_write major).2, ?_⟩⟩
  exact List.forall_mem_cons.mpr ⟨by decide, (Numeral.isWord_write minor).2⟩

/-- A token is read as the device that goes by it. -/
theorem exists_read? (h : IsToken token) :
    ∃ device, BlockDevice.read? token = some device ∧ device.token = token := by
  obtain ⟨major, minor, hmajor, hminor, rfl⟩ := h
  have hcut : Text.cut ':' (Numeral.write major ++ ':' :: Numeral.write minor) = _ :=
    Text.cut_append_cons (Numeral.not_mem_write (by decide) major) _
  refine ⟨⟨major, minor, _⟩, ?_, rfl⟩
  simp only [BlockDevice.read?, hcut, Numeral.read32, Numeral.readUpTo_write hmajor,
    Numeral.readUpTo_write hminor]

/-- On a line of version 2 a token is a device. -/
theorem ioWord_read (h : IsToken token) (line : Nat) :
    ∃ device, Unified.IoWord.read line token = .ok (.device device) ∧ device.token = token := by
  obtain ⟨device, hread, htoken⟩ := h.exists_read?
  refine ⟨device, ?_, htoken⟩
  obtain ⟨major, minor, -, -, rfl⟩ := h
  have hequals : Text.cut '=' (Numeral.write major ++ ':' :: Numeral.write minor) = none := by
    have hnot : '=' ∉ Numeral.write major ++ ':' :: Numeral.write minor := by
      simp [Numeral.not_mem_write (show '='.isDigit = false by decide)]
    exact Text.cut_eq_none_iff.mpr hnot
  simp [Unified.IoWord.read, hequals, hread]

end BlockDevice.IsToken

/-- A device goes by the name that is found for it, or else by its token. -/
theorem DeviceDirectory.outcome_name {ε : Type} (names : DeviceDirectory) (device : BlockDevice)
    (w : World) : (names.name device : Probe ε Text).outcome w =
      .ok ((names.find? w.files device.major device.minor).getD device.token) := by
  rw [name, outcome_bind_of_ok (outcome_files w)]
  cases names.find? w.files device.major device.minor <;> rfl

/-- Without a directory of devices, a device goes by its token. -/
theorem DeviceDirectory.outcome_name_absent {ε : Type} (device : BlockDevice) (w : World) :
    (absent.name device : Probe ε Text).outcome w = .ok device.token :=
  absent.outcome_name device w

/-- A loop over printed lines goes through what they are printed from. -/
private theorem Lines.outcome_carry_print {ε σ ι : Type} {unreadable : FileFailure → Probe ε σ}
    {step : Nat → Text → σ → Probe ε σ} {print : ι → Text} (next : σ → ι → σ) {w : World}
    {items : List ι}
    (hstep : ∀ item ∈ items, ∀ number state,
      (step number (print item) state).outcome w = .ok (next state item))
    (number : Nat) (state : σ) :
    (Lines.carry unreadable step number state (items.map fun item => .ok (print item))).outcome w =
      .ok (items.foldl next state) := by
  induction items generalizing number state with
  | nil => rfl
  | cons item rest ih =>
    obtain ⟨hitem, hrest⟩ := List.forall_mem_cons.mp hstep
    exact (outcome_bind_of_ok (hitem number state) _).trans (ih hrest (number + 1) _)

namespace Unified

namespace IoDevice

/-- The figures of a device are numbers of 64 bits. -/
def Fits (device : IoDevice) : Prop :=
  device.read.bytes ≤ Numeral.max64 ∧ device.write.bytes ≤ Numeral.max64 ∧
    device.read.operations ≤ Numeral.max64 ∧ device.write.operations ≤ Numeral.max64 ∧
    device.discarded.bytes ≤ Numeral.max64 ∧ device.discarded.operations ≤ Numeral.max64

/-- The words on the line of a device. -/
def words (token : Text) (device : IoDevice) : List Text :=
  [token, Text.figure "rbytes" (Numeral.write device.read.bytes),
    Text.figure "wbytes" (Numeral.write device.write.bytes),
    Text.figure "rios" (Numeral.write device.read.operations),
    Text.figure "wios" (Numeral.write device.write.operations),
    Text.figure "dbytes" (Numeral.write device.discarded.bytes),
    Text.figure "dios" (Numeral.write device.discarded.operations)]

/-- A file with a line for each device, in any order. -/
def Spells (text : Text) (devices : TextMap IoDevice) : Prop :=
  ∃ order : List (Text × IoDevice), order.Perm devices.entries ∧
    (∀ e ∈ order, BlockDevice.IsToken e.1 ∧ e.2.Fits) ∧
    text = order.flatMap fun e => Text.printLine (words e.1 e.2)

/-- The words that are printed for a device are words. -/
private theorem isWord_of_mem_words {token : Text} (h : BlockDevice.IsToken token)
    (device : IoDevice) : ∀ part ∈ words token device, Text.IsWord part := by
  have hfigure {key : String} (hkey : ∀ c ∈ key.toList, Text.isBlank c = false) (n : Nat) :
      Text.IsWord (Text.figure key (Numeral.write n)) :=
    Text.isWord_figure hkey (Numeral.isWord_write n)
  simp only [words, List.forall_mem_cons]
  exact ⟨h.isWord, hfigure (by decide) _, hfigure (by decide) _, hfigure (by decide) _,
    hfigure (by decide) _, hfigure (by decide) _, hfigure (by decide) _, by simp⟩

/-- A figure behind a key is read back. -/
private theorem ioWord_read_figure (line : Nat) {key : String} (hkey : '=' ∉ key.toList) {n : Nat}
    (hn : n ≤ Numeral.max64) :
    IoWord.read line (Text.figure key (Numeral.write n)) = .ok (.figure key.toList n) := by
  simp only [IoWord.read, Text.cut_figure hkey, Numeral.read64, Numeral.readUpTo_write hn]

/-- The line of a device puts its figures under its token. -/
private theorem outcome_takeIoLine {token : Text} (htoken : BlockDevice.IsToken token)
    {device : IoDevice} (hfits : device.Fits) (number : Nat) (devices : TextMap IoDevice)
    (w : World) :
    (takeIoLine DeviceDirectory.absent.name number (Text.printLine (words token device))
      devices).outcome w = .ok (devices.insert token device) := by
  obtain ⟨found, hfound, rfl⟩ := htoken.ioWord_read number
  obtain ⟨h₁, h₂, h₃, h₄, h₅, h₆⟩ := hfits
  have hline : (IoLine.takeWords DeviceDirectory.absent.name number .start
      (words found.token device)).outcome w = .ok ⟨[found.token], device, true⟩ := by
    simp only [words, IoLine.takeWords, hfound]
    rw [outcome_bind_of_ok (DeviceDirectory.outcome_name_absent found w)]
    simp only [ioWord_read_figure number (show '=' ∉ "rbytes".toList by decide) h₁,
      ioWord_read_figure number (show '=' ∉ "wbytes".toList by decide) h₂,
      ioWord_read_figure number (show '=' ∉ "rios".toList by decide) h₃,
      ioWord_read_figure number (show '=' ∉ "wios".toList by decide) h₄,
      ioWord_read_figure number (show '=' ∉ "dbytes".toList by decide) h₅,
      ioWord_read_figure number (show '=' ∉ "dios".toList by decide) h₆]
    rfl
  rw [takeIoLine, Text.words_printLine (isWord_of_mem_words htoken device),
    outcome_bind_of_ok hline]
  rfl

/-- The map of devices is read back. -/
theorem outcome_readIoLines {text : Text} {devices : TextMap IoDevice} (h : Spells text devices)
    (w : World) :
    (readIoLines DeviceDirectory.absent.name (Lines.ofBytes (Text.encode text))).outcome w =
      .ok devices := by
  obtain ⟨order, hperm, horder, rfl⟩ := h
  have hwords : ∀ e ∈ order, ∀ part ∈ words e.1 e.2, Text.IsWord part := fun e he =>
    isWord_of_mem_words (horder e he).1 e.2
  rw [Lines.ofBytes_encode, Lines.ofText, Text.rawLines_flatMap_printLine hwords, List.map_map,
    ← TextMap.foldl_insert_perm hperm]
  exact Lines.outcome_carry_print (fun devices e => devices.insert e.1 e.2)
    (fun e he number state => outcome_takeIoLine (horder e he).1 (horder e he).2 number state w) 1 _

end IoDevice

end Unified

namespace Legacy

namespace DeviceColumn

/-- Operations of a device beside reading, writing and the total, with their figures. -/
def AreOthers (others : List (Text × Nat)) : Prop :=
  ∀ o ∈ others, Text.IsWord o.1 ∧ o.2 ≤ Numeral.max64 ∧
    o.1 ∉ ["Read".toList, "Write".toList, "Total".toList]

/-- The operations of a device in the order of their lines. -/
def operations (column : DeviceColumn) (others : List (Text × Nat)) : List (Text × Nat) :=
  ("Read".toList, column.read) :: ("Write".toList, column.write) ::
    (others ++ [("Total".toList, column.total)])

/-- A file with the lines of each device, in any order, and a line with a grand total. -/
def Spells (text : Text) (columns : TextMap DeviceColumn) : Prop :=
  ∃ (order : List (Text × DeviceColumn)) (others : Text → List (Text × Nat)) (grand : Nat),
    order.Perm columns.entries ∧
    (∀ e ∈ order, BlockDevice.IsToken e.1 ∧ e.2.read ≤ Numeral.max64 ∧
      e.2.write ≤ Numeral.max64 ∧ e.2.total ≤ Numeral.max64 ∧ AreOthers (others e.1)) ∧
    text = (order.flatMap fun e => (e.2.operations (others e.1)).flatMap fun o =>
      Text.printLine [e.1, o.1, Numeral.write o.2]) ++
      Text.printLine ["Total".toList, Numeral.write grand]

/-- A line of a throttle file: a device with an operation and its figure, or the grand total. -/
private inductive Item where
  | figure (token operation : Text) (value : Nat)
  | grandTotal (value : Nat)

namespace Item

/-- The words of a line. -/
private def words : Item → List Text
  | .figure token operation value => [token, operation, Numeral.write value]
  | .grandTotal value => ["Total".toList, Numeral.write value]

/-- What a line can be read for. -/
private def Fits : Item → Prop
  | .figure token operation value =>
    BlockDevice.IsToken token ∧ Text.IsWord operation ∧ value ≤ Numeral.max64
  | .grandTotal _ => True

/-- What a line does to the columns. -/
private def putIn (columns : TextMap DeviceColumn) : Item → TextMap DeviceColumn
  | .figure token operation value => columns.update token zero (withOperation operation value)
  | .grandTotal _ => columns

/-- The words of an item that fits are words. -/
private theorem isWord_of_mem_words {item : Item} (h : item.Fits) :
    ∀ part ∈ item.words, Text.IsWord part := by
  cases item with
  | figure token operation value => simp [words, h.1.isWord, h.2.1, Numeral.isWord_write]
  | grandTotal value =>
    have htotal : Text.IsWord "Total".toList := by decide
    simp only [words, List.forall_mem_cons]
    exact ⟨htotal, Numeral.isWord_write value, by simp⟩

/-- The line of an item is taken as that item. -/
private theorem outcome_takeLine {item : Item} (h : item.Fits) (number : Nat)
    (columns : TextMap DeviceColumn) (w : World) :
    (takeLine DeviceDirectory.absent.name number (Text.printLine item.words) columns).outcome w =
      .ok (item.putIn columns) := by
  have hwords := Text.words_printLine (isWord_of_mem_words h)
  cases item with
  | grandTotal value =>
    have hline : readLine number (Text.printLine (words (.grandTotal value))) = .ok .idle := by
      rw [readLine, hwords]
      rfl
    rw [takeLine, hline]
    rfl
  | figure token operation value =>
    obtain ⟨htoken, -, hvalue⟩ := h
    obtain ⟨device, hread, rfl⟩ := htoken.exists_read?
    have hline : readLine number (Text.printLine (words (.figure device.token operation value))) =
        .ok (.figure device operation value) := by
      rw [readLine, hwords]
      simp only [words, hread, Scalar.number_write number hvalue]
    rw [takeLine, hline]
    exact outcome_bind_of_ok (DeviceDirectory.outcome_name_absent device w) _

end Item

/-- The lines of a device. -/
private def items (others : Text → List (Text × Nat)) (e : Text × DeviceColumn) : List Item :=
  (e.2.operations (others e.1)).map fun o => .figure e.1 o.1 o.2

/-- The lines of a file. -/
private def allItems (order : List (Text × DeviceColumn)) (others : Text → List (Text × Nat))
    (grand : Nat) : List Item :=
  order.flatMap (items others) ++ [.grandTotal grand]

/-- Operations of a device that is there change its column. -/
private theorem foldl_update (columns : TextMap DeviceColumn) (token : Text)
    (operations : List (Text × Nat)) (column : DeviceColumn) :
    operations.foldl (fun m o => m.update token zero (withOperation o.1 o.2))
        (columns.insert token column) =
      columns.insert token (operations.foldl (fun c o => c.withOperation o.1 o.2) column) := by
  induction operations generalizing column with
  | nil => rfl
  | cons o rest ih =>
    have hupdate : (columns.insert token column).update token zero (withOperation o.1 o.2) =
        columns.insert token (column.withOperation o.1 o.2) := by
      rw [TextMap.update, TextMap.get?_insert, if_pos rfl, Option.getD_some,
        TextMap.insert_insert]
    rw [List.foldl_cons, hupdate, ih, List.foldl_cons]

/-- Other operations change nothing. -/
private theorem foldl_withOperation_others {others : List (Text × Nat)} (h : AreOthers others)
    (column : DeviceColumn) :
    others.foldl (fun c o => c.withOperation o.1 o.2) column = column := by
  induction others generalizing column with
  | nil => rfl
  | cons o rest ih =>
    obtain ⟨⟨-, -, hname⟩, hrest⟩ := List.forall_mem_cons.mp h
    simp only [List.mem_cons, List.not_mem_nil, or_false, not_or] at hname
    obtain ⟨hread, hwrite, htotal⟩ := hname
    have hkept : column.withOperation o.1 o.2 = column := by
      rw [withOperation, if_neg hread, if_neg hwrite, if_neg htotal]
    rw [List.foldl_cons, hkept, ih hrest]

/-- The lines of a device put its column under its token, whatever was there. -/
private theorem foldl_items {others : Text → List (Text × Nat)} {e : Text × DeviceColumn}
    (hothers : AreOthers (others e.1)) (columns : TextMap DeviceColumn) :
    (items others e).foldl Item.putIn columns = columns.insert e.1 e.2 := by
  rw [items, List.foldl_map, operations, List.foldl_cons]
  refine (foldl_update columns e.1 _ _).trans (congrArg (columns.insert e.1) ?_)
  rw [List.foldl_cons, List.foldl_append, foldl_withOperation_others hothers]
  rfl

/-- The columns of all devices are read back. -/
theorem outcome_readLines {text : Text} {columns : TextMap DeviceColumn} (h : Spells text columns)
    (w : World) :
    (readLines DeviceDirectory.absent.name (Lines.ofBytes (Text.encode text))).outcome w =
      .ok columns := by
  obtain ⟨order, others, grand, hperm, horder, rfl⟩ := h
  have hfits : ∀ item ∈ allItems order others grand, item.Fits := by
    refine List.forall_mem_append.mpr ⟨?_, by simp [Item.Fits]⟩
    simp only [List.mem_flatMap, items, List.mem_map]
    rintro item ⟨e, he, o, ho, rfl⟩
    obtain ⟨htoken, hread, hwrite, htotal, hothers⟩ := horder e he
    refine ⟨htoken, ?_⟩
    simp only [operations, List.mem_cons, List.mem_append, List.not_mem_nil, or_false] at ho
    rcases ho with rfl | rfl | ho | rfl
    · exact ⟨show Text.IsWord "Read".toList by decide, hread⟩
    · exact ⟨show Text.IsWord "Write".toList by decide, hwrite⟩
    · exact ⟨(hothers o ho).1, (hothers o ho).2.1⟩
    · exact ⟨show Text.IsWord "Total".toList by decide, htotal⟩
  have htext : (order.flatMap fun e => (e.2.operations (others e.1)).flatMap fun o =>
        Text.printLine [e.1, o.1, Numeral.write o.2]) ++
        Text.printLine ["Total".toList, Numeral.write grand] =
      (allItems order others grand).flatMap fun item => Text.printLine item.words := by
    simp [allItems, List.flatMap_assoc, items, List.flatMap_map, Item.words, -String.reduceToList]
  rw [htext, Lines.ofBytes_encode, Lines.ofText,
    Text.rawLines_flatMap_printLine fun item hitem => Item.isWord_of_mem_words (hfits item hitem),
    List.map_map, readLines]
  refine (Lines.outcome_carry_print Item.putIn
    (fun item hitem number state => Item.outcome_takeLine (hfits item hitem) number state w)
    1 _).trans ?_
  rw [allItems, List.foldl_append, List.foldl_flatMap,
    List.foldl_ext _ (fun m e => m.insert e.1 e.2) _
      fun m e he => foldl_items (horder e he).2.2.2.2 m,
    TextMap.foldl_insert_perm hperm]
  rfl

end DeviceColumn

namespace BlockIoDevice

/-- The octets of a device. -/
def octets (device : BlockIoDevice) : DeviceColumn :=
  ⟨device.read.bytes, device.write.bytes, device.total.bytes⟩

/-- The operations of a device. -/
def operations (device : BlockIoDevice) : DeviceColumn :=
  ⟨device.read.operations, device.write.operations, device.total.operations⟩

end BlockIoDevice

/-- The two files of a map of devices are put together to the map. -/
theorem BlockIo.merge_mapValues (devices : TextMap BlockIoDevice) :
    merge (devices.mapValues BlockIoDevice.octets) (devices.mapValues BlockIoDevice.operations) =
      devices := by
  refine TextMap.ext_get? fun key => ?_
  refine (TextMap.get?_foldl_update _ _ _ _ key).trans ?_
  have hoctets := TextMap.get?_foldl_update .zero BlockIoDevice.withBytes
    (devices.mapValues BlockIoDevice.octets) .empty key
  rw [TextMap.get?_mapValues, TextMap.get?_empty] at hoctets
  rw [TextMap.get?_mapValues]
  cases hdevice : devices.get? key with
  | none =>
    rw [hdevice] at hoctets
    exact hoctets
  | some device =>
    rw [hdevice] at hoctets
    exact congrArg (fun found => some (BlockIoDevice.withOperations device.operations
      (Option.getD found .zero))) hoctets

end Legacy

end ProcessMeter
