import ProcessMeter.Text.Basic

/-!
# Sets of code points

A set of code points is kept as its ranges, ascending and apart, so two sets with the same ranges
are equal and the operations on sets run through both lists once. Ranges are written in
hexadecimal: `41-5A` is a range, `B5` a single code point, and `100-136/2` is every second code
point from the first to the last.

The code points from D800 to DFFF are no characters. A range may run over them, but no range that
an operation makes starts or ends there.
-/

namespace ProcessMeter

/-- Ranges of code points, both ends included. -/
abbrev CodePoints := List (Nat × Nat)

namespace CodePoints

/-- No code points. -/
def none : CodePoints := []

/-- The last code point. -/
def last : Nat := 0x10FFFF

/-- All code points. -/
def full : CodePoints := [(0, last)]

/-- The code points of ASCII. -/
def ascii : CodePoints := [(0, 0x7F)]

/-- One code point. -/
def single (n : Nat) : CodePoints := [(n, n)]

/-- Whether a code point lies in one of the ranges. -/
def has (set : CodePoints) (n : Nat) : Bool :=
  set.any fun (low, high) => low ≤ n && n ≤ high

/-- Whether a set holds ASCII only. -/
def isAscii (set : CodePoints) : Bool := List.all set fun (_, high) => high < 0x80

/-! ## Operations -/

/-- The range from `low` to `high` followed by ranges that start no earlier, all apart. -/
def joinFrom (low high : Nat) : CodePoints → CodePoints
  | [] => [(low, high)]
  | (low', high') :: rest =>
    if low' ≤ high + 1 then joinFrom low (max high high') rest
    else (low, high) :: joinFrom low' high' rest

/-- Ranges in the order of their starts, made to stand apart. -/
def join : CodePoints → CodePoints
  | [] => []
  | (low, high) :: rest => joinFrom low high rest

/-- The set of all code points of some ranges. -/
def ofRanges (ranges : List (Nat × Nat)) : CodePoints :=
  join (ranges.mergeSort fun a b => a.1 ≤ b.1)

/-- The set of some code points. -/
def ofList (points : List Nat) : CodePoints := ofRanges (points.map fun n => (n, n))

/-- The code points of either set. -/
def union (a b : CodePoints) : CodePoints := join (a.merge b fun x y => x.1 ≤ y.1)

/-- The code points of both sets. -/
def inter : CodePoints → CodePoints → CodePoints
  | [], _ => []
  | _, [] => []
  | (low, high) :: a, (low', high') :: b =>
    let both :=
      if max low low' ≤ min high high' then [(max low low', min high high')] else []
    both ++
      if high < high' then inter a ((low', high') :: b) else inter ((low, high) :: a) b
  termination_by a b => a.length + b.length

/-- The character behind the one with the given number. -/
def next (n : Nat) : Nat := if n = 0xD7FF then 0xE000 else n + 1

/-- The character before the one with the given number. -/
def prev (n : Nat) : Nat := if n = 0xE000 then 0xD7FF else n - 1

/-- What lies between and behind ranges, from `start` on. -/
def gapsFrom (start : Nat) : CodePoints → CodePoints
  | [] => if start ≤ last then [(start, last)] else []
  | (low, high) :: rest =>
    if start < low then (start, prev low) :: gapsFrom (next high) rest
    else gapsFrom (next high) rest

/-- The code points outside a set. -/
def gaps (a : CodePoints) : CodePoints := gapsFrom 0 a

/-- The two characters around D800 to DFFF, if one range ends at the first of them and another
starts at the second. -/
def seam (a : CodePoints) : CodePoints :=
  if a.any (·.2 = 0xD7FF) && a.any (·.1 = 0xE000) then [(0xD7FF, 0xE000)] else []

/-- The complement of a set. The gap between two ranges that meet around D800 to DFFF is closed by
its own ends, so these stay in. -/
def complement (a : CodePoints) : CodePoints := (gaps a).union (seam a)

/-- The complement of a set, if asked for. -/
def negatedIf (negated : Bool) (a : CodePoints) : CodePoints :=
  if negated then complement a else a

/-- The code points of the first set alone. -/
def diff (a b : CodePoints) : CodePoints := a.inter (gaps b)

/-- The code points of exactly one set. -/
def symDiff (a b : CodePoints) : CodePoints := (a.union b).diff (a.inter b)

/-! ## Reading -/

/-- The value of a hexadecimal digit. -/
def hexDigit? (c : Char) : Option Nat :=
  if '0' ≤ c ∧ c ≤ '9' then some (c.toNat - '0'.toNat)
  else if 'a' ≤ c ∧ c ≤ 'f' then some (c.toNat - 'a'.toNat + 10)
  else if 'A' ≤ c ∧ c ≤ 'F' then some (c.toNat - 'A'.toNat + 10)
  else Option.none

/-- The number that hexadecimal digits denote. -/
def hexValue (digits : Text) : Nat :=
  digits.foldl (fun value c => value * 16 + (hexDigit? c).getD 0) 0

/-- One range as it is written without a step. -/
def readRange (word : Text) : Nat × Nat :=
  match Text.cut '-' word with
  | some (low, high) => (hexValue low, hexValue high)
  | Option.none => (hexValue word, hexValue word)

/-- The ranges that one word stands for. -/
def readRanges (word : Text) : CodePoints :=
  match Text.cut '/' word with
  | some (range, step) =>
    let (low, high) := readRange range
    let step := hexValue step
    (List.range ((high - low) / step + 1)).map fun i => (low + i * step, low + i * step)
  | Option.none => [readRange word]

/-- The ranges that are written one after the other. -/
def ofText (ranges : String) : CodePoints := (Text.words ranges.toList).flatMap readRanges

/-- The code points of some ranges in order. -/
def toList (ranges : CodePoints) : List Nat :=
  ranges.flatMap fun (low, high) => (List.range (high + 1 - low)).map (low + ·)

end CodePoints

end ProcessMeter
