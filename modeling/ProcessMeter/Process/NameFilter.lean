import ProcessMeter.Text.Basic

/-!
# Filters of names

A filter lets a name pass that one of its tests accepts. Without tests it lets nothing pass. The
tests come from patterns; what patterns mean is up to the reader of patterns that is given.
-/

namespace ProcessMeter

/-- A reader of patterns: the test on names that a pattern stands for, unless it is malformed. -/
abbrev PatternReader := Text → Option (Text → Bool)

/-- The tests of a filter. -/
structure NameFilter where
  /-- The tests in the order of their patterns. -/
  tests : List (Text → Bool)

namespace NameFilter

/-- The filter that lets nothing pass. -/
def none : NameFilter := ⟨[]⟩

/-- The tests of patterns, or the first pattern that is malformed. -/
def readAll (read : PatternReader) : List Text → Except Text (List (Text → Bool))
  | [] => .ok []
  | pattern :: rest =>
    match read pattern with
    | Option.none => .error pattern
    | some test => (readAll read rest).map (test :: ·)

/-- The filter of some patterns, or the first pattern that is malformed. -/
def ofPatterns (read : PatternReader) (patterns : List Text) : Except Text NameFilter :=
  (readAll read patterns).map fun tests => ⟨tests⟩

/-- Whether a name passes. -/
def passes (filter : NameFilter) (name : Text) : Bool := filter.tests.any fun test => test name

/-- Whether there are no tests. -/
def isEmpty (filter : NameFilter) : Bool := filter.tests.isEmpty

end NameFilter

end ProcessMeter
