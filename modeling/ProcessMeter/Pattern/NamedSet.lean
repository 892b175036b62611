import ProcessMeter.Pattern.Age
import ProcessMeter.Pattern.TextBreak

/-!
# Sets by name

The names under which a pattern can ask for a set of code points: a general category, a script or
a property by itself, or a property together with the value that it should have.
-/

namespace ProcessMeter

namespace Formula

/-- The general categories and the groups of them: the names of each, and its code points. -/
def categoryNames : List (List String × Formula) := [
  (["Lu", "Uppercase_Letter"], categories ["Lu"]),
  (["Ll", "Lowercase_Letter"], categories ["Ll"]),
  (["Lt", "Titlecase_Letter"], categories ["Lt"]),
  (["LC", "Cased_Letter"], categories ["Lu", "Ll", "Lt"]),
  (["Lm", "Modifier_Letter"], categories ["Lm"]),
  (["Lo", "Other_Letter"], categories ["Lo"]),
  (["L", "Letter"], categories letterNames),
  (["Mn", "Nonspacing_Mark"], categories ["Mn"]),
  (["Mc", "Spacing_Mark"], categories ["Mc"]),
  (["Me", "Enclosing_Mark"], categories ["Me"]),
  (["M", "Mark", "Combining_Mark"], categories markNames),
  (["Nd", "Decimal_Number", "digit"], categories ["Nd"]),
  (["Nl", "Letter_Number"], categories ["Nl"]),
  (["No", "Other_Number"], categories ["No"]),
  (["N", "Number"], categories numberNames),
  (["Pc", "Connector_Punctuation"], categories ["Pc"]),
  (["Pd", "Dash_Punctuation"], categories ["Pd"]),
  (["Ps", "Open_Punctuation"], categories ["Ps"]),
  (["Pe", "Close_Punctuation"], categories ["Pe"]),
  (["Pi", "Initial_Punctuation"], categories ["Pi"]),
  (["Pf", "Final_Punctuation"], categories ["Pf"]),
  (["Po", "Other_Punctuation"], categories ["Po"]),
  (["P", "Punctuation", "punct"], categories punctuationNames),
  (["Sm", "Math_Symbol"], categories ["Sm"]),
  (["Sc", "Currency_Symbol"], categories ["Sc"]),
  (["Sk", "Modifier_Symbol"], categories ["Sk"]),
  (["So", "Other_Symbol"], categories ["So"]),
  (["S", "Symbol"], categories symbolNames),
  (["Zs", "Space_Separator"], categories ["Zs"]),
  (["Zl", "Line_Separator"], categories ["Zl"]),
  (["Zp", "Paragraph_Separator"], categories ["Zp"]),
  (["Z", "Separator"], categories ["Zs", "Zl", "Zp"]),
  (["Cc", "Control", "cntrl"], categories ["Cc"]),
  (["Cf", "Format"], categories ["Cf"]),
  (["Co", "Private_Use"], categories ["Co"]),
  (["Cn", "Unassigned"], unassigned),
  (["C", "Other"], unassigned ∪ categories ["Cc", "Cf", "Co"] ∪ ranges "D800-DFFF")]

end Formula

namespace CodePoints

/-- A name without what does not tell names apart: case, blanks, hyphens, underscores, characters
outside ASCII, and a leading `is`. Only `isc` keeps it, which is no `c`. -/
def plainName (name : Text) : Text :=
  let dropsIs := Text.toLowerAscii (name.take 2) = "is".toList
  let body := if dropsIs then name.drop 2 else name
  let plain := Text.toLowerAscii <|
    body.filter fun c => c.toNat < 0x80 && c != ' ' && c != '_' && c != '-'
  if dropsIs && plain = ['c'] then "isc".toList else plain

/-- The entry of a table that has the given plain name among its names. -/
def row? {α : Type} (table : List (List String × α)) (plain : Text) : Option α :=
  (table.find? fun (names, _) => names.any fun name => plainName name.toList = plain).map Prod.snd

/-- The general category with the given plain name. Three more names are understood with them. -/
def category? (plain : Text) : Option CodePoints :=
  if plain = "any".toList then some full
  else if plain = "ascii".toList then some ascii
  else if plain = "assigned".toList then some (complement Formula.unassigned.points)
  else (row? Formula.categoryNames plain).map Formula.points

/-- The binary property with the given plain name. -/
def property? (plain : Text) : Option CodePoints :=
  match row? Formula.derived plain with
  | some formula => some formula.points
  | Option.none => (row? propertyText plain).map fun points => ofRanges (ofText points)

/-- The short name of the script with the given plain name. -/
def scriptName? (plain : Text) : Option String :=
  (scriptText.find? fun (names, _) => names.any fun name => plainName name.toList = plain).bind
    fun (names, _) => names.head?

/-- The names of a version: with a dot, and as an identifier. -/
def versionNames (version : Text) : List Text :=
  [version, 'v' :: version.filter (· != '.')]

/-- The code points that the version of Unicode with the given plain name knows. -/
def age? (plain : Text) : Option CodePoints :=
  (ageText.findIdx? fun (version, _) => (versionNames version.toList).elem plain).map known

/-- The set that the plain name of a property, a category or a script stands for. Three short
names of categories are names of properties too, which are not binary. -/
def plain? (plain : Text) : Option CodePoints :=
  let isCategory := [['c', 'f'], ['s', 'c'], ['l', 'c']].elem plain
  ((if isCategory then Option.none else property? plain).or (category? plain)).or <|
    (scriptName? plain).map fun short => ofRanges (script short)

/-- The properties that have values other than yes and no, and what a value of each stands for. -/
def valuedProperties : List (List String × (Text → Option CodePoints)) := [
  (["General_Category", "gc"], category?),
  (["Script", "sc"], fun value => (scriptName? value).map fun short => ofRanges (script short)),
  (["Script_Extensions", "scx"], fun value => (scriptName? value).map scriptExtensions),
  (["Age"], age?),
  (["Grapheme_Cluster_Break", "GCB"],
    fun value => (row? Formula.graphemeBreaks value).map Formula.points),
  (["Word_Break", "WB"], fun value => (row? Formula.wordBreaks value).map Formula.points),
  (["Sentence_Break", "SB"], fun value => (row? Formula.sentenceBreaks value).map Formula.points)]

/-- The set that a name stands for. -/
def named? (name : Text) : Option CodePoints := plain? (plainName name)

/-- The set that a value of a property stands for. -/
def valued? (property value : Text) : Option CodePoints :=
  match row? valuedProperties (plainName property) with
  | some read => read (plainName value)
  | Option.none => Option.none

end CodePoints

end ProcessMeter
