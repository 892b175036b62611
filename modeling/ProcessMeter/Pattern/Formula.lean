import ProcessMeter.Pattern.CaseFolding
import ProcessMeter.Pattern.Category
import ProcessMeter.Pattern.Property
import ProcessMeter.Pattern.Script

/-!
# Derived properties

Many properties are made of others. A formula says how, and `Formula.points` works it out, so a
set is only computed when a pattern asks for it.
-/

namespace ProcessMeter

/-- A set of code points as it is made of others. -/
inductive Formula where
  /-- The code points of some ranges. -/
  | ranges (text : String)
  /-- The code points of some general categories. -/
  | categories (names : List String)
  /-- The code points of a script. -/
  | script (short : String)
  /-- The code points of a listed property. -/
  | property (long : String)
  /-- A known set. -/
  | set (points : CodePoints)
  /-- The code points of either. -/
  | union (a b : Formula)
  /-- The code points of both. -/
  | inter (a b : Formula)
  /-- The code points of the first alone. -/
  | diff (a b : Formula)

namespace Formula

instance : Union Formula := ⟨union⟩

instance : Inter Formula := ⟨inter⟩

instance : SDiff Formula := ⟨diff⟩

/-- The code points that a formula stands for. -/
def points : Formula → CodePoints
  | ranges text => .ofRanges (CodePoints.ofText text)
  | categories names => .categories names
  | script short => .ofRanges (CodePoints.script short)
  | property long => .ofRanges (CodePoints.property long)
  | set points => points
  | union a b => a.points.union b.points
  | inter a b => a.points.inter b.points
  | diff a b => a.points.diff b.points

/-! ## Groups of categories -/

/-- The categories of letters. -/
def letterNames : List String := ["Lu", "Ll", "Lt", "Lm", "Lo"]

/-- The categories of marks. -/
def markNames : List String := ["Mn", "Mc", "Me"]

/-- The categories of numbers. -/
def numberNames : List String := ["Nd", "Nl", "No"]

/-- The categories of punctuation. -/
def punctuationNames : List String := ["Pc", "Pd", "Ps", "Pe", "Pi", "Pf", "Po"]

/-- The categories of symbols. -/
def symbolNames : List String := ["Sm", "Sc", "Sk", "So"]

/-- All categories that have an entry. -/
def assignedNames : List String :=
  letterNames ++ markNames ++ numberNames ++ punctuationNames ++ symbolNames ++
    ["Zs", "Zl", "Zp", "Cc", "Cf", "Co"]

/-- The code points that are assigned to a character. -/
def assigned : Formula := categories assignedNames

/-- The code points that are not assigned to a character. -/
def unassigned : Formula := set .full \ (assigned ∪ ranges "D800-DFFF")

/-! ## Properties -/

/-- Letters, and what else is used like them. -/
def alphabetic : Formula := categories ("Nl" :: letterNames) ∪ property "Other_Alphabetic"

/-- Letters that are small, and what else is used like them. -/
def lowercase : Formula := categories ["Ll"] ∪ property "Other_Lowercase"

/-- Letters that are capital, and what else is used like them. -/
def uppercase : Formula := categories ["Lu"] ∪ property "Other_Uppercase"

/-- Capital letters that are followed by small ones within one character. -/
def titlecase : Formula := categories ["Lt"]

/-- Whatever has a case. -/
def cased : Formula := lowercase ∪ uppercase ∪ titlecase

/-- Whatever is passed over when the case of a word is looked at: marks, formats, modifiers, and
the punctuation within words. -/
def caseIgnorable : Formula :=
  categories ["Mn", "Me", "Cf", "Lm", "Sk"] ∪
    ranges "27 2E 3A B7 387 55F 5F4 2018-2019 2024 2027 FE13 FE52 FE55 FF07 FF0E FF1A"

/-- Whatever changes when case is folded. Some letters that fold to several characters are in no
family of variants, and three letters fold like their parts. -/
def changesFolded : Formula :=
  (set .folding \ ranges "1FBE 1FD3 1FE3") ∪ ranges
    "DF 130 149 587 1E9A 1F80-1F87 1F90-1F97 1FA0-1FA7 1FB2-1FB4 1FB7 1FC2-1FC4 1FC7 1FF2-1FF4
    1FF7 FB00-FB04 FB06 FB13-FB17"

/-- Whatever changes in one of the cases. Some letters become several characters and are in no
family of variants. -/
def changesMapped : Formula :=
  set .folding ∪ set .folded ∪ ranges
    "130-131 149 1F0 587 1E96-1E9A 1F50-1F56/2 1FB2 1FB4 1FB6-1FB7 1FC2 1FC4 1FC6-1FC7 1FD2
    1FD6-1FD7 1FE2 1FE4 1FE6-1FE7 1FF2 1FF4 1FF6-1FF7 FB00-FB04 FB13-FB17"

/-- Whatever changes in lower case: what is capital and has variants. -/
def changesLowered : Formula :=
  ((uppercase ∪ titlecase) ∩ (set .folding ∪ set .folded)) ∪ ranges "130"

/-- Whatever changes in upper case. -/
def changesUppered : Formula := (changesMapped \ changesLowered) ∪ titlecase

/-- Whatever changes in title case. Georgian has no title case, and the four letters are the
capital forms of titlecase ones. -/
def changesTitled : Formula :=
  (changesUppered \ (titlecase ∪ ranges "10D0-10FA 10FD-10FF")) ∪ ranges "1C4 1C7 1CA 1F1"

/-- Whatever belongs to the character before it. -/
def graphemeExtend : Formula := categories ["Me", "Mn"] ∪ property "Other_Grapheme_Extend"

/-- Whatever stands as a character by itself. -/
def graphemeBase : Formula :=
  categories
      (letterNames ++ markNames ++ numberNames ++ punctuationNames ++ symbolNames ++ ["Zs"]) \
    graphemeExtend

/-- Whatever shows nothing when it cannot be shown. -/
def defaultIgnorable : Formula :=
  (property "Other_Default_Ignorable_Code_Point" ∪ categories ["Cf"] ∪
      property "Variation_Selector") \
    (property "White_Space" ∪ property "Prepended_Concatenation_Mark" ∪
      ranges "FFF9-FFFB 13430-13440")

/-- Whatever has a meaning in patterns. -/
def patternUse : Formula := property "Pattern_Syntax" ∪ property "Pattern_White_Space"

/-- Whatever can start an identifier. -/
def idStart : Formula :=
  (categories ("Nl" :: letterNames) ∪ property "Other_ID_Start") \ patternUse

/-- Whatever can stand in an identifier. -/
def idContinue : Formula :=
  (categories (["Nl", "Mn", "Mc", "Nd", "Pc"] ++ letterNames) ∪ property "Other_ID_Start" ∪
      property "Other_ID_Continue") \
    patternUse

/-- Whatever can start an identifier, also after the identifier is normalized. -/
def xidStart : Formula :=
  idStart \ ranges
    "37A E33 EB3 309B-309C FC5E-FC63 FDFA-FDFB FE70 FE72 FE74 FE76 FE78 FE7A FE7C FE7E FF9E-FF9F"

/-- Whatever can stand in an identifier, also after the identifier is normalized. -/
def xidContinue : Formula :=
  idContinue \ ranges
    "37A 309B-309C FC5E-FC63 FDFA-FDFB FE70 FE72 FE74 FE76 FE78 FE7A FE7C FE7E"

/-- The characters of words: letters, marks, digits, connectors and joiners. -/
def word : Formula :=
  alphabetic ∪ categories ("Nd" :: "Pc" :: markNames) ∪ property "Join_Control"

/-- The derived properties: the names of each, and what it is made of. -/
def derived : List (List String × Formula) := [
  (["Alphabetic", "Alpha"], alphabetic),
  (["Case_Ignorable", "CI"], caseIgnorable),
  (["Cased"], cased),
  (["Changes_When_Casefolded", "CWCF"], changesFolded),
  (["Changes_When_Casemapped", "CWCM"], changesMapped),
  (["Changes_When_Lowercased", "CWL"], changesLowered),
  (["Changes_When_Titlecased", "CWT"], changesTitled),
  (["Changes_When_Uppercased", "CWU"], changesUppered),
  (["Default_Ignorable_Code_Point", "DI"], defaultIgnorable),
  (["Grapheme_Base", "Gr_Base"], graphemeBase),
  (["Grapheme_Extend", "Gr_Ext"], graphemeExtend),
  (["ID_Continue", "IDC"], idContinue),
  (["ID_Start", "IDS"], idStart),
  (["Lowercase", "Lower"], lowercase),
  (["Math"], categories ["Sm"] ∪ property "Other_Math"),
  (["Uppercase", "Upper"], uppercase),
  (["XID_Continue", "XIDC"], xidContinue),
  (["XID_Start", "XIDS"], xidStart)]

end Formula

end ProcessMeter
