import ProcessMeter.Pattern.Formula

/-!
# Breaks in texts

What characters do to the breaks between characters, words and sentences, by Unicode 16. The
classes of one list are disjoint, and characters outside all of them have no class with a name.
-/

namespace ProcessMeter

namespace Formula

/-- The characters that count as numbers at breaks. -/
def breakNumeric : Formula :=
  categories ["Nd"] ∪ ranges "600-605 66B-66C 6DD 890-891 8E2 110BD 110CD"

/-- Formats that belong to the character before them. -/
def breakFormat : Formula :=
  categories ["Cf"] \ (ranges "200C-200D E0020-E007F" ∪ breakNumeric)

/-- Whatever extends the character before it, spaced marks too. -/
def breakExtend : Formula := graphemeExtend ∪ categories ["Mc"]

/-! ## Characters -/

/-- The vowels of Hangul, and what is used like them. -/
def hangulVowel : Formula := ranges "1160-11A7 D7B0-D7C6 16D63 16D67-16D6A"

/-- The syllables of Hangul without a final consonant. -/
def hangulOpen : Formula := ranges "AC00-D788/1C"

/-- What extends a character. -/
def graphemeMark : Formula :=
  (graphemeExtend ∪ property "Emoji_Modifier") \ ranges "200D"

/-- The spaced marks that belong to the character before them. -/
def spacingMark : Formula :=
  (categories ["Mc"] ∪ ranges "E33 EB3") \
    (graphemeMark ∪ hangulVowel ∪ ranges
      "102B-102C 1038 1062-1064 1067-106D 1083 1087-108C 108F 109A-109C 1A61 1A63-1A64 AA7B AA7D
      11720-11721")

/-- The classes of characters at breaks between characters. -/
def graphemeBreaks : List (List String × Formula) := [
  (["CR"], ranges "D"),
  (["LF"], ranges "A"),
  (["Control", "CN"],
    (categories ["Zl", "Zp", "Cc", "Cf"] ∪
        ranges "2065 FFF0-FFF8 E0000 E0002-E001F E0080-E00FF E01F0-E0FFF") \
      (property "Prepended_Concatenation_Mark" ∪ ranges "A D 200C-200D E0020-E007F")),
  (["Extend", "EX"], graphemeMark),
  (["Prepend", "PP"],
    property "Prepended_Concatenation_Mark" ∪ ranges
      "D4E 111C2-111C3 113D1 1193F 11941 11A3A 11A84-11A89 11D46 11F02"),
  (["SpacingMark", "SM"], spacingMark),
  (["L"], ranges "1100-115F A960-A97C"),
  (["V"], hangulVowel),
  (["T"], ranges "11A8-11FF D7CB-D7FB"),
  (["LV"], hangulOpen),
  (["LVT"], ranges "AC00-D7A3" \ hangulOpen),
  (["ZWJ"], ranges "200D"),
  (["Regional_Indicator", "RI"], property "Regional_Indicator")]

/-! ## Words -/

/-- The characters of Katakana, with the marks that are used with them. -/
def katakana : Formula :=
  ranges
    "3031-3035 309B-309C 30A0-30FA 30FC-30FF 31F0-31FF 32D0-32FE 3300-3357 FF66-FF9D 1AFF0-1AFF3
    1AFF5-1AFFB 1AFFD-1AFFE 1B000 1B120-1B122 1B155 1B164-1B167"

/-- The letters of Hebrew. -/
def hebrew : Formula := script "Hebr" ∩ categories ["Lo"]

/-- The scripts that write words without blanks between them. -/
def unspaced : Formula :=
  script "Ahom" ∪ script "Khmr" ∪ script "Lana" ∪ script "Laoo" ∪ script "Mymr" ∪
    script "Tale" ∪ script "Talu" ∪ script "Tavt" ∪ script "Thai"

/-- What extends a character within a word. -/
def wordMark : Formula := (breakExtend ∪ property "Emoji_Modifier") \ ranges "200D"

/-- The letters of words in scripts that put blanks between words. -/
def wordLetter : Formula :=
  (alphabetic ∪ ranges
      "2C2-2C5 2D2-2D7 2DE-2DF 2E5-2EB 2ED 2EF-2FF 55A-55C 55E 58A 5F3 70F A708-A716 A720-A721
      A789-A78A AB5B") \
    (property "Ideographic" ∪ katakana ∪ unspaced ∪ script "Hira" ∪ wordMark ∪ hebrew)

/-- The classes of characters at breaks between words. -/
def wordBreaks : List (List String × Formula) := [
  (["CR"], ranges "D"),
  (["LF"], ranges "A"),
  (["Newline", "NL"], ranges "B-C 85 2028-2029"),
  (["Extend"], wordMark),
  (["ZWJ"], ranges "200D"),
  (["Regional_Indicator", "RI"], property "Regional_Indicator"),
  (["Format", "FO"], breakFormat \ ranges "70F 200B"),
  (["Katakana", "KA"], katakana),
  (["Hebrew_Letter", "HL"], hebrew),
  (["ALetter", "LE"], wordLetter),
  (["Single_Quote", "SQ"], ranges "27"),
  (["Double_Quote", "DQ"], ranges "22"),
  (["MidNumLet", "MB"], ranges "2E 2018-2019 2024 FE52 FF07 FF0E"),
  (["MidLetter", "ML"], ranges "3A B7 387 55F 5F4 2027 FE13 FE55 FF1A"),
  (["MidNum", "MN"], ranges
    "2C 3B 37E 589 60C-60D 66C 7F8 2044 FE10 FE14 FE50 FE54 FF0C FF1B"),
  (["Numeric", "NU"], breakNumeric \ ranges "66C"),
  (["ExtendNumLet", "EX"], categories ["Pc"] ∪ ranges "202F"),
  (["WSegSpace"], categories ["Zs"] \ ranges "A0 2007 202F")]

/-! ## Sentences -/

/-- The small letters at breaks between sentences. Georgian makes no difference of case. -/
def sentenceLower : Formula :=
  lowercase \ (graphemeExtend ∪ ranges "10D0-10FA 10FD-10FF")

/-- The capital letters at breaks between sentences. -/
def sentenceUpper : Formula := (uppercase ∪ titlecase) \ ranges "1C90-1CBA 1CBD-1CBF"

/-- What extends a character within a sentence. -/
def sentenceMark : Formula := breakExtend ∪ ranges "200D"

/-- The classes of characters at breaks between sentences. -/
def sentenceBreaks : List (List String × Formula) := [
  (["CR"], ranges "D"),
  (["LF"], ranges "A"),
  (["Extend", "EX"], sentenceMark),
  (["Sep", "SE"], ranges "85 2028-2029"),
  (["Format", "FO"], breakFormat),
  (["Sp", "SP"], property "White_Space" \ ranges "A D 85 2028-2029"),
  (["Lower", "LO"], sentenceLower),
  (["Upper", "UP"], sentenceUpper),
  (["OLetter", "LE"],
    (alphabetic ∪ ranges "5F3") \ (sentenceLower ∪ sentenceUpper ∪ sentenceMark)),
  (["Numeric", "NU"], breakNumeric),
  (["ATerm", "AT"], ranges "2E 2024 FE52 FF0E"),
  (["SContinue", "SC"], ranges
    "2C-2D 3A-3B 37E 55D 60C-60D 7F8 1802 1808 2013-2014 3001 FE10-FE11 FE13-FE14 FE31-FE32
    FE50-FE51 FE54-FE55 FE58 FE63 FF0C-FF0D FF1A-FF1B FF64"),
  (["STerm", "ST"], property "Sentence_Terminal" \ ranges "2E 2024 FE52 FF0E"),
  (["Close", "CL"],
    (categories ["Ps", "Pe", "Pi", "Pf"] ∪
        ranges "22 27 275B-2760 2E00-2E01 2E06-2E08 2E0B 1F676-1F678") \
      property "Sentence_Terminal")]

end Formula

end ProcessMeter
