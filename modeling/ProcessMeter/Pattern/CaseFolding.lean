import ProcessMeter.Pattern.CodePoints

/-!
# Case folding

The simple case folding of Unicode 16 sends each letter to the one that stands for all its case
variants. It is kept as families: the letter that stands for them, and the others.
-/

namespace ProcessMeter

namespace CodePoints

/-- The families of case variants. A word such as `61-7A=41` stands for one family for each code
point of the range, whose other members count up in step with it. -/
def familyText : String :=
  "61-6A=41 6B=4B=212A 6C-72=4C 73=53=17F 74-7A=54 DF=1E9E E0-E4=C0 E5=C5=212B E6-F6=C6 F8-FE=D8
  FF=178 101-12F/2=100 133-137/2=132 13A-148/2=139 14B-177/2=14A 17A-17E/2=179 180=243
  183-185/2=182 188=187 18C=18B 192=191 195=1F6 199=198 19A=23D 19B=A7DC 19E=220 1A1-1A5/2=1A0
  1A8=1A7 1AD=1AC 1B0=1AF 1B4-1B6/2=1B3 1B9=1B8 1BD=1BC 1BF=1F7 1C6=1C4=1C5 1C9=1C7=1C8
  1CC=1CA=1CB 1CE-1DC/2=1CD 1DD=18E 1DF-1EF/2=1DE 1F3=1F1=1F2 1F5=1F4 1F9-21F/2=1F8 223-233/2=222
  23C=23B 23F-240=2C7E 242=241 247-24F/2=246 250=2C6F 251=2C6D 252=2C70 253=181 254=186
  256-257=189 259=18F 25B=190 25C=A7AB 260=193 261=A7AC 263=194 264=A7CB 265=A78D 266=A7AA 268=197
  269=196 26A=A7AE 26B=2C62 26C=A7AD 26F=19C 271=2C6E 272=19D 275=19F 27D=2C64 280=1A6 282=A7C5
  283=1A9 287=A7B1 288=1AE 289=244 28A-28B=1B1 28C=245 292=1B7 29D=A7B2 29E=A7B0 371-373/2=370
  377=376 37B-37D=3FD 390=1FD3 3AC=386 3AD-3AF=388 3B0=1FE3 3B1=391 3B2=392=3D0 3B3-3B4=393
  3B5=395=3F5 3B6-3B7=396 3B8=398=3D1=3F4 3B9=345=399=1FBE 3BA=39A=3F0 3BB=39B 3BC=B5=39C
  3BD-3BF=39D 3C0=3A0=3D6 3C1=3A1=3F1 3C3=3A3=3C2 3C4-3C5=3A4 3C6=3A6=3D5 3C7-3C8=3A7 3C9=3A9=2126
  3CA-3CB=3AA 3CC=38C 3CD-3CE=38E 3D7=3CF 3D9-3EF/2=3D8 3F2=3F9 3F3=37F 3F8=3F7 3FB=3FA
  430-431=410 432=412=1C80 433=413 434=414=1C81 435-43D=415 43E=41E=1C82 43F-440=41F 441=421=1C83
  442=422=1C84=1C85 443-449=423 44A=42A=1C86 44B-44F=42B 450-45F=400 461=460 463=462=1C87
  465-481/2=464 48B-4BF/2=48A 4C2-4CE/2=4C1 4CF=4C0 4D1-52F/2=4D0 561-586=531 10D0-10FA=1C90
  10FD-10FF=1CBD 13A0-13EF=AB70 13F0-13F5=13F8 1C8A=1C89 1D79=A77D 1D7D=2C63 1D8E=A7C6
  1E01-1E5F/2=1E00 1E61=1E60=1E9B 1E63-1E95/2=1E62 1EA1-1EFF/2=1EA0 1F00-1F07=1F08 1F10-1F15=1F18
  1F20-1F27=1F28 1F30-1F37=1F38 1F40-1F45=1F48 1F51-1F57/2=1F59 1F60-1F67=1F68 1F70-1F71=1FBA
  1F72-1F75=1FC8 1F76-1F77=1FDA 1F78-1F79=1FF8 1F7A-1F7B=1FEA 1F7C-1F7D=1FFA 1F80-1F87=1F88
  1F90-1F97=1F98 1FA0-1FA7=1FA8 1FB0-1FB1=1FB8 1FB3=1FBC 1FC3=1FCC 1FD0-1FD1=1FD8 1FE0-1FE1=1FE8
  1FE5=1FEC 1FF3=1FFC 214E=2132 2170-217F=2160 2184=2183 24D0-24E9=24B6 2C30-2C5F=2C00 2C61=2C60
  2C65=23A 2C66=23E 2C68-2C6C/2=2C67 2C73=2C72 2C76=2C75 2C81-2CE3/2=2C80 2CEC-2CEE/2=2CEB
  2CF3=2CF2 2D00-2D25=10A0 2D27=10C7 2D2D=10CD A641-A649/2=A640 A64B=1C88=A64A A64D-A66D/2=A64C
  A681-A69B/2=A680 A723-A72F/2=A722 A733-A76F/2=A732 A77A-A77C/2=A779 A77F-A787/2=A77E A78C=A78B
  A791-A793/2=A790 A794=A7C4 A797-A7A9/2=A796 A7B5-A7C3/2=A7B4 A7C8-A7CA/2=A7C7 A7CD=A7CC
  A7D1=A7D0 A7D7-A7DB/2=A7D6 A7F6=A7F5 AB53=A7B3 FB06=FB05 FF41-FF5A=FF21 10428-1044F=10400
  104D8-104FB=104B0 10597-105A1=10570 105A3-105B1=1057C 105B3-105B9=1058C 105BB-105BC=10594
  10CC0-10CF2=10C80 10D70-10D85=10D50 118C0-118DF=118A0 16E60-16E7F=16E40 1E922-1E943=1E900"

/-- The families that one word stands for. -/
def readFamilies (word : Text) : List (List Nat) :=
  match Text.splitWhere (· == '=') word with
  | [] => []
  | first :: others =>
    let leaders := (readRanges first).toList
    let start := leaders.headD 0
    leaders.map fun leader => leader :: others.map fun other => hexValue other + (leader - start)

/-- The families of case variants, each with the code point first that the others fold to. -/
def families : List (List Nat) := (Text.words familyText.toList).flatMap readFamilies

/-- The code points that fold to another one. -/
def folding : CodePoints := ofList (families.flatMap List.tail)

/-- The code points that others fold to. -/
def folded : CodePoints := ofList (families.flatMap fun family => family.take 1)

/-- The members of families in ascending order, each with its whole family. -/
def variants : List (Nat × List Nat) :=
  (families.flatMap fun family => family.map fun n => (n, family)).mergeSort
    fun a b => a.1 ≤ b.1

/-- The families of the code points of a set; the members of families are given in ascending
order. -/
def familiesOf : CodePoints → List (Nat × List Nat) → List Nat
  | _, [] => []
  | set, (n, family) :: rest =>
    match set.dropWhile fun range => range.2 < n with
    | [] => []
    | (low, high) :: set =>
      if low ≤ n then family ++ familiesOf ((low, high) :: set) rest
      else familiesOf ((low, high) :: set) rest

/-- The set with all case variants of its members. -/
def foldCase (set : CodePoints) : CodePoints :=
  set.union (ofList (familiesOf set variants))

/-- The set with the other case of its ASCII letters. -/
def foldCaseAscii (set : CodePoints) : CodePoints :=
  let lower := (set.inter [(0x41, 0x5A)]).map fun (low, high) => (low + 0x20, high + 0x20)
  let upper := (set.inter [(0x61, 0x7A)]).map fun (low, high) => (low - 0x20, high - 0x20)
  (set.union lower).union upper

end CodePoints

end ProcessMeter
