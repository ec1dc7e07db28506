import StartOrder.Url.Domain.Mark

/-!
# Directions

Some letters are written from the right to the left. A domain with such letters would be shown with
its parts in a confusing order unless each of its labels keeps to rules (`isOneWay`): it begins with
a letter, all its letters are of one direction, and it ends in a letter or a number.
-/

namespace StartOrder.Url.Domain

/-- How a character takes part in the direction of a text. -/
inductive Direction where
  /-- A letter that is written from the left. -/
  | left
  /-- A letter that is written from the right. -/
  | right
  /-- A digit of Arabic, whose numbers stand among letters from the right. -/
  | arabicDigit
  /-- Any other digit. -/
  | digit
  /-- A sign that follows the letters around it. -/
  | neutral
  /-- A mark on the character before. -/
  | mark
  deriving DecidableEq, Repr

namespace Direction

/-! ## Tables

The tables are ranges of code points in hexadecimal; they pass over those that no domain has. -/

/-- The letters that are written from the right. -/
def rightText : String :=
  "5BE 5C0 5C3 5C6 5D0-5F4 608 60B 60D 61B-64A 66D-66F 671-6D5 6E5-6E6 6EE-6EF 6FA-710 712-72F
   74D-7A5 7B1-7EA 7F4-7F5 7FA 7FE-815 81A 824 828 830-858 85E-88F 8A0-8C9 FBB2-FBC2 FE73
   10800-1091B 10920-10A00 10A10-10A35 10A40-10AE4 10AEB-10B35 10B40-10D23 10D4A-10D4F
   10D6F-10D8F 10E80-10EA9 10EAD-10EC7 10F00-10F45 10F51-10F81 10F86-10FF6 1E800-1E8CF
   1E922-1E943 1E94B-1ED3D"

/-- The digits of Arabic. -/
def arabicDigitText : String := "660-669 66B-66C 10D30-10D49 10E60-10E7E"

/-- The other digits beyond ASCII. -/
def digitText : String := "6F0-6F9 102E1-102FB"

/-- The signs beyond ASCII. -/
def neutralText : String :=
  "A1-D7 F7 2B9-2BA 2C2-2CF 2D2-2ED 2EF-2FF 375 3F6 58A-58F 606-607 609-60A 60C 60E-60F 66A 6DE
   6E9 7F6-7F9 9F2-9F3 9FB AF1 BF3-BFA C78-C7E E3F F3A-F3D 1390-1399 1400 169B-169C 17DB
   17F0-180A 1940-1945 19DE-19FF 200C-20C1 2104-214D 218A-2335 237B-2394 2396-26AB 26AD-27FF
   2900-2BFF 2CE5-2CEA 2CF9-2CFF 2E00-3004 3008-3020 3030 3037 303D-303F 30A0 30FB 31C0-31E5
   4DC0-4DFF A490-A4C6 A60D-A60F A673 A67E-A67F A700-A721 A788 A828-A82B A838-A839 A874-A877
   AB6A-AB6B FBC3-FDFF FE45-FE46 10101 10140-1018C 10190-101A0 1091F 10B39-10B3F 10D6E
   10ED0-10ED8 11052-11065 11660-1166C 11FD5-11FF1 16FE2 1CC00-1CEF0 1D1E9-1D241 1D245
   1D300-1D356 1E2FF 1EEF0-1F12F 1F16D-1F16F 1F1AD 1F260-1FBFA"

/-- The marks that are written from the left, like letters. -/
def leftMarkText : String := "CBF CC6 11A07-11A08 11C3F"

/-- The ranges of the letters that are written from the right. -/
def rightRanges : List (Nat × Nat) := rangesOf rightText

/-- The ranges of the digits of Arabic. -/
def arabicDigitRanges : List (Nat × Nat) := rangesOf arabicDigitText

/-- The ranges of the other digits beyond ASCII. -/
def digitRanges : List (Nat × Nat) := rangesOf digitText

/-- The ranges of the signs beyond ASCII. -/
def neutralRanges : List (Nat × Nat) := rangesOf neutralText

/-- The ranges of the marks that are written from the left. -/
def leftMarkRanges : List (Nat × Nat) := rangesOf leftMarkText

/-! ## Characters and labels -/

/-- The direction of a character that a domain may have. -/
def ofChar (c : Char) : Direction :=
  let n := c.toNat
  if n < 0x80 then
    if c.isDigit then .digit else if c.isAlpha then .left else .neutral
  else if inRanges rightRanges n then .right
  else if inRanges arabicDigitRanges n then .arabicDigit
  else if inRanges digitRanges n then .digit
  else if inRanges neutralRanges n then .neutral
  else if isNonspacing c && !inRanges leftMarkRanges n then .mark
  else .left

/-- Whether characters of some directions, of which the first is given apart and marks at the end
are left out, can be shown without confusion. -/
def fit (first : Direction) (rest : List Direction) : Bool :=
  match first with
  | .left =>
    rest.all (fun d => d ≠ .right && d ≠ .arabicDigit) &&
      rest.getLast?.all (fun d => d = .left || d = .digit)
  | .right =>
    rest.all (· ≠ .left) && rest.getLast?.all (· ≠ .neutral) &&
      !(rest.contains .digit && rest.contains .arabicDigit)
  | _ => false

end Direction

/-- Whether a text has characters that are written from the right. -/
def isRightward (cs : List Char) : Bool :=
  cs.any fun c => Direction.ofChar c = .right || Direction.ofChar c = .arabicDigit

/-- Whether a label of a domain with characters from the right can be shown without confusion. -/
def isOneWay (label : List Char) : Bool :=
  match label.map Direction.ofChar with
  | [] => true
  | first :: rest => first.fit (rest.reverse.dropWhile (· = .mark)).reverse

end StartOrder.Url.Domain
