import BroadcastScenes.Decimal.Literal
import BroadcastScenes.Text.Blank
import BroadcastScenes.Text.Bytes

/-!
# Numbers at the start of a text

Texts are read as numbers leniently: blanks in front are skipped, what follows the number is
ignored, and a text that does not start with a number counts as zero.

Where a double ends is found among the bytes of the text. The bytes up to there are read as a
literal.
-/

namespace BroadcastScenes.Decimal

def leadingInteger (text : List Char) : Int64 :=
  let (negative, unsigned) := cutSign (Text.trimStart text)
  (exactWord? (Numeral.ofDigits negative (cutDigits unsigned).1 [] 0).toInt).getD 0

/-! ## The end of a double -/

def isDigitByte (byte : UInt8) : Bool := '0'.toUInt8 ≤ byte && byte ≤ '9'.toUInt8

structure Scan where
  /-- The number of bytes that have been passed. -/
  stop : Nat
  seenDigit : Bool
  seenPoint : Bool
  deriving DecidableEq, Repr

def Scan.run (scan : Scan) : List UInt8 → Scan
  | [] => scan
  | byte :: rest =>
      if isDigitByte byte then run { scan with stop := scan.stop + 1, seenDigit := true } rest
      else if byte = '.'.toUInt8 ∧ scan.seenPoint = false then
        run { scan with stop := scan.stop + 1, seenPoint := true } rest
      else scan

def exponentStart (bytes : List UInt8) (mark : Nat) : Nat :=
  if bytes[mark + 1]? = some '+'.toUInt8 ∨ bytes[mark + 1]? = some '-'.toUInt8 then mark + 2
  else mark + 1

/-- The end of a number whose digits end at this byte. A power of ten belongs to it only if it has
digits itself. -/
def exponentEnd (bytes : List UInt8) (stop : Nat) : Nat :=
  if bytes[stop]? = some 'e'.toUInt8 ∨ bytes[stop]? = some 'E'.toUInt8 then
    let start := exponentStart bytes stop
    let digits := ((bytes.drop (min start bytes.length)).takeWhile isDigitByte).length
    if 0 < digits then start + digits else stop
  else stop

def numberEnd? (text : List Char) : Option Nat :=
  let bytes := Text.bytes text
  let signLength := if text.head? = some '+' ∨ text.head? = some '-' then 1 else 0
  let scan := Scan.run ⟨signLength, false, false⟩ (bytes.drop signLength)
  if scan.seenDigit then some (exponentEnd bytes scan.stop) else none

def leadingDouble (text : List Char) : Float :=
  let trimmed := Text.trimStart text
  match numberEnd? trimmed with
  -- Zero would stand in for a cut through a character and for a text that is no literal as well.
  | some stop => (((Text.takeBytes? stop trimmed).bind Literal.read?).map Literal.toFloat).getD 0
  | none => 0

example : leadingInteger "  -7px".toList = -7 := by decide

example : leadingInteger "9223372036854775808".toList = 0 := by decide

example : numberEnd? "1.5e+3kg".toList = some 6 := by decide

/-- A mark without digits is no power of ten. -/
example : numberEnd? "-1.5e+é".toList = some 4 := by decide

example : numberEnd? "-.e5".toList = none := by decide

end BroadcastScenes.Decimal
