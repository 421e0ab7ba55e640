import BroadcastScenes.Decimal.Shortest

/-!
# Writing doubles

The digits of a double are always the shortest ones that read back. A layout says how they are set:
up to which exponents positionally, and what else goes with them. Two layouts are in use, one for
the numbers of a JSON text and one for numbers that become part of a plain text.
-/

namespace BroadcastScenes.Decimal

structure Layout where
  /-- The choice between two decimals of the same length that are equally near. -/
  tie : Tie
  /-- The exponents of the leading digit for which the number is written positionally. -/
  positional : Int → Bool
  /-- What is put behind a positionally written number without fraction. -/
  wholeMark : List Char

/-- JSON numbers are positional from a hundred-thousandth to sixteen digits before the point, and a
whole number is told from an integer by its fraction `.0`. -/
def Layout.json : Layout where
  tie := .toEven
  positional exponent := decide (-5 ≤ exponent) && decide (exponent ≤ 15)
  wholeMark := ['.', '0']

def Layout.plain : Layout where
  tie := .away
  positional _ := true
  wholeMark := []

def positionalText (digits : List Char) (leading : Int) (wholeMark : List Char) : List Char :=
  if leading < 0 then
    ['0', '.'] ++ List.replicate (-leading - 1).toNat '0' ++ digits
  else
    let width := leading.toNat + 1
    if digits.length ≤ width then
      digits ++ List.replicate (width - digits.length) '0' ++ wholeMark
    else digits.take width ++ '.' :: digits.drop width

def scientificText (digits : List Char) (leading : Int) : List Char :=
  let mantissa :=
    match digits with
    | first :: second :: more => first :: '.' :: second :: more
    | short => short
  mantissa ++ 'e' :: (if leading < 0 then '-' else '+') :: Nat.toDigits 10 leading.natAbs

def Layout.text (layout : Layout) (number : Scientific) : List Char :=
  let digits := Nat.toDigits 10 number.digits
  let leading := number.exponent + digits.length - 1
  if layout.positional leading then positionalText digits leading layout.wholeMark
  else scientificText digits leading

def Layout.write (layout : Layout) (number : Float) : List Char :=
  match Binary.ofFloat number with
  | .notANumber => ['N', 'a', 'N']
  | .infinite negative => (if negative then ['-'] else []) ++ ['i', 'n', 'f']
  | .finite negative significand exponent =>
      let magnitude :=
        if significand = 0 then '0' :: layout.wholeMark
        else layout.text (shortest layout.tie significand exponent)
      if negative then '-' :: magnitude else magnitude

example : Layout.json.write 1e16 = "1e+16".toList := by decide +kernel

example : Layout.json.write 0.00001 = "0.00001".toList := by decide +kernel

example : Layout.json.write (-0.0) = "-0.0".toList := by decide +kernel

example : Layout.plain.write 1e-7 = "0.0000001".toList := by decide +kernel

example : Layout.plain.write 480 = "480".toList := by decide +kernel

end BroadcastScenes.Decimal
