import BroadcastScenes.Decimal.Steps
import BroadcastScenes.Json.Basic

/-!
# JSON as written

The grammar of JSON accepts more than has a meaning. A number can be too large for a double, a
string can hold half of a surrogate pair, a key can be repeated, and containers can be nested
without end. Reading therefore has two stages: the grammar gives a tree that keeps all this, and
the meaning of that tree, where it has one, is a value.
-/

namespace BroadcastScenes.Json

structure Literal where
  negative : Bool
  whole : List Char
  fraction : Option (List Char)
  exponent : Option Int
  deriving DecidableEq, Repr

def Literal.toFloat (literal : Literal) : Float :=
  (Decimal.Numeral.ofFirstDigits literal.negative literal.whole (literal.fraction.getD [])
    (literal.exponent.getD 0)).inSteps

/-- The double or integer that a literal means. Only digits alone make an integer, and minus zero
is none: the integers have no signed zero. A literal past the last double means nothing. -/
def Literal.meaning? (literal : Literal) : Option Json :=
  let numeral := Decimal.Numeral.ofDigits literal.negative literal.whole
    (literal.fraction.getD []) (literal.exponent.getD 0)
  let asDouble :=
    if (Decimal.Binary.ofFloat literal.toFloat).isFinite then some (.double literal.toFloat)
    else none
  if literal.fraction.isSome || literal.exponent.isSome then asDouble
  else if numeral.negative && numeral.significand == 0 then asDouble
  else match Decimal.exactWord? numeral.toInt with
    | some number => some (.integer number)
    | none => asDouble

def Literal.natural? : Literal → Option Nat
  | ⟨false, whole, none, none⟩ => some (Nat.ofDigitChars 10 whole 0)
  | _ => none

example : Literal.natural? ⟨false, "18446744073709551615".toList, none, none⟩ =
    some (2 ^ 64 - 1) := by decide

example : Literal.natural? ⟨true, ['0'], none, none⟩ = none := rfl

/-- A tree of the grammar. A string without a value holds half of a surrogate pair. -/
inductive Written where
  | null
  | boolean (flag : Bool)
  | number (literal : Literal)
  | string (text : Option String)
  | array (elements : List Written)
  | object (members : List (Option String × Written))
  deriving Inhabited

mutual

def Written.meaning? (room : Nat) : Written → Option Json
  | .null => some .null
  | .boolean flag => some (.boolean flag)
  | .number literal => literal.meaning?
  | .string text => text.map .string
  | .array elements =>
      if room = 0 then none else (elementsMeaning? (room - 1) elements).map .array
  | .object members =>
      if room = 0 then none
      else (membersMeaning? (room - 1) members).map fun written => .object (Entries.ofList written)

def elementsMeaning? (room : Nat) : List Written → Option (List Json)
  | [] => some []
  | first :: rest => do
      let value ← first.meaning? room
      let values ← elementsMeaning? room rest
      some (value :: values)

def membersMeaning? (room : Nat) : List (Option String × Written) → Option (List (String × Json))
  | [] => some []
  | (key, first) :: rest => do
      let key ← key
      let value ← first.meaning? room
      let values ← membersMeaning? room rest
      some ((key, value) :: values)

end

end BroadcastScenes.Json
