import BroadcastScenes.Decimal.Layout
import BroadcastScenes.Decimal.Leading
import BroadcastScenes.Value.Basic

/-!
# Scalars read as one another

The formats disagree on whether a number is written as a number, a text or a flag. Each scalar can
therefore be read as an integer, a double, a flag or a text. Containers have no scalar reading.
-/

namespace BroadcastScenes.Value

def string? : Value → Option String
  | .string text => some text
  | _ => none

/-- A scalar as an integer: doubles lose their fraction, flags count one or zero, and texts are
read up to the first character that does not belong to the number. -/
def integer? : Value → Option Int64
  | .integer number => some number
  | .double number => some (Decimal.Binary.ofFloat number).truncate
  | .boolean flag => some (if flag then 1 else 0)
  | .string text => some (Decimal.leadingInteger text.toList)
  | .object _ => none
  | .array _ => none

def double? : Value → Option Float
  | .integer number => some (Decimal.floatOfInt number.toInt)
  | .double number => some number
  | .boolean flag => some (if flag then 1 else 0)
  | .string text => some (Decimal.leadingDouble text.toList)
  | .object _ => none
  | .array _ => none

/-- A scalar as a flag: a number is set when it differs from zero, and a text when it says so or
starts with an integer other than zero. -/
def flag? : Value → Option Bool
  | .boolean flag => some flag
  | .integer number => some (number != 0)
  | .double number => some (number != 0)
  | .string text => some (text == "true" || Decimal.leadingInteger text.toList != 0)
  | .object _ => none
  | .array _ => none

def text : Value → String
  | .string text => text
  | .integer number => String.ofList (Decimal.integerText number.toInt)
  | .double number => String.ofList (Decimal.Layout.plain.write number)
  | .boolean true => "true"
  | .boolean false => "false"
  | .object _ => ""
  | .array _ => ""

example : (Value.string "1920x1080").integer? = some 1920 := by decide

example : (Value.string "yes").flag? = some false := by decide

/-- What is not equal to zero is set, so the undefined number is. -/
example : (Value.double (0 / 0)).flag? = some true := by decide +kernel

end BroadcastScenes.Value
