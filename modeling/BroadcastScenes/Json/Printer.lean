import BroadcastScenes.Decimal.Layout
import BroadcastScenes.Json.Basic

/-!
# Writing JSON

Two layouts: compact, without any blanks, and indented, with one member or element to a line. In
strings only the quote, the backslash and the control characters are escaped. A double that is not
finite has no JSON form and is written as null.
-/

namespace BroadcastScenes.Json

def escapedText (c : Char) : List Char :=
  if c = '"' then ['\\', '"']
  else if c = '\\' then ['\\', '\\']
  else if c = '\n' then ['\\', 'n']
  else if c = '\r' then ['\\', 'r']
  else if c = '\t' then ['\\', 't']
  else if c = '\x08' then ['\\', 'b']
  else if c = '\x0C' then ['\\', 'f']
  else if c.toNat < 0x20 then
    ['\\', 'u', '0', '0', Nat.digitChar (c.toNat / 16), Nat.digitChar (c.toNat % 16)]
  else [c]

def quoted (text : String) : List Char := '"' :: text.toList.flatMap escapedText ++ ['"']

def doubleText (number : Float) : List Char :=
  if (Decimal.Binary.ofFloat number).isFinite then Decimal.Layout.json.write number
  else ['n', 'u', 'l', 'l']

def scalarText : Json → List Char
  | .null => ['n', 'u', 'l', 'l']
  | .boolean true => ['t', 'r', 'u', 'e']
  | .boolean false => ['f', 'a', 'l', 's', 'e']
  | .integer number => Decimal.integerText number.toInt
  | .double number => doubleText number
  | .string text => quoted text
  | .array _ => []
  | .object _ => []

/-! ## The compact layout -/

mutual

def compactText : Json → List Char
  | .array elements => '[' :: compactElements elements ++ [']']
  | .object members => '\x7b' :: compactMembers members ++ ['\x7d']
  | scalar => scalarText scalar

def compactElements : List Json → List Char
  | [] => []
  | [last] => compactText last
  | first :: second :: rest => compactText first ++ ',' :: compactElements (second :: rest)

def compactMembers : List (String × Json) → List Char
  | [] => []
  | [(key, last)] => quoted key ++ ':' :: compactText last
  | (key, first) :: second :: rest =>
      quoted key ++ ':' :: compactText first ++ ',' :: compactMembers (second :: rest)

end

/-! ## The indented layout -/

def lineStart (depth : Nat) : List Char := '\n' :: List.replicate (2 * depth) ' '

mutual

def indentedText (depth : Nat) : Json → List Char
  | .array [] => ['[', ']']
  | .array (first :: rest) =>
      '[' :: indentedElements (depth + 1) (first :: rest) ++ lineStart depth ++ [']']
  | .object [] => ['\x7b', '\x7d']
  | .object (first :: rest) =>
      '\x7b' :: indentedMembers (depth + 1) (first :: rest) ++ lineStart depth ++ ['\x7d']
  | scalar => scalarText scalar

def indentedElements (depth : Nat) : List Json → List Char
  | [] => []
  | [last] => lineStart depth ++ indentedText depth last
  | first :: second :: rest =>
      lineStart depth ++ indentedText depth first ++ ',' :: indentedElements depth (second :: rest)

def indentedMembers (depth : Nat) : List (String × Json) → List Char
  | [] => []
  | [(key, last)] => lineStart depth ++ quoted key ++ [':', ' '] ++ indentedText depth last
  | (key, first) :: second :: rest =>
      lineStart depth ++ quoted key ++ [':', ' '] ++ indentedText depth first ++
        ',' :: indentedMembers depth (second :: rest)

end

def compact (value : Json) : String := String.ofList value.compactText

def indented (value : Json) : String := String.ofList (value.indentedText 0)

/-- Control characters without an escape of their own are written by number. -/
example : quoted "a\x01\n" = "\"a\\u0001\\n\"".toList := by decide

end BroadcastScenes.Json
