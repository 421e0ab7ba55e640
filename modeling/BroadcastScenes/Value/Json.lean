import BroadcastScenes.Json.Printer
import BroadcastScenes.Json.Reader
import BroadcastScenes.Value.Basic

/-!
# Values and JSON

Reading drops every null, since the tree has none: a null member is absent, and a null element
takes its place with it. Writing turns a double that is not finite into null, since JSON has no
such number.
-/

namespace BroadcastScenes.Value

mutual

def ofJson? : Json → Option Value
  | .null => none
  | .boolean flag => some (.boolean flag)
  | .integer number => some (.integer number)
  | .double number => some (.double number)
  | .string text => some (.string text)
  | .array elements => some (.array (ofJsonElements elements))
  | .object members => some (.object (ofJsonMembers members))

def ofJsonElements : List Json → List Value
  | [] => []
  | first :: rest =>
      match ofJson? first with
      | some value => value :: ofJsonElements rest
      | none => ofJsonElements rest

def ofJsonMembers : List (String × Json) → List (String × Value)
  | [] => []
  | (key, first) :: rest =>
      match ofJson? first with
      | some value => (key, value) :: ofJsonMembers rest
      | none => ofJsonMembers rest

end

mutual

def toJson : Value → Json
  | .string text => .string text
  | .integer number => .integer number
  | .double number =>
      if (Decimal.Binary.ofFloat number).isFinite then .double number else .null
  | .boolean flag => .boolean flag
  | .object members => .object (toJsonMembers members)
  | .array elements => .array (toJsonElements elements)

def toJsonElements : List Value → List Json
  | [] => []
  | first :: rest => toJson first :: toJsonElements rest

def toJsonMembers : List (String × Value) → List (String × Json)
  | [] => []
  | (key, first) :: rest => (key, toJson first) :: toJsonMembers rest

end

/-- The value of a JSON value, where null counts as the object without members. -/
def ofJson (json : Json) : Value := (ofJson? json).getD (.object [])

def parse? (text : String) : Option Value := (Json.read? text).map ofJson

def json (value : Value) : String := value.toJson.compact

end BroadcastScenes.Value
