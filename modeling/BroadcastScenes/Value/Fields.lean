import BroadcastScenes.Value.Scalar

/-!
# Reading members

Members are read with a default: the empty text, zero, or false stands in for a member that is
missing or cannot be read in the way asked for.
-/

namespace BroadcastScenes

namespace Members

def stringAt (members : Members) (key : String) : String :=
  ((members.find? key).bind Value.string?).getD ""

def textAt (members : Members) (key : String) : String :=
  ((members.find? key).map Value.text).getD ""

def integerAt (members : Members) (key : String) : Int64 :=
  ((members.find? key).bind Value.integer?).getD 0

def doubleAt (members : Members) (key : String) : Float :=
  ((members.find? key).bind Value.double?).getD 0

def flagAt (members : Members) (key : String) : Bool :=
  ((members.find? key).bind Value.flag?).getD false

def objectAt? (members : Members) (key : String) : Option Members :=
  match members.find? key with
  | some (.object inner) => some inner
  | _ => none

def membersAt (members : Members) (key : String) : Members := (members.objectAt? key).getD []

def elementsAt (members : Members) (key : String) : List Value :=
  ((members.find? key).map Value.elements).getD []

/-- The number one is how the older formats write a set flag; every other number is unset. -/
def isOneAt (members : Members) (key : String) : Bool := members.integerAt key == 1

def itemsAt (members : Members) (key : String) : List Value :=
  (members.membersAt key).elementsAt "items"

end Members

example : Members.textAt [("size", .integer 7)] "size" = "7" := by decide

example : Members.stringAt [("size", .integer 7)] "size" = "" := by decide

end BroadcastScenes
