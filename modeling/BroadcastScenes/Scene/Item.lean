import BroadcastScenes.Value.Fields

/-!
# Scene items

A scene places sources: each item names a source and says where and how large it appears.
-/

namespace BroadcastScenes.Scene

structure Pair where
  x : Float
  y : Float
  deriving DecidableEq, Repr

def Pair.toValue (pair : Pair) : Value := .object [("x", .double pair.x), ("y", .double pair.y)]

structure Crop where
  top : Int64 := 0
  bottom : Int64 := 0
  left : Int64 := 0
  right : Int64 := 0
  deriving DecidableEq, Repr

def Crop.ofMembers (members : Members) : Crop where
  top := members.integerAt "top"
  bottom := members.integerAt "bottom"
  left := members.integerAt "left"
  right := members.integerAt "right"

inductive Extent where
  | bounds (size : Pair) (kind : Int64)
  | scale (factors : Pair)
  deriving DecidableEq, Repr

def stretched : Int64 := 2

/-- A placed source. An item whose source is unknown has no name. -/
structure Item where
  id : Int64
  name : Option String
  position : Pair
  extent : Extent
  rotation : Option Float := none
  crop : Option Crop := none
  visible : Bool
  deriving DecidableEq, Repr

namespace Item

def extentMembers : Extent → Members
  | .bounds size kind => [("bounds", size.toValue), ("bounds_type", .integer kind)]
  | .scale factors => [("scale", factors.toValue)]

def cropMembers (crop : Crop) : Members :=
  [("crop_top", .integer crop.top), ("crop_bottom", .integer crop.bottom),
    ("crop_left", .integer crop.left), ("crop_right", .integer crop.right)]

def optional (key : String) (make : α → Value) (part : Option α) : Members :=
  match part with
  | some present => [(key, make present)]
  | none => []

def toValue (item : Item) : Value :=
  .object <|
    optional "name" .string item.name ++
    [("id", .integer item.id), ("pos", item.position.toValue)] ++
    extentMembers item.extent ++
    optional "rot" .double item.rotation ++
    (item.crop.map cropMembers).getD [] ++
    [("visible", .boolean item.visible)]

end Item

end BroadcastScenes.Scene
