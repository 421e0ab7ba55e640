import BroadcastScenes.Json.Printer
import BroadcastScenes.Json.Reader
import BroadcastScenes.Platform

/-!
# Import settings

What an import takes into account besides the file: the platform that the document is made for and
the size of the canvas. Settings are kept as JSON, and a setting that is left out has a default.
-/

namespace BroadcastScenes

/-- The size of the output in pixels. Geometry given in fractions is multiplied by it. -/
structure Canvas where
  width : UInt32 := 1920
  height : UInt32 := 1080
  deriving DecidableEq, Repr, Inhabited

structure Setting where
  platform : Platform := .linux
  canvas : Canvas := {}
  deriving DecidableEq, Repr, Inhabited

namespace Setting

open Json (Written)

/-- The member with this key of an object whose other members do not matter. The key may be
missing but not repeated, and every key must be a text. -/
def soleMember? (key : String) (members : List (Option String × Written)) :
    Option (Option Written) :=
  if members.all (·.1.isSome) then
    match members.filter (·.1 == some key) with
    | [] => some none
    | [(_, value)] => some (some value)
    | _ => none
  else none

def readPlatform? : Written → Option Platform
  | .string (some name) => Platform.ofName? name
  | .object [(some name, .null)] => Platform.ofName? name
  | _ => none

def readPixels? : Written → Option UInt32
  | .number literal => do
      let number ← literal.natural?
      if number < UInt32.size then some (UInt32.ofNat number) else none
  | _ => none

def readCanvas? : Written → Option Canvas
  | .object members => do
      let width ← readPixels? (← (← soleMember? "width" members))
      let height ← readPixels? (← (← soleMember? "height" members))
      some ⟨width, height⟩
  | .array [width, height] => do
      let width ← readPixels? width
      let height ← readPixels? height
      some ⟨width, height⟩
  | _ => none

def readOr (read : Written → Option α) (default : α) : Option Written → Option α
  | some written => read written
  | none => some default

/-- Settings by name, or in order with the last ones left out. -/
def ofWritten? : Written → Option Setting
  | .object members => do
      let platform ← soleMember? "platform" members
      let canvas ← soleMember? "canvas" members
      some ⟨← readOr readPlatform? .linux platform, ← readOr readCanvas? {} canvas⟩
  | .array [] => some {}
  | .array [platform] => do some { platform := ← readPlatform? platform }
  | .array [platform, canvas] => do some ⟨← readPlatform? platform, ← readCanvas? canvas⟩
  | _ => none

def parse? (text : String) : Option Setting := do ofWritten? (← Json.written? text)

def toJson (setting : Setting) : Json :=
  .object [("platform", .string setting.platform.name),
    ("canvas", .object [
      ("width", .integer (Int64.ofInt setting.canvas.width.toNat)),
      ("height", .integer (Int64.ofInt setting.canvas.height.toNat))])]

end Setting

end BroadcastScenes
