import BroadcastScenes.Value.Fields

/-!
# Colours and fonts

Colours of older files have 24 bits and are made opaque. Fonts have a style in words and the same
style again as a sum of flags.
-/

namespace BroadcastScenes

def opaqueAlpha : Int64 := 0xFF000000

/-- A colour of 24 bits made opaque. The bits above are dropped, so that a colour kept as a
negative number is the same colour. -/
def opaqueColor (rgb : Int64) : Int64 := (rgb &&& 0xFFFFFF) + opaqueAlpha

structure FontTraits where
  bold : Bool
  italic : Bool
  underline : Bool
  deriving DecidableEq, Repr

namespace FontTraits

def style (traits : FontTraits) : String :=
  match traits.bold, traits.italic with
  | true, true => "Bold Italic"
  | true, false => "Bold"
  | false, true => "Italic"
  | false, false => "Regular"

def flags (traits : FontTraits) : Int64 :=
  (if traits.bold then 1 else 0) + (if traits.italic then 2 else 0) +
    (if traits.underline then 4 else 0)

end FontTraits

example : opaqueColor (-1) = 0xFFFFFFFF := by decide

example : opaqueColor 0x112233 = 0xFF112233 := by decide

end BroadcastScenes
