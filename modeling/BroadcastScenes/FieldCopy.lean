import BroadcastScenes.Appearance
import BroadcastScenes.Text.Slashes

/-!
# Copying fields

Most settings of a source are carried over one by one, under a new name and in a fixed type. A
table of such copies is run over the settings of a file; what is missing there is written with the
default of its type.
-/

namespace BroadcastScenes

inductive Conversion where
  /-- Any scalar, written out. -/
  | text
  /-- A text with doubled backslashes, written with slashes. -/
  | path
  | integer
  | double
  | flag
  /-- A flag that is set when the number is one. -/
  | isOne
  /-- A colour of 24 bits, made opaque. -/
  | color
  deriving DecidableEq, Repr

structure FieldCopy where
  source : String
  target : String
  conversion : Conversion
  deriving DecidableEq, Repr

namespace FieldCopy

def result (copy : FieldCopy) (input : Members) : Value :=
  match copy.conversion with
  | .text => .string (input.textAt copy.source)
  | .path => .string (Text.collapseSlashes (input.textAt copy.source))
  | .integer => .integer (input.integerAt copy.source)
  | .double => .double (input.doubleAt copy.source)
  | .flag => .boolean (input.flagAt copy.source)
  | .isOne => .boolean (input.isOneAt copy.source)
  | .color => .integer (opaqueColor (input.integerAt copy.source))

def run (table : List FieldCopy) (input out : Members) : Members :=
  table.foldl (fun sofar copy => sofar.insert copy.target (copy.result input)) out

end FieldCopy

end BroadcastScenes
