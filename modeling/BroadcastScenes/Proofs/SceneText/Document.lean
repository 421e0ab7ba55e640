import BroadcastScenes.Decimal.Word
import BroadcastScenes.Proofs.Text.JoinedLines
import BroadcastScenes.Proofs.Text.Trimming
import BroadcastScenes.SceneText.Reader

/-!
# Documents and how they are written

A document is what a scene text can say: lists of named objects, which hold values, objects, and
again lists of named objects. It is written one line after the other. Keys and texts are limited to
what a line can hold without being mistaken for something else.
-/

namespace BroadcastScenes.SceneText

/-! ## Keys and values -/

/-- The key of a value. It ends at the first colon, and the indent of its line is not part of it. -/
structure ItemKey where
  text : String
  isOneLine : Text.IsOneLine text.toList := by decide
  noColon : ':' ∉ text.toList := by decide
  notIndented : text.toList.head? ≠ some ' ' ∧ text.toList.head? ≠ some '\t' := by decide

/-- The name of an object, or the key of a block. There may be colons and braces in it, but no
blanks around it. -/
structure BlockKey where
  text : String
  isOneLine : Text.IsOneLine text.toList := by decide
  trimmed : Text.trim text.toList = text.toList := by decide

def sourcesKey : BlockKey := .mk "sources"

def sharedKey : BlockKey := .mk "global sources"

def scenesKey : BlockKey := .mk "scenes"

structure ObjectKey extends BlockKey where
  notList : isListKey text.toList = false := by decide

structure QuotedText where
  text : String
  isOneLine : Text.IsOneLine text.toList := by decide
  noPair : ¬ ['\\', '\\'] <:+: text.toList := by decide

inductive Scalar where
  | integer (number : Int64)
  | quoted (content : QuotedText)

def Scalar.toValue : Scalar → Value
  | integer number => .integer number
  | quoted content => .string content.text

/-! ## Objects and lists of objects -/

mutual

inductive Body where
  | nil
  | value (key : ItemKey) (scalar : Scalar) (rest : Body)
  /-- An array of at least two values. -/
  | values (key : ItemKey) (first second : Scalar) (more : List Scalar) (rest : Body)
  | object (key : ObjectKey) (inner : Body) (rest : Body)
  /-- The list of named objects that an object may have. -/
  | sources (objects : Objects) (rest : Body)

inductive Objects where
  | nil
  | cons (name : BlockKey) (body : Body) (rest : Objects)

end

mutual

def Body.members : Body → Members
  | .nil => []
  | .value key scalar rest => (key.text, scalar.toValue) :: rest.members
  | .values key first second more rest =>
      (key.text, .array ((first :: second :: more).map Scalar.toValue)) :: rest.members
  | .object key inner rest => (key.text, .object inner.members) :: rest.members
  | .sources objects rest => ("sources", .array objects.values) :: rest.members

/-- The name is the last member of an object. -/
def Objects.values : Objects → List Value
  | .nil => []
  | .cons name body rest =>
      .object (body.members ++ [("name", .string name.text)]) :: rest.values

end

def Body.keys (body : Body) : List String := Entries.keys body.members

mutual

def Body.Distinct : Body → Prop
  | .nil => True
  | .value key _ rest => key.text ∉ rest.keys ∧ rest.Distinct
  | .values key _ _ _ rest => key.text ∉ rest.keys ∧ rest.Distinct
  | .object key inner rest => key.text ∉ rest.keys ∧ inner.Distinct ∧ rest.Distinct
  | .sources objects rest => "sources" ∉ rest.keys ∧ objects.Distinct ∧ rest.Distinct

def Objects.Distinct : Objects → Prop
  | .nil => True
  | .cons _ body rest => "name" ∉ body.keys ∧ body.Distinct ∧ rest.Distinct

end

/-! ## Documents -/

inductive TopBlock where
  | shared (objects : Objects)
  | scenes (objects : Objects)

namespace TopBlock

def key : TopBlock → String
  | shared _ => "globals"
  | scenes _ => "scenes"

def objects : TopBlock → Objects
  | shared objects => objects
  | scenes objects => objects

end TopBlock

/-- A document has each of the two blocks at most once, in either order. -/
structure Document where
  blocks : List TopBlock
  nodup : (blocks.map TopBlock.key).Nodup := by decide

namespace Document

def members (document : Document) : Members :=
  document.blocks.map fun block => (block.key, .array block.objects.values)

def Distinct (document : Document) : Prop := ∀ block ∈ document.blocks, block.objects.Distinct

end Document

/-! ## Lines -/

structure Line where
  content : List Char
  /-- Spaces and tabs may stand in front of it. -/
  indentable : Bool := true

def headerEnd : List Char := [' ', ':', ' ', '\x7b']

def headerLine (key : String) : Line := ⟨key.toList ++ headerEnd, true⟩

def closingLine : Line := ⟨['\x7d'], true⟩

def Scalar.written : Scalar → List Char
  | integer number => Decimal.integerText number.toInt
  | quoted content => '"' :: content.text.toList ++ ['"']

def itemLine (key : ItemKey) (scalar : Scalar) : Line :=
  ⟨key.text.toList ++ [' ', ':', ' '] ++ scalar.written, true⟩

def blockLines (header : Line) (inner : List Line) : List Line :=
  header :: (inner ++ [closingLine])

mutual

def Body.lines : Body → List Line
  | .nil => []
  | .value key scalar rest => itemLine key scalar :: rest.lines
  | .values key first second more rest =>
      (first :: second :: more).map (itemLine key) ++ rest.lines
  | .object key inner rest => blockLines (headerLine key.text) inner.lines ++ rest.lines
  | .sources objects rest => blockLines (headerLine "sources") objects.lines ++ rest.lines

def Objects.lines : Objects → List Line
  | .nil => []
  | .cons name body rest => blockLines (headerLine name.text) body.lines ++ rest.lines

end

/-- The header of the shared objects is recognized at the very start of its line only. -/
def TopBlock.header : TopBlock → Line
  | shared _ => ⟨sharedHeader, false⟩
  | scenes _ => headerLine "scenes"

def TopBlock.lines (block : TopBlock) : List Line :=
  blockLines block.header block.objects.lines

def Document.lines (document : Document) : List Line := document.blocks.flatMap TopBlock.lines

/-- The rows are the lines, with spaces and tabs in front and with blank rows between them. -/
inductive LaidOut : List Line → List (List Char) → Prop
  | done : LaidOut [] []
  | blank {lines : List Line} {rows : List (List Char)} {row : List Char}
      (isBlank : Text.allBlank row = true) (rest : LaidOut lines rows) :
      LaidOut lines (row :: rows)
  | line {lines : List Line} {rows : List (List Char)} {line : Line} {indent : List Char}
      (isIndent : Text.IsIndent indent) (allowed : line.indentable = false → indent = [])
      (rest : LaidOut lines rows) : LaidOut (line :: lines) ((indent ++ line.content) :: rows)

/-- The text writes the document, in whatever layout and with whatever line terminators. -/
def Document.IsWrittenAs (document : Document) (text : String) : Prop :=
  ∃ rows, LaidOut document.lines rows ∧ Text.Joins rows text.toList

def Document.render (document : Document) : String :=
  String.ofList
    (document.lines.flatMap fun line => line.content ++ Text.Terminator.both.toChars)

end BroadcastScenes.SceneText
