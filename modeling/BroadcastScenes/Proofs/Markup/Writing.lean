import BroadcastScenes.Markup.Reader
import BroadcastScenes.Proofs.Text.JoinedLines
import BroadcastScenes.Proofs.Text.Trimming

/-!
# How tags are written

A tag with its attributes and the tags inside it is written on lines of its own, from its opening
line to its closing line. A tag with nothing inside may be written on one line instead.
-/

namespace BroadcastScenes.Markup

/-! ## Tags to write -/

structure TagKind where
  text : String
  isOneLine : Text.IsOneLine text.toList := by decide
  noSpace : ' ' ∉ text.toList := by decide
  noBracket : '>' ∉ text.toList := by decide
  noSlash : '/' ∉ text.toList := by decide

/-- There may be blanks in the name of an attribute but not around it, and it must not begin like
the end of a tag. -/
structure AttributeName where
  text : String
  isOneLine : Text.IsOneLine text.toList := by decide
  noEquals : '=' ∉ text.toList := by decide
  trimmed : Text.trim text.toList = text.toList := by decide
  notBracket : ¬ ['>'] <+: text.toList := by decide
  notSlash : ¬ ['/', '>'] <+: text.toList := by decide

def AttributeName.ofName : AttributeName := .mk "name"

structure RawValue where
  text : String
  isOneLine : Text.IsOneLine text.toList := by decide
  noQuote : '"' ∉ text.toList := by decide

structure Attribute where
  name : AttributeName
  raw : RawValue

namespace Attribute

def key (pair : Attribute) : String := pair.name.text

def entry (pair : Attribute) : String × Value :=
  (pair.key, scalar pair.raw.text.toList)

def written (pair : Attribute) : List Char :=
  ' ' :: (pair.name.text.toList ++ '=' :: '"' :: (pair.raw.text.toList ++ ['"']))

end Attribute

structure Heading where
  kind : TagKind
  attributes : List Attribute
  nodup : (attributes.map Attribute.key).Nodup := by decide

def Heading.tag (heading : Heading) (children : List Tag) : Tag :=
  .mk heading.kind.text (heading.attributes.map Attribute.entry) children

inductive Forest where
  | nil
  | cons (heading : Heading) (children rest : Forest)

def Forest.tags : Forest → List Tag
  | .nil => []
  | .cons heading children rest => heading.tag children.tags :: rest.tags

/-- What a text can hold. The kind of the outermost tag must not be mistaken for the declaration
that a text may begin with. -/
structure Document where
  root : Heading
  children : Forest
  notDeclaration : ¬ "?xml".toList <+: root.kind.text.toList := by decide

def Document.tag (document : Document) : Tag := document.root.tag document.children.tags

/-! ## Lines -/

namespace Heading

def line (heading : Heading) (ending : List Char) : List Char :=
  '<' :: (heading.kind.text.toList ++ (heading.attributes.flatMap Attribute.written ++ ending))

def openingLine (heading : Heading) : List Char := heading.line ['>']

def closingLine (heading : Heading) : List Char :=
  ['<', '/'] ++ heading.kind.text.toList ++ ['>']

end Heading

inductive Spelling where
  | slash
  | spacedSlash
  /-- A closing tag behind some text, which may itself look like tags. -/
  | closed (text : String) (isOneLine : Text.IsOneLine text.toList)

def Heading.ending (heading : Heading) : Spelling → List Char
  | .slash => ['/', '>']
  | .spacedSlash => [' ', '/', '>']
  | .closed text _ => '>' :: (text.toList ++ heading.closingLine)

def Heading.onlyLine (heading : Heading) (spelling : Spelling) : List Char :=
  heading.line (heading.ending spelling)

def Heading.OpensWith (heading : Heading) (spelling : Spelling) : Prop :=
  ¬ ['<', '/'] <+: heading.onlyLine spelling

instance (heading : Heading) (spelling : Spelling) : Decidable (heading.OpensWith spelling) :=
  inferInstanceAs (Decidable (¬ _ <+: _))

/-- The rows write the tags, each row with spaces and tabs in front. Tags with nothing inside are
spelled on one line only as far as that is allowed. -/
inductive Writes (allowed : Heading → Spelling → Prop) : Forest → List (List Char) → Prop
  | nil : Writes allowed .nil []
  | block {heading : Heading} {children rest : Forest} {inner rows : List (List Char)}
      {indent closingIndent : List Char} (isIndent : Text.IsIndent indent)
      (isClosingIndent : Text.IsIndent closingIndent)
      (inside : Writes allowed children inner) (behind : Writes allowed rest rows) :
      Writes allowed (.cons heading children rest)
        ((indent ++ heading.openingLine) ::
          (inner ++ (closingIndent ++ heading.closingLine) :: rows))
  | single {heading : Heading} {rest : Forest} {rows : List (List Char)} {indent : List Char}
      {spelling : Spelling} (isIndent : Text.IsIndent indent) (isAllowed : allowed heading spelling)
      (behind : Writes allowed rest rows) :
      Writes allowed (.cons heading .nil rest) ((indent ++ heading.onlyLine spelling) :: rows)

def IsDeclaration (lines : List (List Char)) : Prop :=
  lines = [] ∨ ∃ line, lines = [line] ∧ "<?xml".toList <+: line

/-- The text writes the document, whatever the indents and the line terminators are. -/
def Document.IsWrittenAs (document : Document) (allowed : Heading → Spelling → Prop)
    (text : String) : Prop :=
  ∃ declaration rows, IsDeclaration declaration ∧
    Writes allowed (.cons document.root document.children .nil) rows ∧
    Text.Joins (declaration ++ rows) text.toList

/-! ## Rendering -/

def Forest.lines : Forest → List (List Char)
  | .nil => []
  | .cons heading children rest =>
      heading.openingLine :: (children.lines ++ heading.closingLine :: rest.lines)

def Document.render (document : Document) : String :=
  String.ofList ((Forest.cons document.root document.children .nil).lines.flatMap fun line =>
    line ++ Text.Terminator.both.toChars)

theorem isOneLine_written (pair : Attribute) : Text.IsOneLine pair.written := by
  have space : Text.IsOneLine [' '] := by decide
  have opening : Text.IsOneLine ['=', '"'] := by decide
  have closing : Text.IsOneLine ['"'] := by decide
  exact space.append (pair.name.isOneLine.append
    (opening.append (pair.raw.isOneLine.append closing)))

theorem isOneLine_line (heading : Heading) {ending : List Char}
    (endingFits : Text.IsOneLine ending) : Text.IsOneLine (heading.line ending) := by
  have bracket : Text.IsOneLine ['<'] := by decide
  have attributesFit : Text.IsOneLine (heading.attributes.flatMap Attribute.written) := by
    intro c member
    rcases List.mem_flatMap.mp member with ⟨pair, _, inPair⟩
    exact isOneLine_written pair c inPair
  exact bracket.append (heading.kind.isOneLine.append (attributesFit.append endingFits))

theorem isOneLine_closingLine (heading : Heading) : Text.IsOneLine heading.closingLine := by
  have opening : Text.IsOneLine ['<', '/'] := by decide
  have closing : Text.IsOneLine ['>'] := by decide
  exact (opening.append heading.kind.isOneLine).append closing

theorem isOneLine_of_mem_lines {forest : Forest} {line : List Char}
    (member : line ∈ forest.lines) : Text.IsOneLine line := by
  induction forest with
  | nil => exact absurd member List.not_mem_nil
  | cons heading children rest inChildren inRest =>
      simp only [Forest.lines, List.mem_cons, List.mem_append] at member
      rcases member with rfl | member | rfl | member
      · exact isOneLine_line heading (by decide)
      · exact inChildren member
      · exact isOneLine_closingLine heading
      · exact inRest member

theorem writes_lines (allowed : Heading → Spelling → Prop) (forest : Forest) :
    Writes allowed forest forest.lines := by
  induction forest with
  | nil => exact .nil
  | cons heading children rest inside behind =>
      exact .block Text.isIndent_nil Text.isIndent_nil inside behind

theorem isWrittenAs_render (allowed : Heading → Spelling → Prop) (document : Document) :
    document.IsWrittenAs allowed document.render := by
  refine ⟨[], _, .inl rfl, writes_lines allowed _, ?_⟩
  rw [Document.render, String.toList_ofList]
  exact Text.joins_flatMap fun line member => isOneLine_of_mem_lines member

end BroadcastScenes.Markup
