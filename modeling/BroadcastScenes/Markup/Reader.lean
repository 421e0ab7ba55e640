import BroadcastScenes.Markup.Scalar
import BroadcastScenes.Markup.Tag
import BroadcastScenes.ReadError
import BroadcastScenes.Text.Blank
import BroadcastScenes.Text.Cut
import BroadcastScenes.Text.Lines

/-!
# Reading marked-up texts

Only the form that the files have is read: one opening tag to a line. A tag that is not closed on
its line owns the lines that follow it, up to the first that does not open a tag.
-/

namespace BroadcastScenes.Markup

open Text (NumberedLine)

def takeAttribute? (text : List Char) : Option (Taken (String × Value) text) := do
  let name ← Text.takeTo? '=' text
  match opening : name.rest with
  | '"' :: afterQuote => do
      let written ← Text.takeTo? '"' afterQuote
      some ⟨(String.ofList (Text.trim name.value), scalar written.value), written.rest, by
        have := name.shorter
        have := written.shorter
        simp_all; omega⟩
  | _ => none

def endsAttributes (text : List Char) : Bool :=
  text.isEmpty || ['>'].isPrefixOf text || ['/', '>'].isPrefixOf text

theorem length_trimStart_le (text : List Char) : (Text.trimStart text).length ≤ text.length :=
  (List.dropWhile_suffix Text.isBlank).length_le

def readAttributes? (attributes : Members) (text : List Char) : Option (Members × List Char) :=
  if endsAttributes (Text.trimStart text) then some (attributes, Text.trimStart text)
  else do
    let next ← takeAttribute? (Text.trimStart text)
    have := length_trimStart_le text
    have := next.shorter
    readAttributes? (attributes.insert next.value.1 next.value.2) next.rest
termination_by text.length

structure Opening where
  kind : String
  attributes : Members
  childless : Bool

def Opening.tag (opening : Opening) (children : List Tag) : Tag :=
  .mk opening.kind opening.attributes children

def isKindChar (c : Char) : Bool := c != ' ' && c != '>' && c != '/'

def closesItself (rest : List Char) : Bool :=
  Text.trimEnd rest == ['/', '>'] || Text.occursIn ['<', '/'] rest

def opening? (line : NumberedLine) : Except ReadError (Option Opening) :=
  match Text.dropIndent line.text with
  | '<' :: '/' :: _ => .ok none
  | '<' :: body =>
      match readAttributes? [] (body.dropWhile isKindChar) with
      | none => .error (.malformedAttribute line.number (String.ofList line.text))
      | some (attributes, rest) =>
          .ok (some ⟨String.ofList (body.takeWhile isKindChar), attributes, closesItself rest⟩)
  | _ => .ok none

/-- The tags up to a line that opens none, or up to the end of the text. That line is read as
well. -/
def readTags : (lines : List NumberedLine) → Except ReadError (Passed (List Tag) lines)
  | [] => .ok ⟨[], [], by simp⟩
  | line :: rest => do
      match ← opening? line with
      | none => .ok ⟨[], rest, by simp⟩
      | some opening =>
          if opening.childless then
            let more ← readTags rest
            have := more.within
            .ok ⟨opening.tag [] :: more.value, more.rest, by simp; omega⟩
          else
            let inner ← readTags rest
            have := inner.within
            let more ← readTags inner.rest
            have := more.within
            .ok ⟨opening.tag inner.value :: more.value, more.rest, by simp; omega⟩
termination_by lines => lines.length

def skipDeclaration : List NumberedLine → List NumberedLine
  | [] => []
  | line :: rest => if "<?xml".toList.isPrefixOf line.text then rest else line :: rest

def read (text : String) : Except ReadError (Option Tag) :=
  match skipDeclaration (Text.numberedLines text.toList) with
  | [] => .ok none
  | line :: rest => do
      match ← opening? line with
      | none => .ok none
      | some opening =>
          if opening.childless then .ok (some (opening.tag []))
          else do
            let inner ← readTags rest
            .ok (some (opening.tag inner.value))

end BroadcastScenes.Markup
