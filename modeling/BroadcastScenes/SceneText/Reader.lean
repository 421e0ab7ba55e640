import BroadcastScenes.ReadError
import BroadcastScenes.SceneText.Scalar
import BroadcastScenes.Text.LowerCase
import BroadcastScenes.Text.Lines

/-!
# Reading scene texts

A scene text is made of lines `key : value` in nested blocks. A line that ends in an opening brace
opens a block, and a line that ends in a closing brace closes the innermost one. There are two
kinds of block: a list block holds named objects, each again a block, and an object block holds
values, objects, and list blocks under keys that start with `sources`.
-/

namespace BroadcastScenes.SceneText

open Text (NumberedLine)

def closes (line : List Char) : Bool := (Text.trimEnd line).getLast? == some '\x7d'

def opens (line : List Char) : Bool := (Text.trimEnd line).getLast? == some '\x7b'

def headerKey? (line : List Char) : Option (List Char) :=
  let body := Text.trimEnd (Text.dropFinal '\x7b' (Text.trimEnd (Text.dropIndent line)))
  if body.getLast? = some ':' then some (Text.trim body.dropLast) else none

/-- The key and the written value of a line `key : value`. One space before the colon belongs to
the layout. -/
def keyAndValue? (line : List Char) : Option (List Char × List Char) :=
  (Text.cutAt? ':' (Text.dropIndent line)).map fun (key, written) =>
    (Text.dropFinal ' ' key, written)

def isListKey (key : List Char) : Bool := "sources".toList.isPrefixOf (Text.lowerAscii key)

def collect (key : String) (value : Value) (members : Members) : Members :=
  match members.find? key with
  | none => members.insert key value
  | some (.array values) => members.insert key (.array (values ++ [value]))
  | some first => members.insert key (.array [first, value])

def missingColon (line : NumberedLine) : ReadError :=
  .missingColon line.number (String.ofList line.text)

mutual

def readList (total : Nat) (objects : List Value) :
    (lines : List NumberedLine) → Except ReadError (Taken (List Value) lines)
  | [] => .error (.unexpectedEnd total)
  | line :: rest =>
      if Text.allBlank line.text then
        (readList total objects rest).map (·.widen (Nat.le_succ _))
      else if closes line.text then .ok ⟨objects, rest, Nat.lt_succ_self _⟩
      else
        match headerKey? line.text with
        | none => .error (missingColon line)
        | some key => do
            let body ← readObject total [] rest
            have := body.shorter
            let name := Value.string (String.ofList key)
            let more ←
              readList total (objects ++ [.object (body.value.insert "name" name)]) body.rest
            .ok (more.widen (body.length_rest_le_cons line))
termination_by lines => lines.length

def readObject (total : Nat) (members : Members) :
    (lines : List NumberedLine) → Except ReadError (Taken Members lines)
  | [] => .error (.unexpectedEnd total)
  | line :: rest =>
      if Text.allBlank line.text then
        (readObject total members rest).map (·.widen (Nat.le_succ _))
      else if closes line.text then .ok ⟨members, rest, Nat.lt_succ_self _⟩
      else if opens line.text then
        match headerKey? line.text with
        | none => .error (missingColon line)
        | some key =>
            if isListKey key then do
              let inner ← readList total [] rest
              have := inner.shorter
              let more ← readObject total (members.insert "sources" (.array inner.value)) inner.rest
              .ok (more.widen (inner.length_rest_le_cons line))
            else do
              let inner ← readObject total [] rest
              have := inner.shorter
              let more ←
                readObject total (members.insert (String.ofList key) (.object inner.value))
                  inner.rest
              .ok (more.widen (inner.length_rest_le_cons line))
      else
        match keyAndValue? line.text with
        | none => .error (missingColon line)
        | some (key, written) =>
            (readObject total (collect (String.ofList key) (scalar written) members) rest).map
              (·.widen (Nat.le_succ _))
termination_by lines => lines.length

end

def sharedHeader : List Char := "global sources : \x7b".toList

def readBlocks (total : Nat) (members : Members) :
    (lines : List NumberedLine) → Except ReadError Members
  | [] => .ok members
  | line :: rest =>
      if Text.allBlank line.text then readBlocks total members rest
      else
        match headerKey? line.text with
        | none => .error (missingColon line)
        | some _ => do
            let block ← readList total [] rest
            have := block.shorter
            let key := if Text.trimEnd line.text = sharedHeader then "globals" else "scenes"
            readBlocks total (members.insert key (.array block.value)) block.rest
termination_by lines => lines.length

/-- The content of a scene text: the objects shared by all scenes under `globals`, and the scenes
under `scenes`. Of several blocks of the same kind the last one counts. -/
def read (text : String) : Except ReadError Members :=
  let lines := Text.numberedLines text.toList
  readBlocks lines.length [] lines

end BroadcastScenes.SceneText
