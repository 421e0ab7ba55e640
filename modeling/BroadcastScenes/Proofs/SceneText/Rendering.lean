import BroadcastScenes.Proofs.Decimal.WrittenIntegers
import BroadcastScenes.Proofs.SceneText.Document

/-!
# Rendering documents

Every document can be written: none of the lines that it is made of holds a line terminator, so that
they can be put one behind the other.
-/

namespace BroadcastScenes.SceneText

theorem isOneLine_written (value : Scalar) : Text.IsOneLine value.written := by
  cases value with
  | integer number =>
      intro c member
      constructor <;> rintro rfl <;>
        exact absurd (Decimal.isDigit_or_eq_minus_of_mem_integerText member) (by decide)
  | quoted content =>
      have quote : Text.IsOneLine ['"'] := by decide
      exact (quote.append content.isOneLine).append quote

def LinesFit (lines : List Line) : Prop := ∀ line ∈ lines, Text.IsOneLine line.content

theorem LinesFit.append {front back : List Line} (frontFits : LinesFit front)
    (backFits : LinesFit back) : LinesFit (front ++ back) := by
  intro line member
  rcases List.mem_append.mp member with left | right
  · exact frontFits line left
  · exact backFits line right

theorem linesFit_headerLine (key : BlockKey) : LinesFit [headerLine key.text] := by
  intro line member
  rw [List.mem_singleton.mp member]
  exact key.isOneLine.append (by decide)

theorem linesFit_items (key : ItemKey) (values : List Scalar) :
    LinesFit (values.map (itemLine key)) := by
  intro line member
  rcases List.mem_map.mp member with ⟨value, _, rfl⟩
  exact (key.isOneLine.append (by decide)).append (isOneLine_written value)

theorem linesFit_blockLines {header : Line} {inner : List Line} (headerFits : LinesFit [header])
    (innerFits : LinesFit inner) : LinesFit (blockLines header inner) := by
  have closing : LinesFit [closingLine] := by
    intro line member
    rw [List.mem_singleton.mp member]
    decide
  exact headerFits.append (innerFits.append closing)

mutual

theorem linesFit_body : (body : Body) → LinesFit body.lines
  | .nil => fun _ member => absurd member List.not_mem_nil
  | .value key value rest => (linesFit_items key [value]).append (linesFit_body rest)
  | .values key first second more rest =>
      (linesFit_items key (first :: second :: more)).append (linesFit_body rest)
  | .object key inner rest =>
      (linesFit_blockLines (linesFit_headerLine key.toBlockKey) (linesFit_body inner)).append
        (linesFit_body rest)
  | .sources objects rest =>
      (linesFit_blockLines (linesFit_headerLine sourcesKey) (linesFit_objects objects)).append
        (linesFit_body rest)

theorem linesFit_objects : (objects : Objects) → LinesFit objects.lines
  | .nil => fun _ member => absurd member List.not_mem_nil
  | .cons name body rest =>
      (linesFit_blockLines (linesFit_headerLine name) (linesFit_body body)).append
        (linesFit_objects rest)

end

theorem linesFit_topBlock (block : TopBlock) : LinesFit block.lines := by
  apply linesFit_blockLines _ (linesFit_objects block.objects)
  cases block with
  | shared objects =>
      intro line member
      rw [List.mem_singleton.mp member]
      exact (by decide : Text.IsOneLine sharedHeader)
  | scenes objects => exact linesFit_headerLine scenesKey

theorem linesFit_document (document : Document) : LinesFit document.lines := by
  intro line member
  rcases List.mem_flatMap.mp member with ⟨block, _, lineMember⟩
  exact linesFit_topBlock block line lineMember

theorem laidOut_content (lines : List Line) : LaidOut lines (lines.map Line.content) := by
  induction lines with
  | nil => exact .done
  | cons line rest induction => exact .line Text.isIndent_nil (fun _ => rfl) induction

theorem isWrittenAs_render (document : Document) : document.IsWrittenAs document.render := by
  refine ⟨_, laidOut_content document.lines, ?_⟩
  rw [Document.render, String.toList_ofList]
  have fit : ∀ row ∈ document.lines.map Line.content, Text.IsOneLine row := by
    intro row member
    rcases List.mem_map.mp member with ⟨line, lineMember, rfl⟩
    exact linesFit_document document line lineMember
  have joins := Text.joins_flatMap fit
  rwa [List.flatMap_map] at joins

end BroadcastScenes.SceneText
