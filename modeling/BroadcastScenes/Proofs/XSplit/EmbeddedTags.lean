import BroadcastScenes.Proofs.Markup.RoundTrip
import BroadcastScenes.Proofs.Text.EncodedEntities
import BroadcastScenes.XSplit.Settings

/-!
# Embedded tags

The options of a capture are kept as a tag inside an attribute of its item, with entities for all
that means something in markup. Neither of the two readings sees anything of the other: the outer
one meets an attribute value like any other, and the inner one the tag as it was written.
-/

namespace BroadcastScenes

namespace Markup

def RawValue.encoded (text : String) (isOneLine : Text.IsOneLine text.toList) : RawValue where
  text := Text.encodeEntities text
  isOneLine := by
    intro c member
    rcases Text.mem_encodeEntities member with ⟨entry, entryMember, inEntity⟩ | ⟨inText, _⟩
    · have entitiesFit : ∀ entry ∈ Text.entities, Text.IsOneLine entry.1.toList := by decide
      exact entitiesFit entry entryMember c inEntity
    · exact isOneLine c inText
  noQuote := Text.quote_not_mem_encodeEntities text

theorem scalar_of_mem {written : List Char} {c : Char} (member : c ∈ written)
    (notDigit : c.isDigit = false) (notPoint : c ≠ '.') :
    scalar written = .string (String.ofList written) := by
  have isText : (written.isEmpty || written.any fun c => !c.isDigit && c != '.') = true := by
    rw [Bool.or_eq_true, List.any_eq_true]
    exact .inr ⟨c, member, by simp [notDigit, notPoint]⟩
  rw [scalar, if_pos isText]

theorem isOneLine_onlyLine (heading : Heading) (spelling : Spelling) :
    Text.IsOneLine (heading.onlyLine spelling) := by
  apply isOneLine_line
  cases spelling with
  | slash => exact (by decide : Text.IsOneLine ['/', '>'])
  | spacedSlash => exact (by decide : Text.IsOneLine [' ', '/', '>'])
  | closed text isOneLine =>
      have bracket : Text.IsOneLine ['>'] := by decide
      exact bracket.append (isOneLine.append (isOneLine_closingLine heading))

theorem opensWith_of_kind {heading : Heading} (hasKind : heading.kind.text.toList ≠ [])
    (spelling : Spelling) : heading.OpensWith spelling := by
  intro begins
  have noSlash := heading.kind.noSlash
  cases kind : heading.kind.text.toList with
  | nil => exact hasKind kind
  | cons head tail =>
      rw [kind] at noSlash
      rw [Heading.onlyLine, Heading.line, kind] at begins
      have first := (List.cons_prefix_cons.mp (List.cons_prefix_cons.mp begins).2).1
      exact noSlash (first ▸ List.mem_cons_self)

theorem read_onlyLine {heading : Heading} (hasKind : heading.kind.text.toList ≠ [])
    (notDeclaration : ¬ "?xml".toList <+: heading.kind.text.toList) (spelling : Spelling) :
    read (String.ofList (heading.onlyLine spelling)) = .ok (some (heading.tag [])) := by
  let document : Document := ⟨heading, .nil, notDeclaration⟩
  have written : document.IsWrittenAs Heading.OpensWith
      (String.ofList (heading.onlyLine spelling)) := by
    refine ⟨[], _, .inl rfl,
      .single Text.isIndent_nil (opensWith_of_kind hasKind spelling) .nil, ?_⟩
    rw [String.toList_ofList]
    exact .unended (isOneLine_onlyLine heading spelling)
      (by simp [Heading.onlyLine, Heading.line])
  exact read_eq_of_isWrittenAs written

end Markup

namespace XSplit

open Markup (Heading Spelling)

def captureHeading (attributes : List Markup.Attribute)
    (nodup : (attributes.map Markup.Attribute.key).Nodup) : Heading where
  kind := .mk "src"
  attributes := attributes
  nodup := nodup

def itemLine (options : String) : String :=
  "<item item=\"" ++ Text.encodeEntities options ++ "\"/>"

theorem exists_read_itemLine {options : String} (isOneLine : Text.IsOneLine options.toList)
    (hasBracket : '<' ∈ options.toList) :
    ∃ tag, Markup.read (itemLine options) = .ok (some tag) ∧
      tag.attributes.textAt "item" = Text.encodeEntities options := by
  let heading : Heading :=
    { kind := .mk "item"
      attributes := [⟨.mk "item", .encoded options isOneLine⟩]
      nodup := by simp }
  have line : heading.onlyLine .slash = (itemLine options).toList := by
    simp [heading, Heading.onlyLine, Heading.line, Heading.ending, Markup.Attribute.written,
      Markup.RawValue.encoded, itemLine]
  have reading : Markup.read (String.ofList (heading.onlyLine .slash)) =
      .ok (some (heading.tag [])) :=
    Markup.read_onlyLine (by simp [heading]) (by simp [heading]) .slash
  rw [line, String.ofList_toList] at reading
  refine ⟨heading.tag [], reading, ?_⟩
  -- A value that was no text could be written out in another way than it was read.
  have ampersand : '&' ∈ (Text.encodeEntities options).toList :=
    Text.mem_encodeEntities_of_mem hasBracket (by decide)
  have isText : Markup.scalar (Text.encodeEntities options).toList =
      .string (Text.encodeEntities options) := by
    rw [Markup.scalar_of_mem ampersand rfl (by decide), String.ofList_toList]
  have item : (heading.tag []).attributes.find? "item" =
      some (Markup.scalar (Text.encodeEntities options).toList) := rfl
  rw [Members.textAt, item, isText]
  rfl

/-- The attributes of a tag are found again behind the item that holds the tag with entities: the
values may look like entities or like tags themselves. -/
theorem embedded_attributes_are_read_back (attributes : List Markup.Attribute)
    (nodup : (attributes.map Markup.Attribute.key).Nodup) (spelling : Spelling) :
    ∃ tag, Markup.read (itemLine (String.ofList
        ((captureHeading attributes nodup).onlyLine spelling))) = .ok (some tag) ∧
      innerAttributes tag.attributes = attributes.map Markup.Attribute.entry := by
  have isOneLine := Markup.isOneLine_onlyLine (captureHeading attributes nodup) spelling
  have hasBracket : '<' ∈ (captureHeading attributes nodup).onlyLine spelling :=
    List.mem_cons_self
  have hasKind : (captureHeading attributes nodup).kind.text.toList ≠ [] := by
    simp [captureHeading]
  have notDeclaration :
      ¬ "?xml".toList <+: (captureHeading attributes nodup).kind.text.toList := by
    simp [captureHeading]
  rw [← String.toList_ofList (l := (captureHeading attributes nodup).onlyLine spelling)]
    at isOneLine hasBracket
  rcases exists_read_itemLine isOneLine hasBracket with ⟨tag, reading, item⟩
  refine ⟨tag, reading, ?_⟩
  rw [innerAttributes, item, Text.decodeEntities_encodeEntities,
    Markup.read_onlyLine hasKind notDeclaration]
  rfl

def windowAttributes : List Markup.Attribute :=
  [⟨.mk "window", .mk "<a/> &lt; &amp;quot; 'b'"⟩, ⟨.mk "&", .mk "&&"⟩, ⟨.mk "size", .mk "12"⟩]

theorem embedded_attributes_are_read_back_window :
    itemLine (String.ofList ((captureHeading windowAttributes (by decide)).onlyLine .slash)) =
      "<item item=\"&lt;src window=&quot;&lt;a/&gt; &amp;lt; &amp;amp;quot; &apos;b&apos;&quot; " ++
        "&amp;=&quot;&amp;&amp;&quot; size=&quot;12&quot;/&gt;\"/>" ∧
    ∃ tag, Markup.read (itemLine (String.ofList
        ((captureHeading windowAttributes (by decide)).onlyLine .slash))) = .ok (some tag) ∧
      innerAttributes tag.attributes =
        [("window", .string "<a/> &lt; &amp;quot; 'b'"), ("&", .string "&&"),
          ("size", .integer 12)] := by
  have entries : windowAttributes.map Markup.Attribute.entry =
      [("window", .string "<a/> &lt; &amp;quot; 'b'"), ("&", .string "&&"),
        ("size", .integer 12)] := by
    rfl
  refine ⟨by decide +kernel, ?_⟩
  rw [← entries]
  exact embedded_attributes_are_read_back windowAttributes (by decide) .slash

end XSplit

end BroadcastScenes
