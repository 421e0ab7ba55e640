import BroadcastScenes.Proofs.Json.SlashedStrings
import BroadcastScenes.Proofs.Text.Cuts
import BroadcastScenes.Proofs.Text.EncodedEntities
import BroadcastScenes.XSplit.Settings

/-!
# Titles

The text of a title is kept as JSON behind the name of its plugin, with entities. The entities are
decoded as they should be, but the backslashes of the JSON are rewritten before it is read, so a
text survives only if JSON writes it without any.
-/

namespace BroadcastScenes.XSplit

open Json (IsVerbatim slashed)

def titleItem (text : String) : String :=
  titlePlugin ++ Text.encodeEntities (Value.object [("text", .string text)]).json

def shownTitle (text : String) : String :=
  if '"' ∈ text.toList then "" else String.ofList (text.toList.flatMap slashed)

def titleStart : List Char := '\x7b' :: (Json.quoted "text" ++ [':', '"'])

theorem json_title (text : String) :
    (Value.object [("text", .string text)]).json =
      String.ofList (titleStart ++ (text.toList.flatMap Json.escapedText ++ ['"', '\x7d'])) := by
  simp [titleStart, Value.json, Value.toJson, Value.toJsonMembers, Json.compact, Json.compactText,
    Json.compactMembers, Json.scalarText, Json.quoted]

theorem slashedObject_text (text : List Char) :
    Json.slashedObject "text" text =
      titleStart ++ (text.flatMap slashed ++ ['"', '\x7d']) := by
  simp [titleStart, Json.slashedObject, Json.behindQuote]

theorem pluginOptions_titleItem (text : String) :
    pluginOptions (titleItem text) =
      if '"' ∈ text.toList then []
      else [("text", .string (String.ofList (text.toList.flatMap slashed)))] := by
  have cut : Text.cutAt? '*' (titleItem text).toList =
      some ("html:plugin:titleplg".toList,
        (Text.encodeEntities (Value.object [("text", .string text)]).json).toList) := by
    have split : (titleItem text).toList = "html:plugin:titleplg".toList ++ '*' ::
        (Text.encodeEntities (Value.object [("text", .string text)]).json).toList := by
      simp [titleItem, titlePlugin]
    rw [split, Text.cutAt?_append (by decide)]
  rw [pluginOptions, cut]
  dsimp only
  rw [String.ofList_toList, Text.decodeEntities_encodeEntities, json_title,
    Json.forwardSlashes_collapseSlashes (by decide) (by decide), ← slashedObject_text, Value.parse?,
    Json.read?_slashedObject]
  split <;> rfl

theorem shownTitle_eq_iff (text : String) :
    shownTitle text = text ↔ ∀ c ∈ text.toList, IsVerbatim c := by
  rw [shownTitle]
  split
  · rename_i quote
    constructor
    · intro lost
      rw [← lost] at quote
      cases quote
    · intro verbatim
      exact absurd (verbatim '"' quote) (by decide)
  · rw [← String.toList_inj, String.toList_ofList]
    exact Json.flatMap_slashed_eq_iff

/-- The text setting of a title is known from its text alone, and it is the text itself exactly
if there is no quote, no backslash and no control character in it. -/
theorem titles_keep_plain_texts (text : String) :
    (titleSettings (pluginOptions (titleItem text))).find? "text" =
        some (.string (shownTitle text)) ∧
      (shownTitle text = text ↔ ∀ c ∈ text.toList, c ≠ '"' ∧ c ≠ '\\' ∧ 0x20 ≤ c.toNat) := by
  constructor
  · have setting : (titleSettings (pluginOptions (titleItem text))).find? "text" =
        some (.string ((pluginOptions (titleItem text)).textAt "text")) := rfl
    rw [setting, pluginOptions_titleItem, shownTitle]
    split <;> rfl
  · rw [shownTitle_eq_iff]
    simp only [Json.isVerbatim_iff]

/-- A line break becomes a slash and a letter. -/
example : shownTitle "two\nlines" = "two/nlines" := by decide +kernel

/-- A text with a quote is lost altogether. -/
example : shownTitle "say \"hi\"" = "" := by decide +kernel

end BroadcastScenes.XSplit
