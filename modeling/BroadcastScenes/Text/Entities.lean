import BroadcastScenes.Text.Cut

/-!
# Character entities

Attribute values hold marked-up text in which the five characters that mean something in markup
are spelled as entities.
-/

namespace BroadcastScenes.Text

/-- Every occurrence of `mark` in the text, found from the left and without overlap, as
`replacement`. An empty mark occurs nowhere. -/
def replaceAll (mark replacement : List Char) (text : List Char) : List Char :=
  match text with
  | [] => []
  | c :: rest =>
      if !mark.isEmpty && mark.isPrefixOf (c :: rest) then
        replacement ++ replaceAll mark replacement (rest.drop (mark.length - 1))
      else c :: replaceAll mark replacement rest
termination_by text.length

/-- The entities in the order in which they are decoded. The ampersand comes last: one that is
decoded early could make up another entity with the text behind it. -/
def entities : List (String × Char) :=
  [("&lt;", '<'), ("&gt;", '>'), ("&quot;", '"'), ("&apos;", '\''), ("&amp;", '&')]

def decodeEntities (text : String) : String :=
  String.ofList <| entities.foldl
    (fun decoded (entity, c) => replaceAll entity.toList [c] decoded) text.toList

/-- What decoding produces is not decoded again. -/
example : decodeEntities "&amp;lt;b&gt;" = "&lt;b>" := by decide +kernel

end BroadcastScenes.Text
