import BroadcastScenes.Decimal.Leading
import BroadcastScenes.Text.Cut
import BroadcastScenes.Text.Letter
import BroadcastScenes.Text.Slashes
import BroadcastScenes.Value.Basic

/-!
# Values of a scene text

A scene text does not say what kind of value a line holds. The first character decides, and where
it does not, a point makes the difference between a double and an integer.
-/

namespace BroadcastScenes.SceneText

/-- The value written behind the colon of a line. Texts are quoted, or start with a letter or a
separator; their doubled backslashes become slashes. A closing quote may be missing. All else is
read as a number, so that an empty value is zero. -/
def scalar (written : List Char) : Value :=
  let text := written.dropWhile (· == ' ')
  let number :=
    if '.' ∈ text then Value.double (Decimal.leadingDouble text)
    else Value.integer (Decimal.leadingInteger text)
  match text with
  | [] => number
  | first :: rest =>
      if Text.isLetter first || first == '\\' || first == '/' then
        .string (String.ofList (Text.collapsePairs text))
      else if first == '"' then
        .string (String.ofList (Text.collapsePairs (Text.dropFinal '"' rest)))
      else number

/-- A size is read as the number it starts with. -/
example : scalar " 1920x1080".toList = .integer 1920 := by cbv

/-- Quotes make a text of what would be a number. -/
example : scalar "\"1.5\"".toList = .string "1.5" := by cbv

end BroadcastScenes.SceneText
