import BroadcastScenes.Decimal.Leading
import BroadcastScenes.Value.Basic

/-!
# Attribute values

An attribute value is a number only when nothing else can be meant: digits alone, or digits with
one point. A sign makes a text of it, and so does an integer too large to keep.
-/

namespace BroadcastScenes.Markup

def scalar (written : List Char) : Value :=
  let asText := Value.string (String.ofList written)
  let points := written.count '.'
  if written.isEmpty || written.any (fun c => !c.isDigit && c != '.') then asText
  else if points = 0 then
    match Decimal.exactWord? (Decimal.Numeral.ofDigits false written [] 0).toInt with
    | some number => .integer number
    | none => asText
  else if points = 1 ∧ 1 < written.length then .double (Decimal.leadingDouble written)
  else asText

example : scalar "1920x1080".toList = .string "1920x1080" := by cbv

example : scalar "1.2.3".toList = .string "1.2.3" := by cbv

end BroadcastScenes.Markup
