import BroadcastScenes.Entries

/-!
# JSON values

What a JSON text means. Numbers are 64-bit integers where they are integers that fit, and doubles
otherwise. The members of an object have pairwise different keys and keep their order.
-/

namespace BroadcastScenes

inductive Json where
  | null
  | boolean (flag : Bool)
  | integer (number : Int64)
  | double (number : Float)
  | string (text : String)
  | array (elements : List Json)
  | object (members : List (String × Json))
  deriving Inhabited, BEq, Repr

end BroadcastScenes
