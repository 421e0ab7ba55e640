import BroadcastScenes.Value.Basic

/-!
# Tags

The tree of a marked-up text: tags with attributes and further tags inside. Text between tags is
not kept.
-/

namespace BroadcastScenes.Markup

inductive Tag where
  | mk (kind : String) (attributes : List (String × Value)) (children : List Tag)
  deriving Inhabited, BEq, Repr

namespace Tag

def kind : Tag → String
  | mk kind _ _ => kind

def attributes : Tag → Members
  | mk _ attributes _ => attributes

def children : Tag → List Tag
  | mk _ _ children => children

def childrenOfKind (tag : Tag) (kind : String) : List Tag :=
  tag.children.filter fun child => child.kind == kind

mutual

def toValue : Tag → Value
  | mk kind attributes children =>
      .object [("type", .string kind), ("attr", .object attributes),
        ("children", .array (toValues children))]

def toValues : List Tag → List Value
  | [] => []
  | first :: rest => toValue first :: toValues rest

end

end Tag

end BroadcastScenes.Markup
