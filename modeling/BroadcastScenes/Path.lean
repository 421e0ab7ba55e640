import BroadcastScenes.Text.Cut

/-!
# Paths

File paths with `/` between their parts. Repeated separators, and single dots other than one at
the very start, do not count as parts. A path keeps the text it was given; only its parts are
compared when paths are put in order.
-/

namespace BroadcastScenes

structure Path where
  text : String
  deriving DecidableEq, Repr, Inhabited

namespace Path

inductive Part where
  | root
  | current
  | parent
  | name (text : List Char)
  deriving DecidableEq, Repr

def pieces (path : Path) : List (List Char) := path.text.toList.splitOn '/'

def isRooted (path : Path) : Bool := path.text.toList.head? == some '/'

def partOfPiece? (piece : List Char) : Option Part :=
  if piece = [] ∨ piece = ['.'] then none
  else if piece = ['.', '.'] then some .parent
  else some (.name piece)

def parts (path : Path) : List Part :=
  let body := path.pieces.filterMap partOfPiece?
  if path.isRooted then .root :: body
  else if path.pieces.head? = some ['.'] then .current :: body
  else body

def fileName? (path : Path) : Option (List Char) :=
  match path.parts.getLast? with
  | some (.name text) => some text
  | _ => none

/-- A file name without its extension, and the extension behind the last dot. A dot at the start
of a name begins no extension. -/
def splitName (name : List Char) : List Char × Option (List Char) :=
  match Text.cutAt? '.' name.reverse with
  | some (after, before) =>
      if before.isEmpty then (name, none) else (before.reverse, some after.reverse)
  | none => (name, none)

def stem (path : Path) : String :=
  match path.fileName? with
  | some name => String.ofList (splitName name).1
  | none => ""

def extension? (path : Path) : Option (List Char) := do
  let name ← path.fileName?
  (splitName name).2

/-- The pieces without those at the end that stand for no part, given last piece first. A dot that
opens a path without root is a part. -/
def dropFillers (rooted : Bool) : List (List Char) → List (List Char)
  | [] => []
  | [opening] =>
      if opening = [] ∨ (rooted = true ∧ opening = ['.']) then [] else [opening]
  | last :: before :: more =>
      if last = [] ∨ last = ['.'] then dropFillers rooted (before :: more)
      else last :: before :: more

def parent? (path : Path) : Option Path :=
  match path.parts.getLast? with
  | none => none
  | some .root => none
  | some _ =>
      let body := if path.isRooted then path.pieces.drop 1 else path.pieces
      let kept := (dropFillers path.isRooted (dropFillers path.isRooted body.reverse).tail).reverse
      some ⟨String.ofList ((if path.isRooted then ['/'] else []) ++ List.intercalate ['/'] kept)⟩

def join (path : Path) (text : String) : Path :=
  if text.toList.head? = some '/' then ⟨text⟩
  else if path.text.toList = [] ∨ path.text.toList.getLast? = some '/' then ⟨path.text ++ text⟩
  else ⟨path.text ++ "/" ++ text⟩

def Part.rank : Part → Nat
  | .root => 0
  | .current => 1
  | .parent => 2
  | .name _ => 3

def Part.order : Part → Part → Ordering
  | .name left, .name right => List.compareLex (fun c d => compare c.toNat d.toNat) left right
  | left, right => compare left.rank right.rank

def order (left right : Path) : Ordering := List.compareLex Part.order left.parts right.parts

def atMost (left right : Path) : Bool := (order left right).isLE

example : (Path.mk "/x/y/My Scenes.xconfig").stem = "My Scenes" := by decide +kernel

example : (Path.mk "a/./b//").parent? = some ⟨"a"⟩ := by decide +kernel

/-- A file right below the working directory has the empty path for a parent. -/
example : (Path.mk "abc.json").parent? = some ⟨""⟩ := by decide +kernel

/-- Part by part, a file beside a directory comes after what is in it. -/
example : order ⟨"a/z"⟩ ⟨"a.json"⟩ = .lt := by decide +kernel

end Path

end BroadcastScenes
