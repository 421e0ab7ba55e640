/-!
# Separators in file paths

Recorded paths use backslashes, some files double each of them, and scene collections use forward
slashes.
-/

namespace BroadcastScenes.Text

/-- Each pair of backslashes, taken from the left, as one forward slash. A backslash left without
a partner stays. -/
def collapsePairs : List Char → List Char
  | [] => []
  | '\\' :: '\\' :: rest => '/' :: collapsePairs rest
  | c :: rest => c :: collapsePairs rest

def collapseSlashes (text : String) : String := String.ofList (collapsePairs text.toList)

def forwardSlashes (text : String) : String :=
  String.ofList (text.toList.map fun c => if c = '\\' then '/' else c)

/-- Pairs do not overlap: of three backslashes the third has no partner. -/
example : collapsePairs ['\\', '\\', '\\'] = ['/', '\\'] := by decide

end BroadcastScenes.Text
