import BroadcastScenes.Text.CodeRuns

/-!
# Blank characters

A character is blank when it has the Unicode property White_Space: the ASCII spaces and line
breaks, the no-break space, and the spaces of typesetting. Trimming removes blanks from an end of
a text and nothing else.
-/

namespace BroadcastScenes.Text

def blankRuns : CodeRuns :=
  [(0x9, 0xD), (0x20, 0x20), (0x85, 0x85), (0xA0, 0xA0), (0x1680, 0x1680), (0x2000, 0x200A),
    (0x2028, 0x2029), (0x202F, 0x202F), (0x205F, 0x205F), (0x3000, 0x3000)]

def isBlank (c : Char) : Bool := blankRuns.covers c

/-- The no-break space and the ideographic space are blank as well; a zero-width space is not. -/
example : (isBlank '\u00A0' && isBlank '\u3000' && !isBlank '\u200B') = true := by decide

def trimStart (text : List Char) : List Char := text.dropWhile isBlank

def trimEnd (text : List Char) : List Char := (text.reverse.dropWhile isBlank).reverse

def trim (text : List Char) : List Char := trimEnd (trimStart text)

def allBlank (text : List Char) : Bool := text.all isBlank

private theorem dropWhile_isBlank_eq_nil_iff {text : List Char} :
    text.dropWhile isBlank = [] ↔ ∀ c ∈ text, isBlank c = true := by
  induction text with
  | nil => simp
  | cons head tail induction =>
      by_cases blank : isBlank head = true
      · simp [blank, induction]
      · simp [blank]

theorem trimEnd_eq_nil_iff {text : List Char} : trimEnd text = [] ↔ allBlank text = true := by
  rw [trimEnd, List.reverse_eq_nil_iff, dropWhile_isBlank_eq_nil_iff]
  simp [allBlank]

/-- Blanks inside a text stay. -/
example : trim "  a b\t".toList = "a b".toList := by decide

def dropIndent (line : List Char) : List Char := line.dropWhile fun c => c == ' ' || c == '\t'

end BroadcastScenes.Text
