import BroadcastScenes.Text.CaseTables

/-!
# Lower case

Two ways of lower-casing. Keywords are compared in ASCII lower case, which leaves every other
script alone. Device identifiers are lower-cased in full, after the rules of the Unicode standard
that need no locale: a dotted capital I becomes two characters, and a capital sigma becomes a
final sigma at the end of a word.
-/

namespace BroadcastScenes.Text

def lowerAscii (text : List Char) : List Char := text.map Char.toLower

def CaseRun.moves (run : CaseRun) (c : Char) : Bool :=
  decide (run.first ≤ c.toNat) && decide (c.toNat ≤ run.last) &&
    (c.toNat - run.first) % run.step == 0

def lowerSimple (c : Char) : Char :=
  match lowerCaseRuns.find? (·.moves c) with
  | some run => Char.ofNat (run.target + (c.toNat - run.first))
  | none => c

def continuesWord (text : List Char) : Bool :=
  match text.dropWhile caseIgnorableRuns.covers with
  | [] => false
  | c :: _ => casedRuns.covers c

/-- The lower-case form of a character between the text before it, given last character first,
and the text after it. A capital sigma is final when a word runs up to it and ends there. -/
def lowerBetween (before : List Char) (c : Char) (after : List Char) : List Char :=
  if c = 'Σ' then [if continuesWord before && !continuesWord after then 'ς' else 'σ']
  else if c = 'İ' then ['i', '\u0307']
  else [lowerSimple c]

/-- The lower-case form of a text that stands after `before`, given last character first. -/
def lowerAfter (before : List Char) : List Char → List Char
  | [] => []
  | c :: rest => lowerBetween before c rest ++ lowerAfter (c :: before) rest

def lowerCase (text : List Char) : List Char := lowerAfter [] text

/-- Only the sigma that ends a word is final, and a lone one is not. -/
example : lowerCase "ΑΣ Σ".toList = "ας σ".toList := by decide +kernel

end BroadcastScenes.Text
