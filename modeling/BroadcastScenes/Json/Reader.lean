import BroadcastScenes.Decimal.Leading
import BroadcastScenes.Json.Written
import BroadcastScenes.Progress

/-!
# Reading JSON

The grammar of JSON texts: one value, with blanks around it and between its parts, and nothing
else. Blanks are the space, the tab and the two line breaks.
-/

namespace BroadcastScenes.Json

def maxDepth : Nat := 127

def isBlank (c : Char) : Bool := c == ' ' || c == '\t' || c == '\n' || c == '\r'

def skipBlanks (text : List Char) : List Char := text.dropWhile isBlank

theorem length_skipBlanks_le (text : List Char) : (skipBlanks text).length ≤ text.length :=
  (List.dropWhile_suffix isBlank).length_le

/-! ## Strings -/

inductive Unit16 where
  | character (c : Char)
  | numbered (code : Nat)

def hexDigit? (c : Char) : Option Nat :=
  if c.isDigit then some (c.toNat - '0'.toNat)
  else if 'a' ≤ c ∧ c ≤ 'f' then some (c.toNat - 'a'.toNat + 10)
  else if 'A' ≤ c ∧ c ≤ 'F' then some (c.toNat - 'A'.toNat + 10)
  else none

def hexCode? (c₁ c₂ c₃ c₄ : Char) : Option Nat := do
  let d₁ ← hexDigit? c₁
  let d₂ ← hexDigit? c₂
  let d₃ ← hexDigit? c₃
  let d₄ ← hexDigit? c₄
  some (((d₁ * 16 + d₂) * 16 + d₃) * 16 + d₄)

def escaped? : Char → Option Char
  | '"' => some '"'
  | '\\' => some '\\'
  | '/' => some '/'
  | 'b' => some '\x08'
  | 'f' => some '\x0C'
  | 'n' => some '\n'
  | 'r' => some '\r'
  | 't' => some '\t'
  | _ => none

def takeUnits? : (text : List Char) → Option (Taken (List Unit16) text)
  | [] => none
  | '"' :: rest => some ⟨[], rest, by simp⟩
  | '\\' :: 'u' :: c₁ :: c₂ :: c₃ :: c₄ :: rest => do
      let code ← hexCode? c₁ c₂ c₃ c₄
      let more ← takeUnits? rest
      some ((more.map (.numbered code :: ·)).widen (Nat.le_add_right rest.length 6))
  | '\\' :: c :: rest => do
      let meant ← escaped? c
      let more ← takeUnits? rest
      some ((more.map (.character meant :: ·)).widen (Nat.le_add_right rest.length 2))
  | c :: rest =>
      if c.toNat < 0x20 then none
      else do
        let more ← takeUnits? rest
        some ((more.map (.character c :: ·)).widen (by simp))

def isHighSurrogate (code : Nat) : Bool := decide (0xD800 ≤ code) && decide (code < 0xDC00)

def isLowSurrogate (code : Nat) : Bool := decide (0xDC00 ≤ code) && decide (code < 0xE000)

/-- The text with these parts. Surrogates have to come in pairs, both written by number. -/
def textOfUnits? : List Unit16 → Option (List Char)
  | [] => some []
  | .character c :: rest => (textOfUnits? rest).map (c :: ·)
  | .numbered high :: .numbered low :: rest =>
      if isHighSurrogate high then
        if isLowSurrogate low then
          (textOfUnits? rest).map
            (Char.ofNat (0x10000 + (high - 0xD800) * 0x400 + (low - 0xDC00)) :: ·)
        else none
      else if isLowSurrogate high then none
      else (textOfUnits? (.numbered low :: rest)).map (Char.ofNat high :: ·)
  | .numbered code :: rest =>
      if isHighSurrogate code || isLowSurrogate code then none
      else (textOfUnits? rest).map (Char.ofNat code :: ·)

def takeString? (text : List Char) : Option (Taken (Option String) text) :=
  (takeUnits? text).map fun taken =>
    taken.map fun units => (textOfUnits? units).map String.ofList

/-! ## Numbers -/

def takeFraction? (text : List Char) : Option (Option (List Char) × List Char) :=
  match text with
  | '.' :: rest =>
      match Decimal.cutDigits rest with
      | ([], _) => none
      | (digits, after) => some (some digits, after)
  | _ => some (none, text)

def takeExponent? (text : List Char) : Option (Option Int × List Char) :=
  match text with
  | mark :: rest =>
      if mark = 'e' ∨ mark = 'E' then
        let (negative, unsigned) := Decimal.cutSign rest
        match Decimal.cutDigits unsigned with
        | ([], _) => none
        | (digits, after) =>
            some (some (Decimal.Numeral.ofDigits negative digits [] 0).toInt, after)
      else some (none, text)
  | [] => some (none, text)

def cutMinus : List Char → Bool × List Char
  | '-' :: rest => (true, rest)
  | rest => (false, rest)

def cutWhole : List Char → List Char × List Char
  | '0' :: rest => (['0'], rest)
  | text => Decimal.cutDigits text

def takeLiteral? (text : List Char) : Option (Literal × List Char) :=
  let (negative, unsigned) := cutMinus text
  let (whole, afterWhole) := cutWhole unsigned
  if whole.isEmpty then none
  else do
    let (fraction, afterFraction) ← takeFraction? afterWhole
    let (exponent, after) ← takeExponent? afterFraction
    some (⟨negative, whole, fraction, exponent⟩, after)

private theorem length_cutMinus_le (text : List Char) : (cutMinus text).2.length ≤ text.length := by
  unfold cutMinus
  split <;> simp

private theorem length_cutWhole (text : List Char) :
    (cutWhole text).1.length + (cutWhole text).2.length = text.length := by
  unfold cutWhole
  split
  · simp; omega
  · exact Decimal.length_cutDigits _

private theorem length_takeFraction_le {text rest : List Char} {digits : Option (List Char)}
    (taken : takeFraction? text = some (digits, rest)) : rest.length ≤ text.length := by
  unfold takeFraction? at taken
  split at taken
  · rename_i behind
    have := Decimal.length_cutDigits behind
    split at taken <;> simp_all; omega
  · simp_all

private theorem length_takeExponent_le {text rest : List Char} {exponent : Option Int}
    (taken : takeExponent? text = some (exponent, rest)) : rest.length ≤ text.length := by
  unfold takeExponent? at taken
  split at taken
  · rename_i mark behind
    have := Decimal.length_cutSign_le behind
    have := Decimal.length_cutDigits (Decimal.cutSign behind).2
    split at taken
    · split at taken
      simp_all
      split at taken <;> simp_all; omega
    · simp_all
  · simp_all

private theorem length_takeLiteral_lt {text rest : List Char} {literal : Literal}
    (taken : takeLiteral? text = some (literal, rest)) : rest.length < text.length := by
  have unsigned := length_cutMinus_le text
  have behindWhole := length_cutWhole (cutMinus text).2
  unfold takeLiteral? at taken
  simp only at taken
  split at taken
  · simp at taken
  · rename_i digits
    have := List.length_pos_iff.mpr (mt List.isEmpty_iff.mpr digits)
    simp only [Option.bind_eq_bind, Option.bind_eq_some_iff, Prod.exists] at taken
    obtain ⟨_, _, fraction, _, _, exponent, final⟩ := taken
    have := length_takeFraction_le fraction
    have := length_takeExponent_le exponent
    simp at final
    grind

def takeNumber? (text : List Char) : Option (Taken Written text) :=
  match taken : takeLiteral? text with
  | some (literal, rest) => some ⟨.number literal, rest, length_takeLiteral_lt taken⟩
  | none => none

/-! ## Values -/

def takeScalar? : (text : List Char) → Option (Taken Written text)
  | '"' :: rest => (takeString? rest).map fun taken => (taken.map .string).widen (by simp)
  | 'n' :: 'u' :: 'l' :: 'l' :: rest => some ⟨.null, rest, by simp; omega⟩
  | 't' :: 'r' :: 'u' :: 'e' :: rest => some ⟨.boolean true, rest, by simp; omega⟩
  | 'f' :: 'a' :: 'l' :: 's' :: 'e' :: rest => some ⟨.boolean false, rest, by simp; omega⟩
  | text => takeNumber? text

private theorem length_skipBlanks_lt {text : List Char} {limit : Nat}
    (small : text.length < limit) : (skipBlanks text).length < limit :=
  Nat.lt_of_le_of_lt (length_skipBlanks_le text) small

def takeKey? : (text : List Char) → Option (Taken (Option String) text)
  | '"' :: afterQuote => do
      let key ← takeString? afterQuote
      match separator : skipBlanks key.rest with
      | ':' :: rest =>
          some ⟨key.value, rest, by
            have := length_skipBlanks_le key.rest
            have := key.shorter
            simp_all; omega⟩
      | _ => none
  | _ => none

mutual

def takeValue? : (text : List Char) → Option (Taken Written text)
  | '[' :: rest =>
      have := length_skipBlanks_le rest
      (takeArray? (skipBlanks rest)).map fun taken =>
        (taken.map .array).widen (by simp; omega)
  | '{' :: rest =>
      have := length_skipBlanks_le rest
      (takeObject? (skipBlanks rest)).map fun taken =>
        (taken.map .object).widen (by simp; omega)
  | text => takeScalar? text
termination_by text => 3 * text.length

def takeArray? : (text : List Char) → Option (Taken (List Written) text)
  | ']' :: rest => some ⟨[], rest, by simp⟩
  | text => takeElements? text
termination_by text => 3 * text.length + 2

def takeElements? (text : List Char) : Option (Taken (List Written) text) := do
  let first ← takeValue? text
  have := length_skipBlanks_lt first.shorter
  let more ← takeMoreElements? (skipBlanks first.rest)
  some ((more.map (first.value :: ·)).widen (by omega))
termination_by 3 * text.length + 1

def takeMoreElements? : (text : List Char) → Option (Taken (List Written) text)
  | ']' :: rest => some ⟨[], rest, by simp⟩
  | ',' :: rest =>
      have := length_skipBlanks_le rest
      (takeElements? (skipBlanks rest)).map fun taken => taken.widen (by simp; omega)
  | _ => none
termination_by text => 3 * text.length

def takeObject? : (text : List Char) → Option (Taken (List (Option String × Written)) text)
  | '\x7d' :: rest => some ⟨[], rest, by simp⟩
  | text => takeMembers? text
termination_by text => 3 * text.length + 2

def takeMembers? (text : List Char) : Option (Taken (List (Option String × Written)) text) := do
  let key ← takeKey? text
  have := length_skipBlanks_lt key.shorter
  let first ← takeValue? (skipBlanks key.rest)
  have := length_skipBlanks_lt first.shorter
  let more ← takeMoreMembers? (skipBlanks first.rest)
  some ((more.map ((key.value, first.value) :: ·)).widen (by omega))
termination_by 3 * text.length + 1

def takeMoreMembers? : (text : List Char) → Option (Taken (List (Option String × Written)) text)
  | '\x7d' :: rest => some ⟨[], rest, by simp⟩
  | ',' :: rest =>
      have := length_skipBlanks_le rest
      (takeMembers? (skipBlanks rest)).map fun taken => taken.widen (by simp; omega)
  | _ => none
termination_by text => 3 * text.length

end

def written? (text : String) : Option Written := do
  let taken ← takeValue? (skipBlanks text.toList)
  if (skipBlanks taken.rest).isEmpty then some taken.value else none

def read? (text : String) : Option Json := do
  let written ← written? text
  written.meaning? maxDepth

end BroadcastScenes.Json
