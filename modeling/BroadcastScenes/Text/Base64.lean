/-!
# Base64

The standard alphabet with padding. Only the canonical form is read: groups of four, padding in
the last group alone, and no bits set in the part of a sextet that carries none.
-/

namespace BroadcastScenes.Text.Base64

def sextet? (c : Char) : Option Nat :=
  if c.isUpper then some (c.toNat - 'A'.toNat)
  else if c.isLower then some (c.toNat - 'a'.toNat + 26)
  else if c.isDigit then some (c.toNat - '0'.toNat + 52)
  else if c = '+' then some 62
  else if c = '/' then some 63
  else none

def decode? : List Char → Option (List Nat)
  | [] => some []
  | [c₁, c₂, '=', '='] => do
      let s₁ ← sextet? c₁
      let s₂ ← sextet? c₂
      if s₂ % 16 = 0 then some [s₁ * 4 + s₂ / 16] else none
  | [c₁, c₂, c₃, '='] => do
      let s₁ ← sextet? c₁
      let s₂ ← sextet? c₂
      let s₃ ← sextet? c₃
      if s₃ % 4 = 0 then some [s₁ * 4 + s₂ / 16, s₂ % 16 * 16 + s₃ / 4] else none
  | c₁ :: c₂ :: c₃ :: c₄ :: rest => do
      let s₁ ← sextet? c₁
      let s₂ ← sextet? c₂
      let s₃ ← sextet? c₃
      let s₄ ← sextet? c₄
      let bytes ← decode? rest
      some ([s₁ * 4 + s₂ / 16, s₂ % 16 * 16 + s₃ / 4, s₃ % 4 * 64 + s₄] ++ bytes)
  | _ => none

example : decode? "TWFuIQ==".toList = some ("Man!".toList.map Char.toNat) := by decide

/-- The last sextet must not carry bits that no byte takes up. -/
example : decode? "IR==".toList = none := by decide

end BroadcastScenes.Text.Base64
