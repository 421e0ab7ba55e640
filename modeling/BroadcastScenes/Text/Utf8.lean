/-!
# UTF-8

Decoding of bytes that should be UTF-8 but need not be. Where a sequence breaks off, everything
of it that was still well formed is replaced by one replacement character, and decoding goes on
with the byte that broke it.
-/

namespace BroadcastScenes.Text.Utf8

/-- A character whose first bytes have been read: their payload, how many bytes are still owed,
and the bounds of the next one. Only the byte after the first has bounds narrower than
`0x80 .. 0xBF`; they rule out overlong forms, surrogates and code points past the last. -/
structure Begun where
  payload : Nat
  owed : Nat
  low : Nat := 0x80
  high : Nat := 0xBF

inductive Lead where
  | whole (c : Char)
  | begun (state : Begun)
  | invalid

def lead (byte : Nat) : Lead :=
  if byte ≤ 0x7F then .whole (Char.ofNat byte)
  else if 0xC2 ≤ byte ∧ byte ≤ 0xDF then .begun ⟨byte - 0xC0, 1, 0x80, 0xBF⟩
  else if byte = 0xE0 then .begun ⟨0, 2, 0xA0, 0xBF⟩
  else if byte = 0xED then .begun ⟨0xD, 2, 0x80, 0x9F⟩
  else if 0xE1 ≤ byte ∧ byte ≤ 0xEF then .begun ⟨byte - 0xE0, 2, 0x80, 0xBF⟩
  else if byte = 0xF0 then .begun ⟨0, 3, 0x90, 0xBF⟩
  else if 0xF1 ≤ byte ∧ byte ≤ 0xF3 then .begun ⟨byte - 0xF0, 3, 0x80, 0xBF⟩
  else if byte = 0xF4 then .begun ⟨4, 3, 0x80, 0x8F⟩
  else .invalid

def replacement : Char := '\uFFFD'

def decodeFrom : Option Begun → List Nat → List Char
  | none, [] => []
  | some _, [] => [replacement]
  | state, byte :: rest =>
      let fresh :=
        match lead byte with
        | .whole c => c :: decodeFrom none rest
        | .begun next => decodeFrom (some next) rest
        | .invalid => replacement :: decodeFrom none rest
      match state with
      | none => fresh
      | some begun =>
          if begun.low ≤ byte ∧ byte ≤ begun.high then
            let payload := begun.payload * 0x40 + (byte - 0x80)
            if begun.owed ≤ 1 then Char.ofNat payload :: decodeFrom none rest
            else decodeFrom (some ⟨payload, begun.owed - 1, 0x80, 0xBF⟩) rest
          else replacement :: fresh

def decode (bytes : List Nat) : List Char := decodeFrom none bytes

/-- Two bytes of a three-byte character are replaced together, a surrogate byte by byte. -/
example : decode [0xE2, 0x82, 0x41, 0xED, 0xA0, 0x80] =
    [replacement, 'A', replacement, replacement, replacement] := by decide

example : decode [0xC3, 0xA9, 0xF0, 0x9F, 0x8E, 0xA5] = ['é', '🎥'] := by decide

end BroadcastScenes.Text.Utf8
