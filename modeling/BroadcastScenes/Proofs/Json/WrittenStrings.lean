import BroadcastScenes.Json.Printer
import BroadcastScenes.Json.Reader
import BroadcastScenes.Proofs.Decimal.Digits

/-!
# Written strings

In the text of a string every character is written as itself, behind a backslash, or by its number.
Read up to the closing quote, the text gives the same characters.
-/

namespace BroadcastScenes

def Takes {input : List β} (step : Option (Taken α input)) (value : α) (rest : List β) : Prop :=
  ∃ shorter, step = some ⟨value, rest, shorter⟩

theorem Takes.map {input : List β} {step : Option (Taken α input)} {value : α} {rest : List β}
    (takes : Takes step value rest) (change : α → γ) {longer : List β}
    (growing : input.length ≤ longer.length) :
    Takes (step.map fun taken => (taken.map change).widen growing) (change value) rest := by
  rcases takes with ⟨shorter, rfl⟩
  exact ⟨Nat.lt_of_lt_of_le shorter growing, rfl⟩

namespace Json

theorem hexDigit?_digitChar : ∀ digit < 16, hexDigit? (Nat.digitChar digit) = some digit := by
  decide

theorem hexCode?_control {code : Nat} (control : code < 0x20) :
    hexCode? '0' '0' (Nat.digitChar (code / 16)) (Nat.digitChar (code % 16)) = some code := by
  have zero : hexDigit? '0' = some 0 := rfl
  rw [hexCode?, zero, hexDigit?_digitChar (code / 16) (by omega),
    hexDigit?_digitChar (code % 16) (by omega)]
  change some (((0 * 16 + 0) * 16 + code / 16) * 16 + code % 16) = some code
  congr 1
  omega

theorem textOfUnits?_numbered {code : Nat} (small : code < 0xD800) (rest : List Unit16) :
    textOfUnits? (.numbered code :: rest) = (textOfUnits? rest).map (Char.ofNat code :: ·) := by
  have notHigh : isHighSurrogate code = false := by
    rw [isHighSurrogate, decide_eq_false (by omega), Bool.false_and]
  have notLow : isLowSurrogate code = false := by
    rw [isLowSurrogate, decide_eq_false (by omega), Bool.false_and]
  cases rest with
  | nil => simp [textOfUnits?, notHigh, notLow]
  | cons next more =>
      cases next with
      | character c => simp [textOfUnits?, notHigh, notLow]
      | numbered other => simp [textOfUnits?, notHigh, notLow]

/-! ## One character -/

inductive IsEscape (c : Char) : List Char → Prop
  | marked {mark : Char} (meant : escaped? mark = some c) (notNumber : mark ≠ 'u') :
      IsEscape c ['\\', mark]
  | numbered (control : c.toNat < 0x20) :
      IsEscape c ['\\', 'u', '0', '0', Nat.digitChar (c.toNat / 16), Nat.digitChar (c.toNat % 16)]
  | plain (notQuote : c ≠ '"') (notBackslash : c ≠ '\\') (visible : 0x20 ≤ c.toNat) :
      IsEscape c [c]

theorem isEscape_escapedText (c : Char) : IsEscape c (escapedText c) := by
  unfold escapedText
  split_ifs with quote backslash lineFeed carriageReturn tab backspace formFeed control
  · exact .marked (by rw [quote]; rfl) (by decide)
  · exact .marked (by rw [backslash]; rfl) (by decide)
  · exact .marked (by rw [lineFeed]; rfl) (by decide)
  · exact .marked (by rw [carriageReturn]; rfl) (by decide)
  · exact .marked (by rw [tab]; rfl) (by decide)
  · exact .marked (by rw [backspace]; rfl) (by decide)
  · exact .marked (by rw [formFeed]; rfl) (by decide)
  · exact .numbered control
  · exact .plain quote backslash (not_lt.mp control)

theorem IsEscape.exists_takes {c : Char} {escape : List Char} (isEscape : IsEscape c escape)
    {text rest : List Char} {units : List Unit16} (takes : Takes (takeUnits? text) units rest) :
    ∃ part, Takes (takeUnits? (escape ++ text)) (part :: units) rest ∧
      textOfUnits? (part :: units) = (textOfUnits? units).map (c :: ·) := by
  rcases takes with ⟨shorter, taken⟩
  cases isEscape with
  | marked meant notNumber =>
      rename_i mark
      refine ⟨.character c, ⟨by simp; omega, ?_⟩, rfl⟩
      change takeUnits? ('\\' :: mark :: text) = _
      rw [takeUnits?, meant]
      · simp [taken, Taken.map, Taken.widen]
      · intro c₁ c₂ c₃ c₄ more equal
        exact absurd equal notNumber
  | numbered control =>
      refine ⟨.numbered c.toNat, ⟨by simp; omega, ?_⟩, ?_⟩
      · change takeUnits? ('\\' :: 'u' :: '0' :: '0' :: _ :: _ :: text) = _
        rw [takeUnits?, hexCode?_control control]
        simp [taken, Taken.map, Taken.widen]
      · rw [textOfUnits?_numbered (by omega), Char.ofNat_toNat]
  | plain notQuote notBackslash visible =>
      refine ⟨.character c, ⟨by simp; omega, ?_⟩, rfl⟩
      change takeUnits? (c :: text) = _
      rw [takeUnits?]
      · simp [taken, Taken.map, Taken.widen, not_lt.mpr visible]
      · exact notQuote
      · intro c₁ c₂ c₃ c₄ more equal
        exact absurd equal notBackslash
      · intro next more equal
        exact absurd equal notBackslash

/-! ## Strings -/

theorem exists_takes_units (text rest : List Char) :
    ∃ units, Takes (takeUnits? (text.flatMap escapedText ++ '"' :: rest)) units rest ∧
      textOfUnits? units = some text := by
  induction text with
  | nil =>
      refine ⟨[], ⟨Nat.lt_succ_self _, ?_⟩, rfl⟩
      change takeUnits? ('"' :: rest) = _
      rw [takeUnits?]
  | cons c more induction =>
      rcases induction with ⟨units, takes, means⟩
      rcases (isEscape_escapedText c).exists_takes takes with ⟨part, partTakes, partMeans⟩
      refine ⟨part :: units, ?_, ?_⟩
      · rw [List.flatMap_cons, List.append_assoc]
        exact partTakes
      · rw [partMeans, means, Option.map_some]

theorem takes_string (text : String) (rest : List Char) :
    Takes (takeString? (text.toList.flatMap escapedText ++ '"' :: rest)) (some text) rest := by
  rcases exists_takes_units text.toList rest with ⟨units, ⟨shorter, taken⟩, means⟩
  refine ⟨shorter, ?_⟩
  rw [takeString?, taken]
  simp [Taken.map, means, String.ofList_toList]

end Json

end BroadcastScenes
