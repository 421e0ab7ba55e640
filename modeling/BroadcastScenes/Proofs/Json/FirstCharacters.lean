import BroadcastScenes.Value.Json

/-!
# First characters of JSON

The first character of a JSON value tells what the value is. A text whose first character is that of
no value, and no blank either, cannot be read.
-/

namespace BroadcastScenes

namespace Json

def opensValue (c : Char) : Bool :=
  c.isDigit || ['"', '[', '\x7b', '-', 'n', 't', 'f'].contains c

theorem takeLiteral?_cons_eq_none {c : Char} (opensNone : opensValue c = false)
    (rest : List Char) : takeLiteral? (c :: rest) = none := by
  rw [opensValue, Bool.or_eq_false_iff] at opensNone
  rcases opensNone with ⟨noDigit, others⟩
  have noMinus : c ≠ '-' := by
    rintro rfl
    cases others
  have noZero : c ≠ '0' := by
    rintro rfl
    cases noDigit
  simp [takeLiteral?, cutMinus, cutWhole, Decimal.cutDigits, noMinus, noZero, noDigit]

theorem takeValue?_cons_eq_none {c : Char} (opensNone : opensValue c = false)
    (rest : List Char) : takeValue? (c :: rest) = none := by
  have noNumber : takeNumber? (c :: rest) = none := by
    rw [takeNumber?]
    split
    · rename_i taken
      rw [takeLiteral?_cons_eq_none opensNone] at taken
      cases taken
    · rfl
  have differs : ∀ first, opensValue first = true → c ≠ first := by
    rintro first opens rfl
    rw [opensNone] at opens
    cases opens
  rw [takeValue?, takeScalar?, noNumber]
  all_goals
    intro _ same
    exact differs _ (by decide) (List.head_eq_of_cons_eq same)

end Json

theorem Value.parse?_eq_none_of_head? {c : Char} {text : String}
    (head : text.toList.head? = some c) (noBlank : Json.isBlank c = false)
    (opensNone : Json.opensValue c = false) : parse? text = none := by
  rcases List.head?_eq_some_iff.mp head with ⟨rest, characters⟩
  have unread : Json.takeValue? (Json.skipBlanks text.toList) = none := by
    rw [characters, Json.skipBlanks, List.dropWhile_cons_of_neg (by simp [noBlank])]
    exact Json.takeValue?_cons_eq_none opensNone rest
  rw [parse?, Json.read?, Json.written?, unread]
  rfl

end BroadcastScenes
