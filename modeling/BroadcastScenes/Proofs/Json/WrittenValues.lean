import BroadcastScenes.Entries
import BroadcastScenes.Proofs.Json.WrittenDoubles
import BroadcastScenes.Proofs.Json.WrittenStrings

/-!
# Values that can be written

A text has all of a value when the doubles are finite and no object repeats a key. What comes back
of such a text is the value with each double read again. This module says what that means, wherever
in a longer text the value stands, and proves it for the values that hold no others.
-/

namespace BroadcastScenes.Json

/-! ## Values that can be written -/

mutual

def depth : Json → Nat
  | .array elements => depthOfElements elements + 1
  | .object members => depthOfMembers members + 1
  | _ => 0

def depthOfElements : List Json → Nat
  | [] => 0
  | first :: rest => max first.depth (depthOfElements rest)

def depthOfMembers : List (String × Json) → Nat
  | [] => 0
  | (_, first) :: rest => max first.depth (depthOfMembers rest)

end

theorem depthOfElements_le_iff {elements : List Json} {room : Nat} :
    depthOfElements elements ≤ room ↔ ∀ element ∈ elements, element.depth ≤ room := by
  induction elements with
  | nil => simp [depthOfElements]
  | cons first rest induction =>
      rw [depthOfElements, Nat.max_le, induction, List.forall_mem_cons]

theorem depthOfMembers_le_iff {members : List (String × Json)} {room : Nat} :
    depthOfMembers members ≤ room ↔ ∀ member ∈ members, member.2.depth ≤ room := by
  induction members with
  | nil => simp [depthOfMembers]
  | cons first rest induction =>
      rw [depthOfMembers, Nat.max_le, induction, List.forall_mem_cons]

inductive IsWritable : Json → Prop
  | null : IsWritable .null
  | boolean (flag : Bool) : IsWritable (.boolean flag)
  | integer (number : Int64) : IsWritable (.integer number)
  | double {number : Float} (isFinite : (Decimal.Binary.ofFloat number).isFinite = true) :
      IsWritable (.double number)
  | string (text : String) : IsWritable (.string text)
  | array {elements : List Json} (inner : ∀ element ∈ elements, IsWritable element) :
      IsWritable (.array elements)
  | object {members : List (String × Json)} (distinct : (Entries.keys members).Nodup)
      (inner : ∀ member ∈ members, IsWritable member.2) : IsWritable (.object members)

/-! ## Values read again -/

/-- The double that the text of a finite double is read as. -/
def readAgain (number : Float) : Float :=
  match read? (String.ofList (doubleText number)) with
  | some (.double again) => again
  | _ => number

mutual

/-- The value with each double replaced by the one that its text is read as. -/
def reread : Json → Json
  | .double number => .double (readAgain number)
  | .array elements => .array (rereadElements elements)
  | .object members => .object (rereadMembers members)
  | scalar => scalar

def rereadElements : List Json → List Json
  | [] => []
  | first :: rest => first.reread :: rereadElements rest

def rereadMembers : List (String × Json) → List (String × Json)
  | [] => []
  | (key, first) :: rest => (key, first.reread) :: rereadMembers rest

end

theorem keys_rereadMembers (members : List (String × Json)) :
    Entries.keys (rereadMembers members) = Entries.keys members := by
  induction members with
  | nil => rfl
  | cons first rest induction => exact congrArg (first.1 :: ·) induction

/-! ## Reading steps -/

theorem skipBlanks_cons {c : Char} (notBlank : isBlank c = false) (rest : List Char) :
    skipBlanks (c :: rest) = c :: rest := by
  rw [skipBlanks, List.dropWhile_cons, notBlank]
  rfl

theorem takes_scalar {text : List Char} {c : Char} {written : Written} {rest : List Char}
    (notArray : c ≠ '[') (notObject : c ≠ '\x7b')
    (takes : Takes (takeScalar? (c :: text)) written rest) :
    Takes (takeValue? (c :: text)) written rest := by
  rw [takeValue?]
  · exact takes
  · intro more equal
    exact absurd (List.cons.inj equal).1 notArray
  · intro more equal
    exact absurd (List.cons.inj equal).1 notObject

theorem ne_of_isDigit {c other : Char} (digit : c.isDigit = true)
    (isNoDigit : other.isDigit = false) : c ≠ other := by
  intro equal
  rw [equal, isNoDigit] at digit
  cases digit

theorem Literal.exists_head {literal : Literal} (isWellFormed : literal.IsWellFormed) :
    ∃ first more, literal.text = first :: more ∧ (first = '-' ∨ first.isDigit = true) := by
  rw [Literal.text]
  cases literal.negative with
  | true => exact ⟨'-', _, rfl, .inl rfl⟩
  | false =>
      cases whole : literal.whole with
      | nil => exact absurd whole isWellFormed.whole.notEmpty
      | cons first more =>
          refine ⟨first, _, rfl, .inr (isWellFormed.whole.digits first ?_)⟩
          rw [whole]
          exact List.mem_cons_self

theorem Literal.exists_text_eq_cons (literal : Literal) (isWellFormed : literal.IsWellFormed) :
    ∃ first more, literal.text = first :: more ∧ isBlank first = false ∧ first ≠ ']' := by
  rcases Literal.exists_head isWellFormed with ⟨first, more, text, starts⟩
  refine ⟨first, more, text, ?_⟩
  rcases starts with rfl | digit
  · exact ⟨rfl, by decide⟩
  · refine ⟨?_, ne_of_isDigit digit rfl⟩
    simp only [isBlank, Bool.or_eq_false_iff, beq_eq_false_iff_ne]
    exact ⟨⟨⟨ne_of_isDigit digit rfl, ne_of_isDigit digit rfl⟩, ne_of_isDigit digit rfl⟩,
      ne_of_isDigit digit rfl⟩

theorem takes_number {first : Char} {more rest : List Char} {literal : Literal}
    (starts : first = '-' ∨ first.isDigit = true)
    (taken : takeLiteral? (first :: more) = some (literal, rest)) :
    Takes (takeValue? (first :: more)) (.number literal) rest := by
  have notOther : ∀ c, c.isDigit = false → c ≠ '-' → first ≠ c := by
    intro c isNoDigit isNoSign
    rcases starts with sign | digit
    · exact fun equal => isNoSign (equal.symm.trans sign)
    · exact ne_of_isDigit digit isNoDigit
  apply takes_scalar (notOther '[' rfl (by decide)) (notOther '\x7b' rfl (by decide))
  have number : Takes (takeNumber? (first :: more)) (.number literal) rest := by
    rw [takeNumber?]
    split
    · rename_i found
      obtain ⟨rfl, rfl⟩ := Prod.mk.inj (Option.some.inj (found.symm.trans taken))
      exact ⟨_, rfl⟩
    · rename_i none
      rw [none] at taken
      cases taken
  rw [takeScalar?]
  · exact number
  · intro behind equal
    exact absurd (List.cons.inj equal).1 (notOther '"' rfl (by decide))
  · intro behind equal
    exact absurd (List.cons.inj equal).1 (notOther 'n' rfl (by decide))
  · intro behind equal
    exact absurd (List.cons.inj equal).1 (notOther 't' rfl (by decide))
  · intro behind equal
    exact absurd (List.cons.inj equal).1 (notOther 'f' rfl (by decide))

theorem takes_literal {literal : Literal} (isWellFormed : literal.IsWellFormed) {rest : List Char}
    (ends : EndsNumber rest) :
    Takes (takeValue? (literal.text ++ rest)) (.number literal) rest := by
  have taken := Literal.takeLiteral?_text isWellFormed ends
  rcases Literal.exists_head isWellFormed with ⟨first, more, text, starts⟩
  rw [text] at taken ⊢
  exact takes_number starts taken

theorem read?_text {literal : Literal} (isWellFormed : literal.IsWellFormed) :
    read? (String.ofList literal.text) = literal.meaning? := by
  rcases takes_literal isWellFormed endsNumber_nil with ⟨shorter, taken⟩
  have noBlanks : skipBlanks (String.ofList literal.text).toList = literal.text ++ [] := by
    rcases literal.exists_text_eq_cons isWellFormed with ⟨first, more, text, notBlank, _⟩
    rw [String.toList_ofList, List.append_nil, text]
    exact skipBlanks_cons notBlank more
  rw [read?, written?, noBlanks, taken]
  rfl

theorem Literal.exists_readAgain {number : Float}
    (isFinite : (Decimal.Binary.ofFloat number).isFinite = true) :
    ∃ literal : Literal, literal.IsWellFormed ∧ literal.text = doubleText number ∧
      literal.meaning? = some (.double (readAgain number)) := by
  cases taken : Decimal.Binary.ofFloat number with
  | infinite negative =>
      rw [taken] at isFinite
      cases isFinite
  | notANumber =>
      rw [taken] at isFinite
      cases isFinite
  | finite negative significand exponent =>
      rcases Literal.exists_doubleText taken with ⟨literal, isWellFormed, text, again, means⟩
      refine ⟨literal, isWellFormed, text, ?_⟩
      rw [readAgain, ← text, read?_text isWellFormed, means]

theorem isFinite_of_isShortDouble {number : Float} (short : isShortDouble number = true) :
    (Decimal.Binary.ofFloat number).isFinite = true := by
  rw [isShortDouble] at short
  split at short
  · rename_i taken
    rw [taken]
    rfl
  · cases short

theorem readAgain_of_isShortDouble {number : Float} (short : isShortDouble number = true) :
    readAgain number = number := by
  rw [isShortDouble] at short
  split at short
  · rename_i negative significand exponent taken
    rcases Literal.exists_denotes_doubleText taken with ⟨literal, denotes, text⟩
    rw [readAgain, ← text, read?_text denotes.wellFormed,
      denotes.meaning?_eq (denotes.isFinite_toFloat taken)]
    exact denotes.toFloat_eq_of_short taken (of_decide_eq_true short)
  · cases short

example : readAgain 1514.3488341801853 = 1514.3488341801851 := by decide +kernel

example : isShortDouble 1514.3488341801853 = false ∧ isShortDouble 1920.75 = true := by
  decide +kernel

/-! ## Values -/

/-- The text of a value is read as a tree that means the value, read again, wherever there is room
for it. -/
def ReadsBack (value : Json) : Prop :=
  ∀ rest, EndsNumber rest → ∃ written : Written,
    Takes (takeValue? (value.compactText ++ rest)) written rest ∧
      ∀ room, written.meaning? room = if value.depth ≤ room then some value.reread else none

theorem IsWritable.exists_head {value : Json} (isWritable : value.IsWritable) :
    ∃ first more, value.compactText = first :: more ∧ isBlank first = false ∧ first ≠ ']' := by
  cases isWritable with
  | null => exact ⟨'n', _, rfl, rfl, by decide⟩
  | boolean flag =>
      cases flag with
      | true => exact ⟨'t', _, rfl, rfl, by decide⟩
      | false => exact ⟨'f', _, rfl, rfl, by decide⟩
  | integer integer =>
      rcases Literal.exists_integerText integer with ⟨literal, isWellFormed, text, _⟩
      change ∃ first more, Decimal.integerText integer.toInt = first :: more ∧ _
      exact text ▸ literal.exists_text_eq_cons isWellFormed
  | double isFinite =>
      rcases Literal.exists_readAgain isFinite with ⟨literal, isWellFormed, text, _⟩
      change ∃ first more, doubleText _ = first :: more ∧ _
      exact text ▸ literal.exists_text_eq_cons isWellFormed
  | string text => exact ⟨'"', _, rfl, rfl, by decide⟩
  | array inner => exact ⟨'[', _, rfl, rfl, by decide⟩
  | object distinct inner => exact ⟨'\x7b', _, rfl, rfl, by decide⟩

theorem readsBack_literal {value : Json} {literal : Literal} (isWellFormed : literal.IsWellFormed)
    (text : literal.text = value.compactText) (means : literal.meaning? = some value.reread)
    (flat : value.depth = 0) : value.ReadsBack := by
  intro rest ends
  refine ⟨.number literal, text ▸ takes_literal isWellFormed ends, ?_⟩
  intro room
  rw [flat, if_pos (Nat.zero_le _), Written.meaning?, means]

theorem readsBack_word {value : Json} {first : Char} {more : List Char} (written : Written)
    (text : value.compactText = first :: more) (notArray : first ≠ '[') (notObject : first ≠ '\x7b')
    (takes : ∀ rest, Takes (takeScalar? (first :: (more ++ rest))) written rest)
    (means : ∀ room, written.meaning? room = some value.reread) (flat : value.depth = 0) :
    value.ReadsBack := by
  intro rest _
  refine ⟨written, text ▸ takes_scalar notArray notObject (takes rest), ?_⟩
  intro room
  rw [flat, if_pos (Nat.zero_le _), means]

theorem endsNumber_cons {c : Char} (isNoDigit : c.isDigit = false) (isNoPoint : c ≠ '.')
    (isNoMark : c ≠ 'e' ∧ c ≠ 'E') (rest : List Char) : EndsNumber (c :: rest) := by
  intro first head
  obtain rfl := Option.some.inj head
  exact ⟨isNoDigit, isNoPoint, isNoMark⟩

theorem endsNumber_comma (rest : List Char) : EndsNumber (',' :: rest) :=
  endsNumber_cons rfl (by decide) ⟨by decide, by decide⟩ rest

theorem endsNumber_end (rest : List Char) : EndsNumber (']' :: rest) :=
  endsNumber_cons rfl (by decide) ⟨by decide, by decide⟩ rest

end BroadcastScenes.Json
