import BroadcastScenes.Proofs.Decimal.WrittenIntegers
import BroadcastScenes.Proofs.SceneText.BlockStack
import BroadcastScenes.Proofs.SceneText.Document
import BroadcastScenes.Proofs.Text.Cuts

/-!
# Written lines

What reading makes of a line that a document is written with. The three kinds of line are told apart
by how they end: a header ends in an opening brace, the line that closes a block in a closing one,
and a value in a digit or a quote.
-/

namespace BroadcastScenes.SceneText

open Text (NumberedLine)

/-! ## How a line ends -/

theorem closes_append_singleton {c : Char} (notBlank : Text.isBlank c = false)
    (text : List Char) : closes (text ++ [c]) = (c == '\x7d') := by
  rw [closes, Text.trimEnd_append_singleton notBlank, List.getLast?_append]
  rfl

theorem opens_append_singleton {c : Char} (notBlank : Text.isBlank c = false)
    (text : List Char) : opens (text ++ [c]) = (c == '\x7b') := by
  rw [opens, Text.trimEnd_append_singleton notBlank, List.getLast?_append]
  rfl

theorem not_allBlank_of_append_singleton {c : Char} (notBlank : Text.isBlank c = false)
    (text : List Char) : ¬ Text.allBlank (text ++ [c]) = true := by
  simp [Text.allBlank, notBlank]

/-! ## Headers -/

/-- The key is what stands before the last colon, whatever blanks there are around it. -/
theorem trimmedHeaderKey?_append_headerEnd (text : List Char) :
    trimmedHeaderKey? (text ++ headerEnd) = some (Text.trim text) := by
  have brace := Text.isBlank_openingBrace
  have space : Text.allBlank [' '] = true := by decide
  have toBrace : text ++ headerEnd = (text ++ [' ', ':', ' ']) ++ ['\x7b'] := by simp [headerEnd]
  have toColon : text ++ [' ', ':', ' '] = (text ++ [' ']) ++ [':'] ++ [' '] := by simp
  have body : Text.trim (Text.dropFinal '\x7b' (Text.trim (text ++ headerEnd))) =
      Text.trimStart (text ++ [' ']) ++ [':'] := by
    rw [toBrace, Text.trim_append_singleton brace, Text.dropFinal_append_singleton,
      Text.trim_trimStart, toColon, Text.trim_append_right space,
      Text.trim_append_singleton Text.isBlank_colon]
  rw [trimmedHeaderKey?, body]
  simp [Text.trim_append_right space]

theorem row_headerLine (indent : List Char) (key : String) :
    ¬ Text.allBlank (indent ++ (headerLine key).content) = true ∧
      ¬ closes (indent ++ (headerLine key).content) = true ∧
      opens (indent ++ (headerLine key).content) = true := by
  have brace := Text.isBlank_openingBrace
  have split : indent ++ (headerLine key).content =
      (indent ++ key.toList ++ [' ', ':', ' ']) ++ ['\x7b'] := by
    simp [headerLine, headerEnd]
  rw [split, closes_append_singleton brace, opens_append_singleton brace]
  exact ⟨not_allBlank_of_append_singleton brace _, by decide, rfl⟩

/-! ## Values -/

theorem isLetter_eq_false_of_isDigit {c : Char} (digit : c.isDigit = true) :
    Text.isLetter c = false := by
  rcases Char.isDigit_iff_toNat.mp digit with ⟨lower, upper⟩
  have ascii : c.toNat < 0x80 := upper.trans_lt (by decide)
  rw [Text.isLetter, if_pos ascii, Bool.eq_false_iff]
  intro letter
  have atLeast : 'A'.toNat ≤ c.toNat := by
    rcases Bool.or_eq_true_iff.mp letter with isUpper | isLower
    · exact UInt32.le_iff_toNat_le.mp (of_decide_eq_true isUpper).1
    · have fromLower : 'a'.toNat ≤ c.toNat :=
        UInt32.le_iff_toNat_le.mp (of_decide_eq_true (Bool.and_eq_true_iff.mp isLower).1)
      exact le_trans (by decide) fromLower
  exact absurd (atLeast.trans upper) (by decide)

theorem collapsePairs_of_noPair {text : List Char} (noPair : ¬ ['\\', '\\'] <:+: text) :
    Text.collapsePairs text = text := by
  fun_induction Text.collapsePairs text with
  | case1 => rfl
  | case2 rest => exact absurd ⟨[], rest, rfl⟩ noPair
  | case3 c rest _ induction =>
      rw [induction fun inside => noPair (inside.trans (List.suffix_cons c rest).isInfix)]

theorem mark_of_mem_integerText {number : Int} {c : Char}
    (member : c ∈ Decimal.integerText number) :
    Text.isLetter c = false ∧ c ≠ '\\' ∧ c ≠ '/' ∧ c ≠ '"' ∧ c ≠ ' ' ∧ c ≠ '.' := by
  rcases Decimal.isDigit_or_eq_minus_of_mem_integerText member with digit | rfl
  · refine ⟨isLetter_eq_false_of_isDigit digit, ?_, ?_, ?_, ?_, ?_⟩ <;> rintro rfl <;>
      exact absurd digit (by decide)
  · decide

theorem scalar_integerText (number : Int64) :
    scalar (' ' :: Decimal.integerText number.toInt) = .integer number := by
  have noPoint : '.' ∉ Decimal.integerText number.toInt :=
    fun member => (mark_of_mem_integerText member).2.2.2.2.2 rfl
  have leading := Decimal.leadingInteger_integerText number
  cases written : Decimal.integerText number.toInt with
  | nil => exact absurd written (Decimal.integerText_ne_nil _)
  | cons first rest =>
      rw [written] at noPoint leading
      have firstMember : first ∈ Decimal.integerText number.toInt := by simp [written]
      rcases mark_of_mem_integerText firstMember with
        ⟨notLetter, notBackslash, notSlash, notQuote, notSpace, _⟩
      simp [scalar, notLetter, notBackslash, notSlash, notQuote, notSpace, noPoint, leading]

/-- A value is read back from what is written behind the colon. -/
theorem scalar_written (value : Scalar) : scalar (' ' :: value.written) = value.toValue := by
  cases value with
  | integer number => exact scalar_integerText number
  | quoted content =>
      have kept := collapsePairs_of_noPair content.noPair
      simp [scalar, Scalar.written, Scalar.toValue, Text.isLetter, kept]

theorem exists_written_eq_append (value : Scalar) :
    ∃ front last, value.written = front ++ [last] ∧ Text.isBlank last = false ∧
      last ≠ '\x7b' ∧ last ≠ '\x7d' := by
  cases value with
  | integer number =>
      rcases List.eq_nil_or_concat (Decimal.integerText number.toInt) with
        empty | ⟨front, last, split⟩
      · exact absurd empty (Decimal.integerText_ne_nil _)
      · have member : last ∈ Decimal.integerText number.toInt := by simp [split]
        refine ⟨front, last, split.trans List.concat_eq_append,
          Decimal.isBlank_eq_false_of_mem_integerText member, ?_, ?_⟩ <;> rintro rfl <;>
          exact absurd (Decimal.isDigit_or_eq_minus_of_mem_integerText member) (by decide)
  | quoted content => exact ⟨_, '"', rfl, by decide, by decide, by decide⟩

/-- Without its indent a line starts with its key. Of an empty key even the space in front of the
colon is taken for indent. -/
theorem exists_dropIndent_itemLine {indent : List Char} (isIndent : Text.IsIndent indent)
    (key : ItemKey) (value : Scalar) :
    ∃ front, Text.dropIndent (indent ++ (itemLine key value).content) =
        front ++ ':' :: ' ' :: value.written ∧
      ':' ∉ front ∧ Text.dropFinal ' ' front = key.text.toList := by
  have noColon := key.noColon
  have notIndented := key.notIndented
  rw [Text.dropIndent_append isIndent, itemLine]
  cases text : key.text.toList with
  | nil => exact ⟨[], by simp [Text.dropIndent], List.not_mem_nil, rfl⟩
  | cons first rest =>
      rw [text] at noColon notIndented
      refine ⟨(first :: rest) ++ [' '], ?_, by simpa using noColon,
        Text.dropFinal_append_singleton ' ' _⟩
      simp only [List.head?_cons, ne_eq, Option.some.injEq] at notIndented
      simp [Text.dropIndent, notIndented.1, notIndented.2]

theorem keyAndValue?_itemLine {indent : List Char} (isIndent : Text.IsIndent indent)
    (key : ItemKey) (value : Scalar) :
    keyAndValue? (indent ++ (itemLine key value).content) =
      some (key.text.toList, ' ' :: value.written) := by
  rcases exists_dropIndent_itemLine isIndent key value with ⟨front, split, noColon, front_eq⟩
  rw [keyAndValue?, split, Text.cutAt?_append noColon, ← front_eq]
  rfl

/-! ## One step of reading -/

namespace BlockStack

theorem pushHeader_headerLine (stack : BlockStack) (number : Nat) {indent : List Char}
    (isIndent : Text.IsIndent indent) (key : BlockKey) (opened : List Char → OpenBlock) :
    stack.pushHeader ⟨number, indent ++ (headerLine key.text).content⟩ opened =
      .ok (stack.push (opened key.text.toList).key (opened key.text.toList).block) := by
  have header : trimmedHeaderKey? (indent ++ (headerLine key.text).content) =
      some key.text.toList := by
    rw [headerLine, ← List.append_assoc, trimmedHeaderKey?_append_headerEnd,
      Text.trim_append_left isIndent.allBlank, key.trimmed]
  rw [pushHeader, header]

section

variable (below : BlockStack) (key : String) (number : Nat) {indent : List Char}
  (isIndent : Text.IsIndent indent)

include isIndent

theorem step_header_top (root : Members) (name : BlockKey) :
    step ⟨root, []⟩ ⟨number, indent ++ (headerLine name.text).content⟩ =
      .ok (push ⟨root, []⟩ (topKey (indent ++ (headerLine name.text).content)) (.list [])) := by
  have row := row_headerLine indent name.text
  refine (if_neg row.1).trans ?_
  exact pushHeader_headerLine ⟨root, []⟩ number isIndent name _

theorem step_header_list (objects : List Value) (name : BlockKey) :
    step (below.push key (.list objects)) ⟨number, indent ++ (headerLine name.text).content⟩ =
      .ok ((below.push key (.list objects)).push name.text (.object [])) := by
  have row := row_headerLine indent name.text
  refine (if_neg row.1).trans ((if_neg row.2.1).trans ?_)
  rw [pushHeader_headerLine _ number isIndent name, String.ofList_toList]

theorem step_header_object (members : Members) (name : BlockKey) :
    step (below.push key (.object members)) ⟨number, indent ++ (headerLine name.text).content⟩ =
      .ok ((below.push key (.object members)).push (openedInObject name.text.toList).key
        (openedInObject name.text.toList).block) := by
  have row := row_headerLine indent name.text
  refine (if_neg row.1).trans ((if_neg row.2.1).trans ((if_pos row.2.2).trans ?_))
  exact pushHeader_headerLine _ number isIndent name _

theorem step_item (members : Members) (item : ItemKey) (value : Scalar) :
    step (below.push key (.object members)) ⟨number, indent ++ (itemLine item value).content⟩ =
      .ok (below.push key (.object (collect item.text value.toValue members))) := by
  rcases exists_written_eq_append value with ⟨front, last, written, notBlank, notOpen, notClose⟩
  have row : indent ++ (itemLine item value).content =
      (indent ++ item.text.toList ++ [' ', ':', ' '] ++ front) ++ [last] := by
    simp [itemLine, written]
  have filled : ¬ Text.allBlank (indent ++ (itemLine item value).content) = true := by
    rw [row]
    exact not_allBlank_of_append_singleton notBlank _
  have notCloses : ¬ closes (indent ++ (itemLine item value).content) = true := by
    rw [row, closes_append_singleton notBlank]
    simpa using notClose
  have notOpens : ¬ opens (indent ++ (itemLine item value).content) = true := by
    rw [row, opens_append_singleton notBlank]
    simpa using notOpen
  refine (if_neg filled).trans ((if_neg notCloses).trans ((if_neg notOpens).trans ?_))
  simp only [keyAndValue?_itemLine isIndent, scalar_written, String.ofList_toList]
  rfl

end

theorem step_closing (below : BlockStack) (key : String) (number : Nat) (indent : List Char)
    (block : Block) :
    step (below.push key block) ⟨number, indent ++ closingLine.content⟩ =
      .ok (below.keep key block.toValue) := by
  have brace : Text.isBlank '\x7d' = false := by decide
  have closing : closes (indent ++ ['\x7d']) = true := by
    rw [closes_append_singleton brace]
    rfl
  have filled := Bool.eq_false_iff.mpr (not_allBlank_of_append_singleton brace indent)
  exact step_of_isClosing ⟨filled, closing⟩ below key block number

end BlockStack

end BroadcastScenes.SceneText
