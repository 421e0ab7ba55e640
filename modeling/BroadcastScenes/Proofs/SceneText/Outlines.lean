import BroadcastScenes.Proofs.DistinctKeys
import BroadcastScenes.Proofs.SceneText.LinesBehind

/-!
# Outlines

The outline of a scene text is all that stands in it: in each object every line and every block, in
order, whether its key has been there before or not. What the text is read as is settled from its
outline, object by object. A text can be read exactly if it has an outline.
-/

namespace BroadcastScenes.SceneText

open Text (numberFrom)

inductive Outline where
  | line (written : List Char)
  | object (entries : List (String × Outline))
  | list (objects : List (String × List (String × Outline)))

abbrev ObjectOutline := Entries Outline

abbrev ListOutline := Entries ObjectOutline

abbrev TextOutline := Entries ListOutline

/-! ## What an outline is settled as -/

inductive Written where
  | line (value : Value)
  | block (value : Value)

namespace Written

def value : Written → Value
  | line value => value
  | block value => value

def isBlock : Written → Bool
  | line _ => false
  | block _ => true

/-- A value from a line is collected with what its key has already. A block takes its place. -/
def writeUnder (key : String) (members : Members) : Written → Members
  | line value => collect key value members
  | block value => members.insert key value

end Written

def writeAll (written : Entries Written) (members : Members) : Members :=
  written.foldl (fun sofar entry => entry.2.writeUnder entry.1 sofar) members

def settle (written : Entries Written) : Members := writeAll written []

mutual

def Outline.written : Outline → Written
  | .line text => .line (scalar text)
  | .object entries => .block (.object (settle (writtenIn entries)))
  | .list objects => .block (.array (listed objects))

def writtenIn : List (String × Outline) → Entries Written
  | [] => []
  | (key, first) :: rest => (key, first.written) :: writtenIn rest

/-- The objects of a list, each with its name over what it says of a name itself. -/
def listed : List (String × List (String × Outline)) → List Value
  | [] => []
  | (name, entries) :: rest =>
      .object ((settle (writtenIn entries)).insert "name" (.string name)) :: listed rest

end

def TextOutline.blocks (outline : TextOutline) : Members :=
  Entries.mapValues (fun objects => .array (listed objects)) outline

def TextOutline.content (outline : TextOutline) : Members := Entries.ofList outline.blocks

/-! ## The rows of an outline -/

structure GoesOn (row : List Char) : Prop where
  filled : Text.allBlank row = false
  notClosing : closes row = false

mutual

inductive ObjectRows : List (List Char) → ObjectOutline → Prop
  | closing {row : List Char} (isClosing : IsClosing row) : ObjectRows [row] []
  | blank {row : List Char} {rows : List (List Char)} {entries : ObjectOutline}
      (isBlank : Text.allBlank row = true) (rest : ObjectRows rows entries) :
      ObjectRows (row :: rows) entries
  | line {row key written : List Char} {rows : List (List Char)} {entries : ObjectOutline}
      (goesOn : GoesOn row) (noHeader : opens row = false)
      (item : keyAndValue? row = some (key, written)) (rest : ObjectRows rows entries) :
      ObjectRows (row :: rows) ((String.ofList key, .line written) :: entries)
  | object {row key : List Char} {front back : List (List Char)} {inner entries : ObjectOutline}
      (goesOn : GoesOn row) (isHeader : opens row = true)
      (header : trimmedHeaderKey? row = some key) (noList : isListKey key = false)
      (inside : ObjectRows front inner) (rest : ObjectRows back entries) :
      ObjectRows (row :: (front ++ back)) ((String.ofList key, .object inner) :: entries)
  | list {row key : List Char} {front back : List (List Char)} {objects : ListOutline}
      {entries : ObjectOutline} (goesOn : GoesOn row) (isHeader : opens row = true)
      (header : trimmedHeaderKey? row = some key) (isList : isListKey key = true)
      (inside : ListRows front objects) (rest : ObjectRows back entries) :
      ObjectRows (row :: (front ++ back)) (("sources", .list objects) :: entries)

inductive ListRows : List (List Char) → ListOutline → Prop
  | closing {row : List Char} (isClosing : IsClosing row) : ListRows [row] []
  | blank {row : List Char} {rows : List (List Char)} {objects : ListOutline}
      (isBlank : Text.allBlank row = true) (rest : ListRows rows objects) :
      ListRows (row :: rows) objects
  | object {row name : List Char} {front back : List (List Char)} {entries : ObjectOutline}
      {objects : ListOutline} (goesOn : GoesOn row)
      (header : trimmedHeaderKey? row = some name) (inside : ObjectRows front entries)
      (rest : ListRows back objects) :
      ListRows (row :: (front ++ back)) ((String.ofList name, entries) :: objects)

end

inductive TextRows : List (List Char) → TextOutline → Prop
  | nil : TextRows [] []
  | blank {row : List Char} {rows : List (List Char)} {outline : TextOutline}
      (isBlank : Text.allBlank row = true) (rest : TextRows rows outline) :
      TextRows (row :: rows) outline
  | list {row key : List Char} {front back : List (List Char)} {objects : ListOutline}
      {outline : TextOutline} (filled : Text.allBlank row = false)
      (header : trimmedHeaderKey? row = some key) (inside : ListRows front objects)
      (rest : TextRows back outline) :
      TextRows (row :: (front ++ back)) ((BlockStack.topKey row, objects) :: outline)

namespace BlockStack

/-! ## Steps -/

section

variable {row : List Char} (root : Members) (outer : List OpenBlock) (key : String) (number : Nat)

theorem step_list_of_goesOn (goesOn : GoesOn row) (objects : List Value) :
    step ⟨root, ⟨key, .list objects⟩ :: outer⟩ ⟨number, row⟩ =
      pushHeader ⟨root, ⟨key, .list objects⟩ :: outer⟩ ⟨number, row⟩
        fun name => ⟨String.ofList name, .object []⟩ := by
  rw [step_of_filled goesOn.filled, stepFilled, goesOn.notClosing]
  rfl

theorem step_object_of_opens (goesOn : GoesOn row) (isHeader : opens row = true)
    (members : Members) :
    step ⟨root, ⟨key, .object members⟩ :: outer⟩ ⟨number, row⟩ =
      pushHeader ⟨root, ⟨key, .object members⟩ :: outer⟩ ⟨number, row⟩ openedInObject := by
  rw [step_of_filled goesOn.filled, stepFilled, goesOn.notClosing, isHeader]
  rfl

theorem step_object_of_item (goesOn : GoesOn row) (noHeader : opens row = false)
    {item written : List Char} (isItem : keyAndValue? row = some (item, written))
    (members : Members) :
    step ⟨root, ⟨key, .object members⟩ :: outer⟩ ⟨number, row⟩ =
      .ok ⟨root, ⟨key, .object (collect (String.ofList item) (scalar written) members)⟩ ::
        outer⟩ := by
  rw [step_of_filled goesOn.filled, stepFilled, goesOn.notClosing, noHeader]
  simp only [Bool.false_eq_true, if_false, isItem]

end

theorem pushHeader_of_header (stack : BlockStack) (number : Nat) {row name : List Char}
    (header : trimmedHeaderKey? row = some name) (opened : List Char → OpenBlock) :
    stack.pushHeader ⟨number, row⟩ opened =
      .ok (stack.push (opened name).key (opened name).block) := by
  rw [pushHeader, header]

theorem exists_header_of_pushHeader {stack next : BlockStack} {number : Nat} {row : List Char}
    {opened : List Char → OpenBlock}
    (pushed : stack.pushHeader ⟨number, row⟩ opened = .ok next) :
    ∃ name, trimmedHeaderKey? row = some name ∧
      next = stack.push (opened name).key (opened name).block := by
  rw [pushHeader] at pushed
  cases header : trimmedHeaderKey? row with
  | none =>
      simp only [header] at pushed
      cases pushed
  | some name =>
      simp only [header] at pushed
      cases pushed
      exact ⟨name, rfl, rfl⟩

/-! ## Reading the rows of an outline -/

-- What has been read of the block already is in front of what its rows say, so that the rows of an
-- inner block can be followed by the rest of the rows around it.
mutual

theorem leadsTo_of_objectRows : ∀ {rows : List (List Char)} {entries : ObjectOutline},
    ObjectRows rows entries → ∀ root key members outer,
      LeadsTo ⟨root, ⟨key, .object members⟩ :: outer⟩ rows
        (keep key (.object (writeAll (writtenIn entries) members)) ⟨root, outer⟩)
  | _, _, .closing isClosing, root, key, members, outer =>
      .cons (step_of_isClosing isClosing ⟨root, outer⟩ key _) (leadsTo_nil _)
  | _, _, .blank isBlank rest, root, key, members, outer =>
      .cons (step_of_isBlank isBlank _) (leadsTo_of_objectRows rest root key members outer)
  | _, _, .line goesOn noHeader item rest, root, key, members, outer =>
      .cons (fun number => step_object_of_item root outer key number goesOn noHeader item members)
        (leadsTo_of_objectRows rest root key _ outer)
  | _, _, @ObjectRows.object _ name _ _ _ _ goesOn isHeader header noList inside rest, root, key,
      members, outer => by
      refine .cons (fun number => ?_) ((leadsTo_of_objectRows inside root (String.ofList name) []
        (⟨key, .object members⟩ :: outer)).append (leadsTo_of_objectRows rest root key _ outer))
      rw [step_object_of_opens root outer key number goesOn isHeader,
        pushHeader_of_header _ number header, openedInObject_of_not_isListKey noList]
      rfl
  | _, _, @ObjectRows.list _ name _ _ _ _ goesOn isHeader header isList inside rest, root, key,
      members, outer => by
      refine .cons (fun number => ?_) ((leadsTo_of_listRows inside root "sources" []
        (⟨key, .object members⟩ :: outer)).append (leadsTo_of_objectRows rest root key _ outer))
      rw [step_object_of_opens root outer key number goesOn isHeader,
        pushHeader_of_header _ number header, openedInObject_of_isListKey isList]
      rfl

theorem leadsTo_of_listRows : ∀ {rows : List (List Char)} {outline : ListOutline},
    ListRows rows outline → ∀ root key objects outer,
      LeadsTo ⟨root, ⟨key, .list objects⟩ :: outer⟩ rows
        (keep key (.array (objects ++ listed outline)) ⟨root, outer⟩)
  | _, _, .closing isClosing, root, key, objects, outer => by
      rw [listed, List.append_nil]
      exact .cons (step_of_isClosing isClosing ⟨root, outer⟩ key _) (leadsTo_nil _)
  | _, _, .blank isBlank rest, root, key, objects, outer =>
      .cons (step_of_isBlank isBlank _) (leadsTo_of_listRows rest root key objects outer)
  | _, _, @ListRows.object _ name _ _ entries _ goesOn header inside rest, root, key, objects,
      outer => by
      have inner := leadsTo_of_objectRows inside root (String.ofList name) []
        (⟨key, .list objects⟩ :: outer)
      have later := leadsTo_of_listRows rest root key (objects ++
        [.object ((settle (writtenIn entries)).insert "name" (.string (String.ofList name)))]) outer
      rw [listed, List.append_cons]
      refine .cons (fun number => ?_) (inner.append later)
      rw [step_list_of_goesOn root outer key number goesOn, pushHeader_of_header _ number header]
      rfl

end

theorem step_top_of_filled (root : Members) (number : Nat) {row : List Char}
    (filled : Text.allBlank row = false) :
    step ⟨root, []⟩ ⟨number, row⟩ =
      pushHeader ⟨root, []⟩ ⟨number, row⟩ fun _ => ⟨topKey row, .list []⟩ := by
  rw [step_of_filled filled]
  rfl

theorem leadsTo_of_textRows {rows : List (List Char)} {outline : TextOutline}
    (isText : TextRows rows outline) (root : Members) :
    LeadsTo ⟨root, []⟩ rows ⟨Entries.insertAll outline.blocks root, []⟩ := by
  induction isText generalizing root with
  | nil => exact leadsTo_nil _
  | blank isBlank _ induction =>
      exact .cons (step_of_isBlank isBlank _) (induction root)
  | @list row key front back objects outline filled header inside rest induction =>
      have block := leadsTo_of_listRows inside root (topKey row) [] []
      refine .cons (fun number => ?_) (block.append (induction _))
      rw [step_top_of_filled root number filled, pushHeader_of_header _ number header]
      rfl

/-! ## The outline of rows that have been read -/

theorem exists_step_of_foldlM {first : Nat} {row : List Char} {rows : List (List Char)}
    {stack final : BlockStack}
    (read : (numberFrom first (row :: rows)).foldlM step stack = .ok final) :
    ∃ next, stack.step ⟨first, row⟩ = .ok next ∧
      (numberFrom (first + 1) rows).foldlM step next = .ok final := by
  cases stepped : stack.step ⟨first, row⟩ with
  | error error =>
      rw [numberFrom, List.foldlM_cons, stepped] at read
      cases read
  | ok next =>
      rw [foldlM_step_of_step stepped] at read
      exact ⟨next, rfl, read⟩

theorem goesOn_or_isClosing {row : List Char} (filled : Text.allBlank row = false) :
    IsClosing row ∨ GoesOn row := by
  cases closing : closes row with
  | true => exact .inl ⟨filled, closing⟩
  | false => exact .inr ⟨filled, closing⟩

theorem step_object_cases {root : Members} {key : String} {members : Members}
    {outer : List OpenBlock} {number : Nat} {row : List Char} {next : BlockStack}
    (goesOn : GoesOn row)
    (stepped : step ⟨root, ⟨key, .object members⟩ :: outer⟩ ⟨number, row⟩ = .ok next) :
    (∃ item written, opens row = false ∧ keyAndValue? row = some (item, written) ∧
      next = ⟨root, ⟨key, .object (collect (String.ofList item) (scalar written) members)⟩ ::
        outer⟩) ∨
    ∃ name, opens row = true ∧ trimmedHeaderKey? row = some name ∧
      next = push ⟨root, ⟨key, .object members⟩ :: outer⟩ (openedInObject name).key
        (openedInObject name).block := by
  cases isHeader : opens row with
  | true =>
      rw [step_object_of_opens root outer key number goesOn isHeader] at stepped
      rcases exists_header_of_pushHeader stepped with ⟨name, header, pushed⟩
      exact .inr ⟨name, rfl, header, pushed⟩
  | false =>
      cases isItem : keyAndValue? row with
      | none =>
          rw [step_of_filled goesOn.filled, stepFilled, goesOn.notClosing, isHeader] at stepped
          simp only [Bool.false_eq_true, if_false, isItem] at stepped
          cases stepped
      | some pair =>
          rw [step_object_of_item root outer key number goesOn isHeader isItem] at stepped
          cases stepped
          exact .inl ⟨pair.1, pair.2, rfl, rfl, rfl⟩

-- The rows in front end where the block is closed. That they do is seen from the stack at the end,
-- on which nothing is left of the block.
mutual

theorem exists_objectRows {root : Members} {key : String} {members : Members}
    {outer : List OpenBlock} {first : Nat} {rows : List (List Char)} {final : BlockStack}
    (read : (numberFrom first rows).foldlM step ⟨root, ⟨key, .object members⟩ :: outer⟩ =
      .ok final)
    (closed : final.openBlocks.length ≤ outer.length) :
    ∃ front back entries number, rows = front ++ back ∧ ObjectRows front entries ∧
      (numberFrom number back).foldlM step
        (keep key (.object (writeAll (writtenIn entries) members)) ⟨root, outer⟩) = .ok final := by
  cases rows with
  | nil =>
      cases read
      exact absurd closed (Nat.not_succ_le_self _)
  | cons row rest =>
      rcases exists_step_of_foldlM read with ⟨next, stepped, later⟩
      cases isBlank : Text.allBlank row with
      | true =>
          rw [step_of_isBlank isBlank] at stepped
          cases stepped
          rcases exists_objectRows later closed with
            ⟨front, back, entries, number, rfl, isObject, behind⟩
          exact ⟨row :: front, back, entries, number, rfl, .blank isBlank isObject, behind⟩
      | false =>
          rcases goesOn_or_isClosing isBlank with isClosing | goesOn
          · cases (step_of_isClosing isClosing ⟨root, outer⟩ key _ first).symm.trans stepped
            exact ⟨[row], rest, [], first + 1, rfl, .closing isClosing, later⟩
          rcases step_object_cases goesOn stepped with
            ⟨item, written, noHeader, isItem, rfl⟩ | ⟨name, isHeader, header, rfl⟩
          · rcases exists_objectRows later closed with
              ⟨front, back, entries, number, rfl, isObject, behind⟩
            exact ⟨row :: front, back, _, number, rfl,
              .line goesOn noHeader isItem isObject, behind⟩
          have closedInside := Nat.le_succ_of_le closed
          cases lists : isListKey name with
          | false =>
              rw [openedInObject_of_not_isListKey lists] at later
              rcases exists_objectRows later closedInside with
                ⟨front, between, inner, middle, rfl, inside, behindInner⟩
              rcases exists_objectRows behindInner closed with
                ⟨more, back, entries, number, rfl, isObject, behind⟩
              refine ⟨row :: (front ++ more), back, _, number, ?_,
                .object goesOn isHeader header lists inside isObject, behind⟩
              rw [List.cons_append, List.append_assoc]
          | true =>
              rw [openedInObject_of_isListKey lists] at later
              rcases exists_listRows later closedInside with
                ⟨front, between, inner, middle, rfl, inside, behindInner⟩
              rcases exists_objectRows behindInner closed with
                ⟨more, back, entries, number, rfl, isObject, behind⟩
              refine ⟨row :: (front ++ more), back, _, number, ?_,
                .list goesOn isHeader header lists inside isObject, behind⟩
              rw [List.cons_append, List.append_assoc]
termination_by rows.length

theorem exists_listRows {root : Members} {key : String} {objects : List Value}
    {outer : List OpenBlock} {first : Nat} {rows : List (List Char)} {final : BlockStack}
    (read : (numberFrom first rows).foldlM step ⟨root, ⟨key, .list objects⟩ :: outer⟩ =
      .ok final)
    (closed : final.openBlocks.length ≤ outer.length) :
    ∃ front back outline number, rows = front ++ back ∧ ListRows front outline ∧
      (numberFrom number back).foldlM step
        (keep key (.array (objects ++ listed outline)) ⟨root, outer⟩) = .ok final := by
  cases rows with
  | nil =>
      cases read
      exact absurd closed (Nat.not_succ_le_self _)
  | cons row rest =>
      rcases exists_step_of_foldlM read with ⟨next, stepped, later⟩
      cases isBlank : Text.allBlank row with
      | true =>
          rw [step_of_isBlank isBlank] at stepped
          cases stepped
          rcases exists_listRows later closed with
            ⟨front, back, outline, number, rfl, isList, behind⟩
          exact ⟨row :: front, back, outline, number, rfl, .blank isBlank isList, behind⟩
      | false =>
          rcases goesOn_or_isClosing isBlank with isClosing | goesOn
          · cases (step_of_isClosing isClosing ⟨root, outer⟩ key _ first).symm.trans stepped
            refine ⟨[row], rest, [], first + 1, rfl, .closing isClosing, ?_⟩
            rw [listed, List.append_nil]
            exact later
          rw [step_list_of_goesOn root outer key first goesOn] at stepped
          rcases exists_header_of_pushHeader stepped with ⟨name, header, rfl⟩
          rcases exists_objectRows later (Nat.le_succ_of_le closed) with
            ⟨front, between, inner, middle, rfl, inside, behindInner⟩
          rcases exists_listRows behindInner closed with
            ⟨more, back, outline, number, rfl, isList, behind⟩
          refine ⟨row :: (front ++ more), back, _, number, ?_,
            .object goesOn header inside isList, ?_⟩
          · rw [List.cons_append, List.append_assoc]
          · rw [listed, List.append_cons]
            exact behind
termination_by rows.length

end

theorem exists_textRows {root content : Members} {first : Nat} {rows : List (List Char)}
    (read : (numberFrom first rows).foldlM step ⟨root, []⟩ = .ok ⟨content, []⟩) :
    ∃ outline, TextRows rows outline := by
  cases rows with
  | nil => exact ⟨[], .nil⟩
  | cons row rest =>
      rcases exists_step_of_foldlM read with ⟨next, stepped, later⟩
      cases isBlank : Text.allBlank row with
      | true =>
          rw [step_of_isBlank isBlank] at stepped
          cases stepped
          rcases exists_textRows later with ⟨outline, isText⟩
          exact ⟨outline, .blank isBlank isText⟩
      | false =>
          rw [step_top_of_filled root first isBlank] at stepped
          rcases exists_header_of_pushHeader stepped with ⟨name, header, rfl⟩
          rcases exists_listRows later (Nat.le_refl _) with
            ⟨front, back, objects, number, rfl, inside, behind⟩
          rcases exists_textRows behind with ⟨outline, isText⟩
          exact ⟨_, .list isBlank header inside isText⟩
termination_by rows.length

end BlockStack

/-- A text can be read exactly if it has an outline, and its content is settled from that. -/
theorem read_eq_ok_iff_exists_outline {text : String} {content : Members} :
    read text = .ok content ↔
      ∃ outline : TextOutline, TextRows (Text.lines text.toList) outline ∧
        content = outline.content := by
  rw [read_eq_readRows, BlockStack.readRows_eq_ok_iff]
  constructor
  · intro reading
    rcases BlockStack.exists_textRows reading with ⟨outline, isText⟩
    have leads := BlockStack.leadsTo_of_textRows isText [] 1
    cases reading.symm.trans leads
    exact ⟨outline, isText, rfl⟩
  · rintro ⟨outline, isText, rfl⟩
    exact BlockStack.leadsTo_of_textRows isText [] 1

end BroadcastScenes.SceneText
