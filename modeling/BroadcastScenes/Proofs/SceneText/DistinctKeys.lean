import BroadcastScenes.Proofs.SceneText.Moves
import BroadcastScenes.Proofs.Value.Nesting

/-!
# Keys in scene texts

A key that a text repeats collects its values or keeps the last of them, so that no object in the
content of a text has two members with the same key. In one pass over the text this is kept by each
line.
-/

namespace BroadcastScenes.SceneText

open Text (NumberedLine)

theorem hasDistinctKeys_scalar (written : List Char) : (scalar written).HasDistinctKeys := by
  have number : ∀ text : List Char,
      (if '.' ∈ text then Value.double (Decimal.leadingDouble text)
        else Value.integer (Decimal.leadingInteger text)).HasDistinctKeys := by
    intro text
    split
    · exact .double _
    · exact .integer _
  rw [scalar]
  split
  · exact number _
  · split
    · exact .string _
    · split
      · exact .string _
      · exact number _

theorem hasDistinctKeys_collect {members : Members}
    (distinctKeys : (Value.object members).HasDistinctKeys) (key : String) {value : Value}
    (more : value.HasDistinctKeys) :
    (Value.object (collect key value members)).HasDistinctKeys := by
  rw [collect]
  split
  · exact distinctKeys.insert key more
  · rename_i values found
    exact distinctKeys.insert key ((distinctKeys.find? found).push more)
  · rename_i first _ found
    have start : (Value.array [first]).HasDistinctKeys :=
      .array (List.forall_mem_singleton.mpr (distinctKeys.find? found))
    exact distinctKeys.insert key (start.push more)

theorem Block.hasDistinctKeys_keep {block : Block} (distinctKeys : block.toValue.HasDistinctKeys)
    (key : String) {value : Value} (kept : value.HasDistinctKeys) :
    (block.keep key value).toValue.HasDistinctKeys := by
  cases block with
  | list objects => exact distinctKeys.push (kept.members.insert "name" (.string key))
  | object members => exact distinctKeys.insert key kept

theorem hasDistinctKeys_emptyObject : (Block.object []).toValue.HasDistinctKeys :=
  .object List.nodup_nil (List.forall_mem_nil _)

theorem hasDistinctKeys_emptyList : (Block.list []).toValue.HasDistinctKeys :=
  .array (List.forall_mem_nil _)

theorem Block.hasDistinctKeys_addValue {block : Block}
    (distinctKeys : block.toValue.HasDistinctKeys) (key : String) {value : Value}
    (added : value.HasDistinctKeys) : (block.addValue key value).toValue.HasDistinctKeys := by
  cases block with
  | list objects => exact distinctKeys
  | object members => exact hasDistinctKeys_collect distinctKeys key added

namespace Move

def HasDistinctKeys : Move → Prop
  | openBlock opened => opened.block.toValue.HasDistinctKeys
  | addValue _ value => value.HasDistinctKeys
  | _ => True

theorem hasDistinctKeys_ofHeader {line : List Char} {opened : List Char → OpenBlock}
    (empty : ∀ key, (opened key).block.toValue.HasDistinctKeys) :
    (ofHeader line opened).HasDistinctKeys := by
  rw [ofHeader]
  split
  · trivial
  · exact empty _

theorem hasDistinctKeys_openedInObject (key : List Char) :
    (BlockStack.openedInObject key).block.toValue.HasDistinctKeys := by
  rw [BlockStack.openedInObject]
  split
  · exact hasDistinctKeys_emptyList
  · exact hasDistinctKeys_emptyObject

theorem hasDistinctKeys_ofFilled (line : List Char) (innermost : Option Block) :
    (ofFilled line innermost).HasDistinctKeys := by
  rcases innermost with _ | ⟨objects | members⟩
  · exact hasDistinctKeys_ofHeader fun _ => hasDistinctKeys_emptyList
  · rw [ofFilled]
    split
    · trivial
    · exact hasDistinctKeys_ofHeader fun _ => hasDistinctKeys_emptyObject
  · rw [ofFilled]
    split
    · trivial
    split
    · exact hasDistinctKeys_ofHeader hasDistinctKeys_openedInObject
    · split
      · trivial
      · exact hasDistinctKeys_scalar _

theorem hasDistinctKeys_ofLine (line : List Char) (innermost : Option Block) :
    (ofLine line innermost).HasDistinctKeys := by
  rw [ofLine]
  split
  · trivial
  · exact hasDistinctKeys_ofFilled line innermost

end Move

namespace BlockStack

structure HasDistinctKeys (stack : BlockStack) : Prop where
  root : (Value.object stack.root).HasDistinctKeys
  inner : ∀ openBlock ∈ stack.openBlocks, openBlock.block.toValue.HasDistinctKeys

theorem hasDistinctKeys_empty : HasDistinctKeys {} :=
  ⟨.object List.nodup_nil (List.forall_mem_nil _), List.forall_mem_nil _⟩

theorem HasDistinctKeys.keep {stack : BlockStack} (distinctKeys : stack.HasDistinctKeys)
    (key : String) {value : Value} (kept : value.HasDistinctKeys) :
    (stack.keep key value).HasDistinctKeys := by
  rcases stack with ⟨root, blocks⟩
  cases blocks with
  | nil => exact ⟨distinctKeys.root.insert key kept, List.forall_mem_nil _⟩
  | cons around outer =>
      rcases List.forall_mem_cons.mp distinctKeys.inner with ⟨first, rest⟩
      exact ⟨distinctKeys.root, List.forall_mem_cons.mpr
        ⟨Block.hasDistinctKeys_keep first key kept, rest⟩⟩

theorem HasDistinctKeys.push {stack : BlockStack} (distinctKeys : stack.HasDistinctKeys)
    (key : String) {block : Block} (pushed : block.toValue.HasDistinctKeys) :
    (stack.push key block).HasDistinctKeys :=
  ⟨distinctKeys.root, List.forall_mem_cons.mpr ⟨pushed, distinctKeys.inner⟩⟩

theorem HasDistinctKeys.outer {root : Members} {innermost : OpenBlock} {outer : List OpenBlock}
    (distinctKeys : HasDistinctKeys ⟨root, innermost :: outer⟩) : HasDistinctKeys ⟨root, outer⟩ :=
  ⟨distinctKeys.root, (List.forall_mem_cons.mp distinctKeys.inner).2⟩

theorem HasDistinctKeys.close {stack : BlockStack} (distinctKeys : stack.HasDistinctKeys) :
    stack.close.HasDistinctKeys := by
  rcases stack with ⟨root, _ | ⟨innermost, outer⟩⟩
  · exact distinctKeys
  · exact distinctKeys.outer.keep _ (distinctKeys.inner innermost List.mem_cons_self)

theorem HasDistinctKeys.addValue {stack : BlockStack} (distinctKeys : stack.HasDistinctKeys)
    (key : String) {value : Value} (added : value.HasDistinctKeys) :
    (stack.addValue key value).HasDistinctKeys := by
  rcases stack with ⟨root, _ | ⟨innermost, outer⟩⟩
  · exact distinctKeys
  · exact distinctKeys.outer.push innermost.key (Block.hasDistinctKeys_addValue
      (distinctKeys.inner innermost List.mem_cons_self) key added)

theorem HasDistinctKeys.step {stack next : BlockStack} {line : NumberedLine}
    (distinctKeys : stack.HasDistinctKeys) (stepped : stack.step line = .ok next) :
    next.HasDistinctKeys := by
  rw [step_eq_make] at stepped
  have moved := Move.hasDistinctKeys_ofLine line.text stack.innermost?
  cases move : Move.ofLine line.text stack.innermost? <;> rw [move] at stepped moved <;>
    cases stepped
  · exact distinctKeys
  · exact distinctKeys.push _ moved
  · exact distinctKeys.close
  · exact distinctKeys.addValue _ moved

theorem HasDistinctKeys.run {total : Nat} {lines : List NumberedLine} {stack : BlockStack}
    {content : Members} (distinctKeys : stack.HasDistinctKeys)
    (reading : run total stack lines = .ok content) : (Value.object content).HasDistinctKeys := by
  induction lines generalizing stack with
  | nil =>
      change finish total stack = .ok content at reading
      rw [finish] at reading
      split at reading
      · cases reading
        exact distinctKeys.root
      · cases reading
  | cons line rest induction =>
      rw [run_cons] at reading
      cases stepped : stack.step line with
      | error error =>
          rw [stepped] at reading
          cases reading
      | ok next =>
          rw [stepped] at reading
          exact induction (distinctKeys.step stepped) reading

end BlockStack

/-- No object in the content of a text repeats a key, however often the text does. -/
theorem hasDistinctKeys_of_read {text : String} {content : Members}
    (reading : read text = .ok content) : (Value.object content).HasDistinctKeys := by
  rw [read_eq_read_blockStack] at reading
  exact BlockStack.hasDistinctKeys_empty.run reading

end BroadcastScenes.SceneText
