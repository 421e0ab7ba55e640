import BroadcastScenes.FieldCopy
import BroadcastScenes.Proofs.WrittenEntries
import Mathlib.Data.List.Basic
import Mathlib.Data.List.Induction

/-!
# Copied fields

Running a table writes its targets and nothing else. Where several copies have the same target, the
last of them gives the value, and the first of them gives the place if there was no such member.
-/

namespace BroadcastScenes

def Conversion.convert (conversion : Conversion) (member : Option Value) : Value :=
  match conversion with
  | .text => .string ((member.map Value.text).getD "")
  | .path => .string (Text.collapseSlashes ((member.map Value.text).getD ""))
  | .integer => .integer ((member.bind Value.integer?).getD 0)
  | .double => .double ((member.bind Value.double?).getD 0)
  | .flag => .boolean ((member.bind Value.flag?).getD false)
  | .isOne => .boolean ((member.bind Value.integer?).getD 0 == 1)
  | .color => .integer (opaqueColor ((member.bind Value.integer?).getD 0))

namespace FieldCopy

def lastTo? (target : String) (table : List FieldCopy) : Option FieldCopy :=
  (table.filter fun copy => copy.target = target).getLast?

def targets (table : List FieldCopy) : List String := (table.map FieldCopy.target).eraseDups

variable {table : List FieldCopy} {input other : Members}

theorem result_eq_convert (copy : FieldCopy) (input : Members) :
    copy.result input = copy.conversion.convert (input.find? copy.source) := by
  rcases copy with ⟨source, target, conversion⟩
  cases conversion <;> rfl

/-! ## One more copy -/

theorem run_concat (table : List FieldCopy) (copy : FieldCopy) (input out : Members) :
    run (table ++ [copy]) input out =
      (run table input out).insert copy.target (copy.result input) :=
  List.foldl_append

theorem lastTo?_concat (target : String) (table : List FieldCopy) (copy : FieldCopy) :
    lastTo? target (table ++ [copy]) =
      if copy.target = target then some copy else lastTo? target table := by
  rw [lastTo?, lastTo?, List.filter_append]
  by_cases equal : copy.target = target
  · rw [if_pos equal, List.filter_cons_of_pos (by simpa using equal), List.filter_nil,
      List.getLast?_concat]
  · rw [if_neg equal, List.filter_cons_of_neg (by simpa using equal), List.filter_nil,
      List.append_nil]

theorem mem_targets_iff (target : String) (table : List FieldCopy) :
    target ∈ targets table ↔ ∃ copy ∈ table, copy.target = target := by
  rw [targets, List.mem_eraseDups, List.mem_map]

theorem targets_concat (table : List FieldCopy) (copy : FieldCopy) :
    targets (table ++ [copy]) =
      if copy.target ∈ targets table then targets table else targets table ++ [copy.target] := by
  have added : targets (table ++ [copy]) =
      targets table ++ ([copy.target].removeAll (table.map FieldCopy.target)).eraseDups := by
    rw [targets, List.map_append, List.eraseDups_append, ← targets, List.map_singleton]
  have presentIff : (table.map FieldCopy.target).elem copy.target = true ↔
      copy.target ∈ targets table := by
    rw [List.elem_iff, targets, List.mem_eraseDups]
  rw [added, List.removeAll]
  by_cases present : copy.target ∈ targets table
  · rw [if_pos present, List.filter_cons_of_neg (by rw [presentIff.mpr present]; decide),
      List.filter_nil, List.eraseDups_nil, List.append_nil]
  · have absent : (table.map FieldCopy.target).elem copy.target = false :=
      Bool.eq_false_iff.mpr fun elem => present (presentIff.mp elem)
    rw [if_neg present, List.filter_cons_of_pos (by rw [absent]; rfl), List.filter_nil]
    rfl

/-! ## The whole table -/

theorem find?_run (key : String) (table : List FieldCopy) (input out : Members) :
    (run table input out).find? key =
      ((lastTo? key table).map (·.result input)).or (out.find? key) := by
  induction table using List.reverseRecOn with
  | nil => rfl
  | append_singleton table copy induction =>
      rw [run_concat, Entries.find?_insert, lastTo?_concat, induction]
      split <;> rfl

theorem keys_run (table : List FieldCopy) (input out : Members) :
    Entries.keys (run table input out) =
      Entries.keys out ++ (targets table).filter fun target => target ∉ Entries.keys out := by
  induction table using List.reverseRecOn with
  | nil => exact (List.append_nil _).symm
  | append_singleton table copy induction =>
      have presentIff : copy.target ∈ Entries.keys (run table input out) ↔
          copy.target ∈ Entries.keys out ∨ copy.target ∈ targets table := by
        rw [induction, List.mem_append, List.mem_filter, decide_eq_true_iff]
        tauto
      rw [run_concat, Entries.keys_insert, targets_concat]
      by_cases isTarget : copy.target ∈ targets table
      · rw [if_pos (presentIff.mpr (.inr isTarget)), if_pos isTarget, induction]
      · rw [if_neg isTarget, List.filter_append]
        by_cases isKey : copy.target ∈ Entries.keys out
        · rw [if_pos (presentIff.mpr (.inl isKey)), induction,
            List.filter_cons_of_neg (by simpa using isKey), List.filter_nil, List.append_nil]
        · rw [if_neg fun present => (presentIff.mp present).elim isKey isTarget, induction,
            List.filter_cons_of_pos (by simpa using isKey), List.filter_nil, List.append_assoc]

theorem run_congr (agree : ∀ copy ∈ table, other.find? copy.source = input.find? copy.source)
    (out : Members) : run table other out = run table input out := by
  apply List.foldl_ext
  intro sofar copy member
  rw [result_eq_convert, result_eq_convert, agree copy member]

theorem lastTo?_isSome_iff (target : String) (table : List FieldCopy) :
    (lastTo? target table).isSome = true ↔ target ∈ targets table := by
  rw [lastTo?, List.getLast?_isSome, mem_targets_iff]
  simp

/-- After a table has been run, each of its targets holds the conversion of the member that the last
copy to it reads, all other members have their old values, and the keys are the old ones in their
order, followed by those targets that are new, in the order in which they first appear. What is not
read makes no difference. -/
theorem copies_touch_their_targets (table : List FieldCopy) (input out : Members) :
    (∀ target ∈ targets table, ∃ copy, lastTo? target table = some copy ∧
      (run table input out).find? target =
        some (copy.conversion.convert (input.find? copy.source))) ∧
      (∀ key, key ∉ targets table → (run table input out).find? key = out.find? key) ∧
      Entries.keys (run table input out) =
        Entries.keys out ++ (targets table).filter (fun target => target ∉ Entries.keys out) ∧
      ∀ other : Members,
        (∀ copy ∈ table, other.find? copy.source = input.find? copy.source) →
          run table other out = run table input out := by
  refine ⟨?_, ?_, keys_run table input out, fun other agree => run_congr agree out⟩
  · intro target isTarget
    rcases Option.isSome_iff_exists.mp ((lastTo?_isSome_iff target table).mpr isTarget) with
      ⟨copy, last⟩
    refine ⟨copy, last, ?_⟩
    rw [find?_run, last, Option.map_some, Option.some_or, result_eq_convert]
  · intro key notTarget
    have none : lastTo? key table = none := by
      rwa [← lastTo?_isSome_iff, Option.not_isSome_iff_eq_none] at notTarget
    rw [find?_run, none, Option.map_none, Option.none_or]

theorem copies_touch_their_targets_twice :
    let table : List FieldCopy :=
      [⟨"a", "x", .integer⟩, ⟨"b", "y", .integer⟩, ⟨"c", "x", .path⟩, ⟨"b", "w", .isOne⟩]
    let input : Members := [("a", .integer 1), ("b", .string "1px"), ("c", .string "C:\\\\img")]
    let other : Members :=
      [("c", .string "C:\\\\img"), ("d", .boolean true), ("a", .integer 1), ("b", .string "1px")]
    let out : Members := [("y", .boolean true), ("z", .integer 5)]
    (∀ copy ∈ table, other.find? copy.source = input.find? copy.source) ∧
      run table input out =
        [("y", .integer 1), ("z", .integer 5), ("x", .string "C:/img"), ("w", .boolean true)] ∧
      run table other out = run table input out := by
  intro table input other out
  have agree : ∀ copy ∈ table, other.find? copy.source = input.find? copy.source := by
    simp [table, input, other, Entries.find?]
  have number : Value.integer? (.string "1px") = some 1 := by decide
  have path : Text.collapseSlashes (Value.text (.string "C:\\\\img")) = "C:/img" := by decide
  have written : run table input out =
      [("y", .integer 1), ("z", .integer 5), ("x", .string "C:/img"), ("w", .boolean true)] := by
    simp [table, input, out, run, result, Members.textAt, Members.integerAt, Members.isOneAt,
      Entries.find?, Entries.insert, number, path]
  exact ⟨agree, written, (copies_touch_their_targets table input out).2.2.2 other agree⟩

end FieldCopy

end BroadcastScenes
