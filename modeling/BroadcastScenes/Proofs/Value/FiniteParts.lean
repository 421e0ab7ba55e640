import BroadcastScenes.Proofs.Json.RoundTrip
import BroadcastScenes.Proofs.Value.Nesting
import BroadcastScenes.Value.Fields
import BroadcastScenes.Value.Json

/-!
# Finite parts

A document has no null, and JSON has no double that is not finite. Such a double is written as null
and is gone when the text is read: what comes back of a value is its finite part. It is the whole
value exactly when all doubles in it are finite. A value that is read from a JSON text always is
its own finite part.
-/

namespace BroadcastScenes.Value

mutual

def finitePart? : Value → Option Value
  | .double number =>
      if (Decimal.Binary.ofFloat number).isFinite then some (.double number) else none
  | .object members => some (.object (finiteMembers members))
  | .array elements => some (.array (finiteElements elements))
  | scalar => some scalar

def finiteElements : List Value → List Value
  | [] => []
  | first :: rest => (finitePart? first).toList ++ finiteElements rest

def finiteMembers : List (String × Value) → List (String × Value)
  | [] => []
  | (key, first) :: rest => (finitePart? first).toList.map (key, ·) ++ finiteMembers rest

end

inductive AllFinite : Value → Prop
  | string (text : String) : AllFinite (.string text)
  | integer (number : Int64) : AllFinite (.integer number)
  | double {number : Float} (isFinite : (Decimal.Binary.ofFloat number).isFinite = true) :
      AllFinite (.double number)
  | boolean (flag : Bool) : AllFinite (.boolean flag)
  | object {members : Members} (inner : ∀ member ∈ members, AllFinite member.2) :
      AllFinite (.object members)
  | array {elements : List Value} (inner : ∀ element ∈ elements, AllFinite element) :
      AllFinite (.array elements)

namespace AllFinite

theorem members {value : Value} (allFinite : value.AllFinite) :
    (Value.object value.members).AllFinite := by
  cases allFinite with
  | object inner => exact .object inner
  | _ => exact .object (List.forall_mem_nil _)

theorem insert {members : Members} (whole : (Value.object members).AllFinite) (key : String)
    {value : Value} (written : value.AllFinite) :
    (Value.object (Entries.insert key value members)).AllFinite := by
  cases whole with
  | object inner =>
      apply AllFinite.object
      intro member inserted
      rcases Entries.mem_of_mem_insert inserted with rfl | inMembers
      · exact written
      · exact inner member inMembers

theorem find? {members : Members} (whole : (Value.object members).AllFinite) {key : String}
    {value : Value} (found : Entries.find? key members = some value) : value.AllFinite := by
  cases whole with
  | object inner => exact inner _ (Entries.mem_of_find?_eq_some found)

theorem membersAt {members : Members} (whole : (Value.object members).AllFinite) (key : String) :
    (Value.object (members.membersAt key)).AllFinite := by
  rw [Members.membersAt, Members.objectAt?]
  split
  · rename_i inner found
    exact whole.find? found
  · exact .object (List.forall_mem_nil _)

theorem elementsAt {members : Members} (whole : (Value.object members).AllFinite) (key : String) :
    ∀ element ∈ members.elementsAt key, element.AllFinite := by
  rw [Members.elementsAt]
  cases found : Entries.find? key members with
  | none => exact List.forall_mem_nil _
  | some value =>
      cases whole.find? found with
      | array inner => exact inner
      | _ => exact List.forall_mem_nil _

end AllFinite

theorem allFinite_double_iff {number : Float} : (Value.double number).AllFinite ↔
    (Decimal.Binary.ofFloat number).isFinite = true := by
  constructor
  · rintro ⟨⟩
    assumption
  · exact .double

theorem allFinite_object_iff {members : Members} :
    (Value.object members).AllFinite ↔ ∀ member ∈ members, member.2.AllFinite := by
  constructor
  · rintro ⟨⟩
    assumption
  · exact .object

theorem allFinite_array_iff {elements : List Value} :
    (Value.array elements).AllFinite ↔ ∀ element ∈ elements, element.AllFinite := by
  constructor
  · rintro ⟨⟩
    assumption
  · exact .array

/-! ## The whole value -/

theorem finiteElements_eq_filterMap (elements : List Value) :
    finiteElements elements = elements.filterMap finitePart? := by
  induction elements with
  | nil => rfl
  | cons first rest induction =>
      rw [finiteElements, induction, List.filterMap_cons]
      cases finitePart? first with
      | none => rfl
      | some part => rfl

theorem finiteMembers_eq_filterMap (members : Members) :
    finiteMembers members =
      members.filterMap fun member => (finitePart? member.2).map (member.1, ·) := by
  induction members with
  | nil => rfl
  | cons first rest induction =>
      rw [finiteMembers, induction, List.filterMap_cons]
      cases finitePart? first.2 with
      | none => rfl
      | some part => rfl

theorem filterMap_eq_self_iff {α : Type} {change : α → Option α} {list : List α} :
    list.filterMap change = list ↔ ∀ element ∈ list, change element = some element := by
  have pointwise : list.filterMap change = list.map id ↔
      ∀ element ∈ list, change element = some (id element) :=
    List.filterMap_eq_map_iff_forall_eq_some
  rwa [List.map_id] at pointwise

/-- Nothing is lost of a value exactly when all its doubles are finite. -/
theorem finitePart?_eq_self_iff {value : Value} :
    finitePart? value = some value ↔ value.AllFinite := by
  induction value using byParts with
  | string text => exact iff_of_true rfl (.string text)
  | integer number => exact iff_of_true rfl (.integer number)
  | double number =>
      rw [finitePart?, allFinite_double_iff]
      split
      · exact iff_of_true rfl ‹_›
      · exact iff_of_false (Option.some_ne_none _).symm ‹_›
  | boolean flag => exact iff_of_true rfl (.boolean flag)
  | object members induction =>
      rw [finitePart?, Option.some.injEq, Value.object.injEq, finiteMembers_eq_filterMap,
        filterMap_eq_self_iff, allFinite_object_iff]
      refine forall₂_congr fun member inMembers => ?_
      rw [← induction member inMembers, Option.map_eq_some_iff]
      constructor
      · rintro ⟨part, found, same⟩
        rw [found, ← same]
      · intro found
        exact ⟨member.2, found, rfl⟩
  | array elements induction =>
      rw [finitePart?, Option.some.injEq, Value.array.injEq, finiteElements_eq_filterMap,
        filterMap_eq_self_iff, allFinite_array_iff]
      exact forall₂_congr induction

/-! ## What is left -/

theorem finitePart?_eq_none_iff {value : Value} :
    finitePart? value = none ↔
      ∃ number, value = .double number ∧ (Decimal.Binary.ofFloat number).isFinite = false := by
  cases value with
  | double number =>
      rw [finitePart?]
      cases isFinite : (Decimal.Binary.ofFloat number).isFinite with
      | true => simp [isFinite]
      | false => simp [isFinite]
  | _ => simp [finitePart?]

end BroadcastScenes.Value
