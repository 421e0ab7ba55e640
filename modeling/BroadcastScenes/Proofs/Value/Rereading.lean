import BroadcastScenes.Proofs.Value.FiniteParts

/-!
# Values read again

What comes back of a finite double that is written as JSON is a double, and nearly always the same
one. This module says what becomes of a value when each of its doubles is read again, and when that
is the value itself.
-/

namespace BroadcastScenes.Value

mutual

def reread : Value → Value
  | .double number => .double (Json.readAgain number)
  | .object members => .object (rereadMembers members)
  | .array elements => .array (rereadElements elements)
  | scalar => scalar

def rereadElements : List Value → List Value
  | [] => []
  | first :: rest => reread first :: rereadElements rest

def rereadMembers : List (String × Value) → List (String × Value)
  | [] => []
  | (key, first) :: rest => (key, reread first) :: rereadMembers rest

end

mutual

def doubles : Value → List Float
  | .double number => [number]
  | .object members => doublesOfMembers members
  | .array elements => doublesOfElements elements
  | _ => []

def doublesOfElements : List Value → List Float
  | [] => []
  | first :: rest => doubles first ++ doublesOfElements rest

def doublesOfMembers : List (String × Value) → List Float
  | [] => []
  | (_, first) :: rest => doubles first ++ doublesOfMembers rest

end

theorem rereadElements_eq_map (elements : List Value) :
    rereadElements elements = elements.map reread := by
  induction elements with
  | nil => rfl
  | cons first rest induction => rw [rereadElements, induction, List.map_cons]

theorem rereadMembers_eq_map (members : Members) :
    rereadMembers members = members.map fun member => (member.1, reread member.2) := by
  induction members with
  | nil => rfl
  | cons first rest induction => rw [rereadMembers, induction, List.map_cons]

theorem doublesOfElements_eq_flatMap (elements : List Value) :
    doublesOfElements elements = elements.flatMap doubles := by
  induction elements with
  | nil => rfl
  | cons first rest induction => rw [doublesOfElements, induction, List.flatMap_cons]

theorem doublesOfMembers_eq_flatMap (members : Members) :
    doublesOfMembers members = members.flatMap fun member => doubles member.2 := by
  induction members with
  | nil => rfl
  | cons first rest induction => rw [doublesOfMembers, induction, List.flatMap_cons]

theorem map_eq_self_iff {α : Type} {change : α → α} {list : List α} :
    list.map change = list ↔ ∀ element ∈ list, change element = element := by
  have pointwise : list.map change = list.map id ↔ ∀ element ∈ list, change element = id element :=
    List.map_inj_left
  rwa [List.map_id] at pointwise

theorem reread_eq_self_iff {value : Value} :
    reread value = value ↔ ∀ number ∈ value.doubles, Json.readAgain number = number := by
  induction value using byParts with
  | string text => exact iff_of_true rfl (List.forall_mem_nil _)
  | integer number => exact iff_of_true rfl (List.forall_mem_nil _)
  | double number =>
      rw [reread, doubles, List.forall_mem_singleton, Value.double.injEq]
  | boolean flag => exact iff_of_true rfl (List.forall_mem_nil _)
  | object members induction =>
      rw [reread, doubles, doublesOfMembers_eq_flatMap, List.forall_mem_flatMap, Value.object.injEq,
        rereadMembers_eq_map, map_eq_self_iff]
      refine forall₂_congr fun member inMembers => ?_
      rw [← induction member inMembers]
      exact ⟨fun same => congrArg Prod.snd same, fun same => congrArg (member.1, ·) same⟩
  | array elements induction =>
      rw [reread, doubles, doublesOfElements_eq_flatMap, List.forall_mem_flatMap,
        Value.array.injEq, rereadElements_eq_map, map_eq_self_iff]
      exact forall₂_congr induction

theorem allFinite_iff {value : Value} : value.AllFinite ↔
    ∀ number ∈ value.doubles, (Decimal.Binary.ofFloat number).isFinite = true := by
  induction value using byParts with
  | string text => exact iff_of_true (.string text) (List.forall_mem_nil _)
  | integer number => exact iff_of_true (.integer number) (List.forall_mem_nil _)
  | double number => rw [doubles, List.forall_mem_singleton, allFinite_double_iff]
  | boolean flag => exact iff_of_true (.boolean flag) (List.forall_mem_nil _)
  | object members induction =>
      rw [doubles, doublesOfMembers_eq_flatMap, List.forall_mem_flatMap, allFinite_object_iff]
      exact forall₂_congr induction
  | array elements induction =>
      rw [doubles, doublesOfElements_eq_flatMap, List.forall_mem_flatMap, allFinite_array_iff]
      exact forall₂_congr induction

theorem doubles_finitePart? (value : Value) : (finitePart? value).toList.flatMap doubles =
    value.doubles.filter fun number => (Decimal.Binary.ofFloat number).isFinite := by
  induction value using byParts with
  | string text => rfl
  | integer number => rfl
  | double number =>
      rw [finitePart?, doubles, List.filter_cons]
      split
      · rfl
      · rfl
  | boolean flag => rfl
  | object members induction =>
      rw [finitePart?, Option.toList_some, List.flatMap_singleton, doubles, doubles,
        doublesOfMembers_eq_flatMap, doublesOfMembers_eq_flatMap, finiteMembers_eq_filterMap,
        List.filterMap_eq_flatMap_toList, List.flatMap_assoc, List.filter_flatMap]
      apply List.flatMap_congr
      intro member inMembers
      rw [← induction member inMembers, Option.toList_map, List.flatMap_map]
  | array elements induction =>
      rw [finitePart?, Option.toList_some, List.flatMap_singleton, doubles, doubles,
        doublesOfElements_eq_flatMap, doublesOfElements_eq_flatMap, finiteElements_eq_filterMap,
        List.filterMap_eq_flatMap_toList, List.flatMap_assoc, List.filter_flatMap]
      exact List.flatMap_congr induction

end BroadcastScenes.Value
