import BroadcastScenes.Proofs.DistinctKeys
import BroadcastScenes.Value.Basic

/-!
# Nested values

What holds of a container when it holds of its parts holds of every value. Two such things matter
for documents: that no object in them repeats a key, and how deeply they nest.
-/

namespace BroadcastScenes.Value

@[elab_as_elim]
theorem byParts {property : Value → Prop} (string : ∀ text, property (.string text))
    (integer : ∀ number, property (.integer number))
    (double : ∀ number, property (.double number)) (boolean : ∀ flag, property (.boolean flag))
    (object : ∀ members : Members, (∀ member ∈ members, property member.2) →
      property (.object members))
    (array : ∀ elements : List Value, (∀ element ∈ elements, property element) →
      property (.array elements)) (value : Value) : property value := by
  match value with
  | .string text => exact string text
  | .integer number => exact integer number
  | .double number => exact double number
  | .boolean flag => exact boolean flag
  | .object members =>
      apply object
      intro member inMembers
      exact byParts string integer double boolean object array member.2
  | .array elements =>
      apply array
      intro element inElements
      exact byParts string integer double boolean object array element
termination_by sizeOf value
decreasing_by
  · have inside := List.sizeOf_lt_of_mem inMembers
    have part : sizeOf member.2 < sizeOf member := by
      rcases member with ⟨key, inner⟩
      change sizeOf inner < sizeOf (key, inner)
      rw [Prod.mk.sizeOf_spec]
      omega
    simp only [Value.object.sizeOf_spec]
    omega
  · have inside := List.sizeOf_lt_of_mem inElements
    simp only [Value.array.sizeOf_spec]
    omega

mutual

def depth : Value → Nat
  | .object members => depthOfMembers members + 1
  | .array elements => depthOfElements elements + 1
  | _ => 0

def depthOfElements : List Value → Nat
  | [] => 0
  | first :: rest => max first.depth (depthOfElements rest)

def depthOfMembers : List (String × Value) → Nat
  | [] => 0
  | (_, first) :: rest => max first.depth (depthOfMembers rest)

end

theorem depthOfElements_le_iff {elements : List Value} {room : Nat} :
    depthOfElements elements ≤ room ↔ ∀ element ∈ elements, element.depth ≤ room := by
  induction elements with
  | nil => simp [depthOfElements]
  | cons first rest induction =>
      rw [depthOfElements, Nat.max_le, induction, List.forall_mem_cons]

theorem depthOfMembers_le_iff {members : Members} {room : Nat} :
    depthOfMembers members ≤ room ↔ ∀ member ∈ members, member.2.depth ≤ room := by
  induction members with
  | nil => simp [depthOfMembers]
  | cons first rest induction =>
      rw [depthOfMembers, Nat.max_le, induction, List.forall_mem_cons]

inductive HasDistinctKeys : Value → Prop
  | string (text : String) : HasDistinctKeys (.string text)
  | integer (number : Int64) : HasDistinctKeys (.integer number)
  | double (number : Float) : HasDistinctKeys (.double number)
  | boolean (flag : Bool) : HasDistinctKeys (.boolean flag)
  | object {members : Members} (distinct : (Entries.keys members).Nodup)
      (inner : ∀ member ∈ members, HasDistinctKeys member.2) : HasDistinctKeys (.object members)
  | array {elements : List Value} (inner : ∀ element ∈ elements, HasDistinctKeys element) :
      HasDistinctKeys (.array elements)

namespace HasDistinctKeys

theorem members {value : Value} (distinctKeys : value.HasDistinctKeys) :
    (Value.object value.members).HasDistinctKeys := by
  cases distinctKeys with
  | object distinct inner => exact .object distinct inner
  | _ => exact .object List.nodup_nil (List.forall_mem_nil _)

theorem nodup_keys {members : Members} (whole : (Value.object members).HasDistinctKeys) :
    (Entries.keys members).Nodup := by
  cases whole with
  | object distinct inner => exact distinct

theorem insert {members : Members} (whole : (Value.object members).HasDistinctKeys) (key : String)
    {value : Value} (written : value.HasDistinctKeys) :
    (Value.object (Entries.insert key value members)).HasDistinctKeys := by
  cases whole with
  | object distinct inner =>
      apply HasDistinctKeys.object (Entries.nodup_keys_insert distinct key value)
      intro member inserted
      rcases Entries.mem_of_mem_insert inserted with rfl | inMembers
      · exact written
      · exact inner member inMembers

theorem find? {members : Members} (whole : (Value.object members).HasDistinctKeys) {key : String}
    {value : Value} (found : Entries.find? key members = some value) : value.HasDistinctKeys := by
  cases whole with
  | object distinct inner => exact inner _ (Entries.mem_of_find?_eq_some found)

theorem push {elements : List Value} (whole : (Value.array elements).HasDistinctKeys)
    {value : Value} (last : value.HasDistinctKeys) :
    (Value.array (elements ++ [value])).HasDistinctKeys := by
  cases whole with
  | array inner =>
      exact .array (List.forall_mem_append.mpr ⟨inner, List.forall_mem_singleton.mpr last⟩)

end HasDistinctKeys

/-- The value repeats no keys and nests at most as deeply as there is room for. -/
structure Fits (room : Nat) (value : Value) : Prop where
  distinctKeys : value.HasDistinctKeys
  depth_le : value.depth ≤ room

theorem Fits.mono {room more : Nat} {value : Value} (fits : value.Fits room) (less : room ≤ more) :
    value.Fits more :=
  ⟨fits.distinctKeys, Nat.le_trans fits.depth_le less⟩

section

variable (room : Nat)

@[simp] theorem fits_string (text : String) : (string text).Fits room :=
  ⟨.string text, Nat.zero_le _⟩

@[simp] theorem fits_integer (number : Int64) : (integer number).Fits room :=
  ⟨.integer number, Nat.zero_le _⟩

@[simp] theorem fits_double (number : Float) : (double number).Fits room :=
  ⟨.double number, Nat.zero_le _⟩

@[simp] theorem fits_boolean (flag : Bool) : (boolean flag).Fits room :=
  ⟨.boolean flag, Nat.zero_le _⟩

variable {room}

structure MembersFit (room : Nat) (members : Members) : Prop where
  distinct : (Entries.keys members).Nodup
  inner : ∀ member ∈ members, member.2.Fits room

theorem fits_object_iff {members : Members} :
    (object members).Fits (room + 1) ↔ MembersFit room members := by
  constructor
  · intro fits
    have shallow := fits.depth_le
    rw [depth, Nat.add_le_add_iff_right, depthOfMembers_le_iff] at shallow
    cases fits.distinctKeys with
    | object distinct inner =>
        exact ⟨distinct, fun member inMembers =>
          ⟨inner member inMembers, shallow member inMembers⟩⟩
  · intro fits
    refine ⟨.object fits.distinct fun member inMembers =>
      (fits.inner member inMembers).distinctKeys, ?_⟩
    rw [depth, Nat.add_le_add_iff_right, depthOfMembers_le_iff]
    exact fun member inMembers => (fits.inner member inMembers).depth_le

theorem fits_array_iff {elements : List Value} :
    (array elements).Fits (room + 1) ↔ ∀ element ∈ elements, element.Fits room := by
  constructor
  · intro fits
    have shallow := fits.depth_le
    rw [depth, Nat.add_le_add_iff_right, depthOfElements_le_iff] at shallow
    cases fits.distinctKeys with
    | array inner =>
        exact fun element inElements => ⟨inner element inElements, shallow element inElements⟩
  · intro fits
    refine ⟨.array fun element inElements => (fits element inElements).distinctKeys, ?_⟩
    rw [depth, Nat.add_le_add_iff_right, depthOfElements_le_iff]
    exact fun element inElements => (fits element inElements).depth_le

namespace MembersFit

theorem nil : MembersFit room [] := ⟨List.nodup_nil, List.forall_mem_nil _⟩

theorem insert {members : Members} (fits : MembersFit room members) (key : String) {value : Value}
    (valueFits : value.Fits room) : MembersFit room (Entries.insert key value members) := by
  refine ⟨Entries.nodup_keys_insert fits.distinct key value, ?_⟩
  intro member inserted
  rcases Entries.mem_of_mem_insert inserted with rfl | inMembers
  · exact valueFits
  · exact fits.inner member inMembers

theorem single (key : String) {value : Value} (fits : value.Fits room) :
    MembersFit room [(key, value)] :=
  nil.insert key fits

theorem find? {members : Members} (fits : MembersFit room members) {key : String} {value : Value}
    (found : Entries.find? key members = some value) : value.Fits room :=
  fits.inner _ (Entries.mem_of_find?_eq_some found)

end MembersFit

end

end BroadcastScenes.Value
