import BroadcastScenes.Proofs.Value.Rereading

/-!
# Documents as JSON texts

The JSON text of a value is read as the finite part of the value with its doubles read again, unless
the value nests too deeply. What any JSON text is read as nests no deeper than that, has only finite
doubles, and repeats no keys.
-/

namespace BroadcastScenes.Value

/-! ## Writing -/

theorem toJsonElements_eq_map (elements : List Value) :
    toJsonElements elements = elements.map toJson := by
  induction elements with
  | nil => rfl
  | cons first rest induction => rw [toJsonElements, induction, List.map_cons]

theorem toJsonMembers_eq_mapValues (members : Members) :
    toJsonMembers members = Entries.mapValues toJson members := by
  induction members with
  | nil => rfl
  | cons first rest induction =>
      rw [toJsonMembers, induction]
      rfl

theorem keys_toJsonMembers (members : Members) :
    Entries.keys (toJsonMembers members) = Entries.keys members := by
  rw [toJsonMembers_eq_mapValues, Entries.keys_mapValues]

theorem HasDistinctKeys.isWritable_toJson {value : Value} (distinctKeys : value.HasDistinctKeys) :
    value.toJson.IsWritable := by
  induction distinctKeys with
  | string text => exact .string text
  | integer number => exact .integer number
  | double number =>
      rw [toJson]
      split
      · rename_i isFinite
        exact .double isFinite
      · exact .null
  | boolean flag => exact .boolean flag
  | object distinct inner induction =>
      apply Json.IsWritable.object
      · rw [keys_toJsonMembers]
        exact distinct
      · intro member inMembers
        rw [toJsonMembers_eq_mapValues] at inMembers
        rcases List.mem_map.mp inMembers with ⟨entry, inEntries, rfl⟩
        exact induction entry inEntries
  | array inner induction =>
      apply Json.IsWritable.array
      intro element inElements
      rw [toJsonElements_eq_map] at inElements
      rcases List.mem_map.mp inElements with ⟨part, inParts, rfl⟩
      exact induction part inParts

theorem depth_toJson (value : Value) : value.toJson.depth = value.depth := by
  induction value using byParts with
  | string text => rfl
  | integer number => rfl
  | double number =>
      rw [toJson]
      split
      · rfl
      · rfl
  | boolean flag => rfl
  | object members induction =>
      have same : Json.depthOfMembers (toJsonMembers members) = depthOfMembers members := by
        induction members with
        | nil => rfl
        | cons first rest inRest =>
            rw [toJsonMembers, Json.depthOfMembers, depthOfMembers,
              induction first List.mem_cons_self,
              inRest fun member inMembers => induction member (List.mem_cons_of_mem _ inMembers)]
      rw [toJson, Json.depth, depth, same]
  | array elements induction =>
      have same : Json.depthOfElements (toJsonElements elements) = depthOfElements elements := by
        induction elements with
        | nil => rfl
        | cons first rest inRest =>
            rw [toJsonElements, Json.depthOfElements, depthOfElements,
              induction first List.mem_cons_self,
              inRest fun element member => induction element (List.mem_cons_of_mem _ member)]
      rw [toJson, Json.depth, depth, same]

/-! ## Reading -/

theorem ofJsonElements_cons (first : Json) (rest : List Json) :
    ofJsonElements (first :: rest) = (ofJson? first).toList ++ ofJsonElements rest := by
  rw [ofJsonElements]
  cases ofJson? first with
  | none => rfl
  | some value => rfl

theorem ofJsonMembers_cons (key : String) (first : Json) (rest : List (String × Json)) :
    ofJsonMembers ((key, first) :: rest) =
      (ofJson? first).toList.map (key, ·) ++ ofJsonMembers rest := by
  rw [ofJsonMembers]
  cases ofJson? first with
  | none => rfl
  | some value => rfl

/-- What is left of a value on its way through JSON is its finite part. -/
theorem ofJson?_toJson (value : Value) : ofJson? value.toJson = finitePart? value := by
  induction value using byParts with
  | string text => rfl
  | integer number => rfl
  | double number =>
      rw [toJson, finitePart?]
      split
      · rfl
      · rfl
  | boolean flag => rfl
  | object members induction =>
      have same : ofJsonMembers (toJsonMembers members) = finiteMembers members := by
        induction members with
        | nil => rfl
        | cons first rest inRest =>
            rw [toJsonMembers, ofJsonMembers_cons, finiteMembers,
              induction first List.mem_cons_self,
              inRest fun member inMembers => induction member (List.mem_cons_of_mem _ inMembers)]
      rw [toJson, ofJson?, finitePart?, same]
  | array elements induction =>
      have same : ofJsonElements (toJsonElements elements) = finiteElements elements := by
        induction elements with
        | nil => rfl
        | cons first rest inRest =>
            rw [toJsonElements, ofJsonElements_cons, finiteElements,
              induction first List.mem_cons_self,
              inRest fun element member => induction element (List.mem_cons_of_mem _ member)]
      rw [toJson, ofJson?, finitePart?, same]

/-- A value that is written as JSON and read again has lost its doubles that are not finite, at
every depth, and nothing else: in each object and array what is left keeps its key and its order.
There is nothing left exactly of such a double, and the whole value is left exactly if there is none
in it. -/
theorem json_keeps_the_finite_part (value : Value) :
    ofJson? value.toJson = finitePart? value ∧
      (ofJson? value.toJson = none ↔
        ∃ number, value = .double number ∧ (Decimal.Binary.ofFloat number).isFinite = false) ∧
      (∀ members, value = .object members → ofJson? value.toJson =
        some (.object (members.filterMap fun member =>
          (ofJson? member.2.toJson).map (member.1, ·)))) ∧
      (∀ elements, value = .array elements → ofJson? value.toJson =
        some (.array (elements.filterMap fun element => ofJson? element.toJson))) ∧
      (ofJson? value.toJson = some value ↔ value.AllFinite) := by
  refine ⟨ofJson?_toJson value, ?_, ?_, ?_, ?_⟩
  · rw [ofJson?_toJson]
    exact finitePart?_eq_none_iff
  · rintro members rfl
    simp only [ofJson?_toJson]
    rw [finitePart?, finiteMembers_eq_filterMap]
  · rintro elements rfl
    simp only [ofJson?_toJson]
    rw [finitePart?, finiteElements_eq_filterMap]
  · rw [ofJson?_toJson]
    exact finitePart?_eq_self_iff

def mixedNumbers : Value :=
  .array [.double (1 / 0), .object [("a", .double 2), ("b", .double (0 / 0)), ("c", .integer 2)],
    .array [.double (-1 / 0)], .string "end"]

theorem json_keeps_the_finite_part_mixed_numbers :
    ofJson? mixedNumbers.toJson = some (.array [.object [("a", .double 2), ("c", .integer 2)],
      .array [], .string "end"]) ∧ ¬ mixedNumbers.AllFinite := by
  have infinite : (Decimal.Binary.ofFloat (1 / 0)).isFinite = false := by decide +kernel
  have negative : (Decimal.Binary.ofFloat (-1 / 0)).isFinite = false := by decide +kernel
  have undefined : (Decimal.Binary.ofFloat (0 / 0)).isFinite = false := by decide +kernel
  have finite : (Decimal.Binary.ofFloat 2).isFinite = true := by decide +kernel
  rcases json_keeps_the_finite_part mixedNumbers with ⟨part, _, _, _, whole⟩
  have left : finitePart? mixedNumbers = some (.array [.object [("a", .double 2),
      ("c", .integer 2)], .array [], .string "end"]) := by
    simp [mixedNumbers, finitePart?, finiteElements, finiteMembers, infinite, negative, undefined,
      finite]
  refine ⟨part.trans left, ?_⟩
  rw [← whole, part, left]
  simp [mixedNumbers]

/-- Where the doubles are read again on the way, so are those of the finite part. -/
theorem ofJson?_reread (value : Value) :
    ofJson? value.toJson.reread = (finitePart? value).map reread := by
  induction value using byParts with
  | string text => rfl
  | integer number => rfl
  | double number =>
      rw [toJson, finitePart?]
      split
      · rfl
      · rfl
  | boolean flag => rfl
  | object members induction =>
      have same : ofJsonMembers (Json.rereadMembers (toJsonMembers members)) =
          rereadMembers (finiteMembers members) := by
        induction members with
        | nil => rfl
        | cons first rest inRest =>
            rw [toJsonMembers, Json.rereadMembers, ofJsonMembers_cons, finiteMembers,
              induction first List.mem_cons_self,
              inRest fun member inMembers => induction member (List.mem_cons_of_mem _ inMembers),
              rereadMembers_eq_map, rereadMembers_eq_map, List.map_append]
            cases finitePart? first.2 with
            | none => rfl
            | some part => rfl
      rw [toJson, Json.reread, ofJson?, finitePart?, same]
      rfl
  | array elements induction =>
      have same : ofJsonElements (Json.rereadElements (toJsonElements elements)) =
          rereadElements (finiteElements elements) := by
        induction elements with
        | nil => rfl
        | cons first rest inRest =>
            rw [toJsonElements, Json.rereadElements, ofJsonElements_cons, finiteElements,
              induction first List.mem_cons_self,
              inRest fun element member => induction element (List.mem_cons_of_mem _ member),
              rereadElements_eq_map, rereadElements_eq_map, List.map_append]
            cases finitePart? first with
            | none => rfl
            | some part => rfl
      rw [toJson, Json.reread, ofJson?, finitePart?, same]
      rfl

/-- The text of a value without repeated keys is read as its finite part with the doubles read
again, if it is read at all. -/
theorem parse?_json {value : Value} (distinctKeys : value.HasDistinctKeys) :
    parse? value.json =
      if value.depth ≤ Json.maxDepth then
        some (((finitePart? value).map reread).getD (.object []))
      else none := by
  rw [parse?, json, Json.read?_compact distinctKeys.isWritable_toJson, depth_toJson]
  split
  · rw [Option.map_some, ofJson, ofJson?_reread]
  · rfl

/-! ## What texts are read as -/

theorem exists_of_mem_ofJsonElements {elements : List Json} {value : Value}
    (member : value ∈ ofJsonElements elements) :
    ∃ element ∈ elements, ofJson? element = some value := by
  induction elements with
  | nil => cases member
  | cons first rest induction =>
      rw [ofJsonElements_cons, List.mem_append] at member
      rcases member with here | inRest
      · exact ⟨first, List.mem_cons_self, Option.mem_toList.mp here⟩
      · rcases induction inRest with ⟨element, inElements, found⟩
        exact ⟨element, List.mem_cons_of_mem _ inElements, found⟩

theorem exists_of_mem_ofJsonMembers {members : List (String × Json)} {member : String × Value}
    (inMembers : member ∈ ofJsonMembers members) :
    ∃ entry ∈ members, ofJson? entry.2 = some member.2 := by
  induction members with
  | nil => cases inMembers
  | cons first rest induction =>
      rw [ofJsonMembers_cons, List.mem_append] at inMembers
      rcases inMembers with here | inRest
      · rcases List.mem_map.mp here with ⟨value, found, rfl⟩
        exact ⟨first, List.mem_cons_self, Option.mem_toList.mp found⟩
      · rcases induction inRest with ⟨entry, inEntries, found⟩
        exact ⟨entry, List.mem_cons_of_mem _ inEntries, found⟩

theorem keys_ofJsonMembers_sublist (members : List (String × Json)) :
    (Entries.keys (ofJsonMembers members)).Sublist (Entries.keys members) := by
  induction members with
  | nil => exact List.Sublist.slnil
  | cons first rest induction =>
      rw [ofJsonMembers_cons]
      cases ofJson? first.2 with
      | none => exact induction.cons _
      | some value => exact induction.cons_cons _

theorem fits_of_ofJson? {json : Json} (isWritable : json.IsWritable) {room : Nat}
    (shallow : json.depth ≤ room) {value : Value} (found : ofJson? json = some value) :
    value.Fits room ∧ value.AllFinite := by
  induction isWritable generalizing room value with
  | null => cases found
  | boolean flag =>
      obtain rfl := Option.some.inj found
      exact ⟨fits_boolean room flag, .boolean flag⟩
  | integer number =>
      obtain rfl := Option.some.inj found
      exact ⟨fits_integer room number, .integer number⟩
  | double isFinite =>
      obtain rfl := Option.some.inj found
      exact ⟨fits_double room _, .double isFinite⟩
  | string text =>
      obtain rfl := Option.some.inj found
      exact ⟨fits_string room text, .string text⟩
  | array inner induction =>
      rename_i elements
      obtain rfl := Option.some.inj found
      obtain ⟨less, rfl⟩ := Nat.exists_eq_succ_of_ne_zero (Nat.ne_zero_of_lt shallow)
      have partsShallow := Json.depthOfElements_le_iff.mp (Nat.le_of_succ_le_succ shallow)
      have parts : ∀ part ∈ ofJsonElements elements, Fits less part ∧ AllFinite part := by
        intro part member
        rcases exists_of_mem_ofJsonElements member with ⟨element, inElements, partFound⟩
        exact induction element inElements (partsShallow element inElements) partFound
      exact ⟨fits_array_iff.mpr fun part member => (parts part member).1,
        .array fun part member => (parts part member).2⟩
  | object distinct inner induction =>
      rename_i members
      obtain rfl := Option.some.inj found
      obtain ⟨less, rfl⟩ := Nat.exists_eq_succ_of_ne_zero (Nat.ne_zero_of_lt shallow)
      have partsShallow := Json.depthOfMembers_le_iff.mp (Nat.le_of_succ_le_succ shallow)
      have parts : ∀ part ∈ ofJsonMembers members, Fits less part.2 ∧ AllFinite part.2 := by
        intro part member
        rcases exists_of_mem_ofJsonMembers member with ⟨entry, inMembers, partFound⟩
        exact induction entry inMembers (partsShallow entry inMembers) partFound
      refine ⟨fits_object_iff.mpr ⟨?_, fun part member => (parts part member).1⟩,
        .object fun part member => (parts part member).2⟩
      exact (keys_ofJsonMembers_sublist _).nodup distinct

theorem fits_of_parse? {text : String} {value : Value} (parsed : parse? text = some value) :
    value.Fits Json.maxDepth ∧ value.AllFinite := by
  rcases Option.map_eq_some_iff.mp parsed with ⟨json, read, rfl⟩
  rcases Json.isWritable_of_read? read with ⟨isWritable, shallow⟩
  rw [ofJson]
  cases found : ofJson? json with
  | some value => exact fits_of_ofJson? isWritable shallow found
  | none =>
      exact ⟨fits_object_iff.mpr .nil, .object (List.forall_mem_nil _)⟩

end BroadcastScenes.Value
