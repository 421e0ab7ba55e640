import BroadcastScenes.Proofs.AddedDocuments
import BroadcastScenes.Proofs.AppendingImport
import BroadcastScenes.Proofs.SceneText.DistinctKeys
import BroadcastScenes.Proofs.Value.JsonTexts

/-!
# Imported documents as JSON texts

What an import makes of an empty collection can be written as a JSON text and read again. No object
in it repeats a key, and it nests deeply enough to be refused only if a scene text does. Its text is
read as the document without the doubles that are not finite, which a text cannot hold, and with the
others read again.
-/

namespace BroadcastScenes

open Value (MembersFit fits_object_iff)

/-! ## Replacing imports -/

theorem allFinite_adaptRecord {record : Value} (allFinite : record.AllFinite)
    (platform : Platform) : (adaptRecord platform record).AllFinite := by
  have renamed : ∀ id, (Value.object (record.members.insert "id" (.string id))).AllFinite :=
    fun id => allFinite.members.insert "id" (.string id)
  have cursor : ∀ {settings : Members}, (Value.object settings).AllFinite → ∀ id,
      (Value.object (adaptCursor id platform settings)).AllFinite := by
    intro settings whole id
    rw [adaptCursor]
    split
    · exact whole.insert _ (.boolean _)
    · exact whole
  rw [adaptRecord]
  split
  · exact allFinite
  · split
    · exact allFinite
    · unfold adaptSettings
      split
      · exact renamed _
      · exact (renamed _).insert _ (cursor ((renamed _).membersAt _) _)
      · exact (renamed _).insert _ (.object (List.forall_mem_nil _))

namespace Collection

theorem allFinite_adapt {collection : Collection} (allFinite : collection.toValue.AllFinite)
    (platform : Platform) : (collection.adapt platform).toValue.AllFinite := by
  apply allFinite.insert "sources"
  apply Value.AllFinite.array
  intro record member
  rcases List.mem_map.mp member with ⟨old, inRecords, rfl⟩
  exact allFinite_adaptRecord (allFinite.elementsAt "sources" old inRecords) platform

theorem allFinite_rename {collection : Collection} (allFinite : collection.toValue.AllFinite)
    (name : String) : (collection.rename name).toValue.AllFinite :=
  allFinite.insert "name" (.string name)

def finitePart (collection : Collection) : Collection :=
  ⟨Value.finiteMembers collection.root⟩

theorem finitePart_eq_self_iff {collection : Collection} :
    collection.finitePart = collection ↔ collection.toValue.AllFinite := by
  rw [← Value.finitePart?_eq_self_iff]
  constructor
  · intro same
    exact congrArg (fun part => some part.toValue) same
  · intro same
    rcases collection with ⟨root⟩
    exact congrArg mk (Value.object.inj (Option.some.inj same))

/-- The collection with each double replaced by the one that its text is read as. -/
def reread (collection : Collection) : Collection := ⟨Value.rereadMembers collection.root⟩

theorem reread_eq_self_iff {collection : Collection} : collection.reread = collection ↔
    ∀ number ∈ collection.toValue.doubles, Json.readAgain number = number := by
  rw [← Value.reread_eq_self_iff]
  constructor
  · intro same
    exact congrArg toValue same
  · intro same
    rcases collection with ⟨root⟩
    exact congrArg mk (Value.object.inj same)

theorem reread_finitePart_iff {collection : Collection} :
    collection.finitePart.reread = collection.finitePart ↔
      ∀ number ∈ collection.toValue.doubles, (Decimal.Binary.ofFloat number).isFinite = true →
        Json.readAgain number = number := by
  have kept : collection.finitePart.toValue.doubles = collection.toValue.doubles.filter
      fun number => (Decimal.Binary.ofFloat number).isFinite := by
    rw [← Value.doubles_finitePart? collection.toValue]
    exact (List.flatMap_singleton _ collection.finitePart.toValue).symm
  rw [reread_eq_self_iff, kept]
  simp only [List.mem_filter, and_imp]

theorem parse_json {collection : Collection} (distinctKeys : collection.toValue.HasDistinctKeys) :
    parse collection.json =
      if collection.toValue.depth ≤ Json.maxDepth then .ok collection.finitePart.reread
      else .error .json := by
  have text : Value.parse? collection.json = _ := Value.parse?_json distinctKeys
  rw [parse, text]
  split_ifs
  · rfl
  · rfl

theorem parse_json_of_short {collection : Collection}
    (distinctKeys : collection.toValue.HasDistinctKeys)
    (shallow : collection.toValue.depth ≤ Json.maxDepth)
    (short : ∀ number ∈ collection.toValue.doubles, Json.isShortDouble number = true) :
    parse collection.json = .ok collection := by
  have allFinite : collection.toValue.AllFinite := Value.allFinite_iff.mpr fun number member =>
    Json.isFinite_of_isShortDouble (short number member)
  have same : collection.reread = collection := reread_eq_self_iff.mpr fun number member =>
    Json.readAgain_of_isShortDouble (short number member)
  rw [parse_json distinctKeys, if_pos shallow, finitePart_eq_self_iff.mpr allFinite, same]

theorem fits_of_parse {text : String} {collection : Collection}
    (parsed : parse text = .ok collection) :
    collection.Fits (Json.maxDepth - 2) ∧ collection.toValue.AllFinite := by
  rw [parse] at parsed
  cases read : Value.parse? text with
  | none =>
      rw [read] at parsed
      cases parsed
  | some value =>
      rw [read] at parsed
      cases value with
      | object root =>
          cases parsed
          rcases Value.fits_of_parse? read with ⟨fits, allFinite⟩
          exact ⟨fits_object_iff.mp fits, allFinite⟩
      | _ => cases parsed

end Collection

theorem ObsStudio.fits_of_importFile {request : Request} {result : Collection}
    (imported : importFile request = .ok result) :
    result.Fits (Json.maxDepth - 2) ∧ result.toValue.AllFinite := by
  rcases exists_of_bind_eq_ok imported with ⟨found, parsed, adapted⟩
  rcases Collection.fits_of_parse parsed with ⟨fits, allFinite⟩
  split at adapted
  · cases adapted
    cases request.name with
    | none => exact ⟨fits.adapt _, Collection.allFinite_adapt allFinite _⟩
    | some name =>
        exact ⟨(fits.rename name).adapt _,
          Collection.allFinite_adapt (Collection.allFinite_rename allFinite name) _⟩
  · cases adapted

/-! ## Appending imports -/

namespace Content

def Fits (room : Nat) : Content → Prop
  | presentation _ => True
  | tree root => MembersFit (room + 7) root
  | sceneText blocks => MembersFit (room + 6) blocks

theorem Fits.mem_additions {room : Nat} {content : Content} (fits : content.Fits room)
    {setting : Setting} {inUse : List String} {record : Source.Record}
    (member : record ∈ (content.additions setting inUse).records) :
    record.toValue.Fits (room + 5) := by
  cases content with
  | presentation root => exact (XSplit.fits_of_mem_additions member).mono (Nat.le_add_left _ _)
  | tree root => exact Streamlabs.fits_of_mem_additions fits member
  | sceneText blocks => exact ObsClassic.fits_of_mem_additions fits member

theorem Fits.importInto {room : Nat} {content : Content} (fits : content.Fits room)
    (request : Request) : (content.importInto request {}).Fits (room + 5) := by
  have added : ∀ record ∈ (content.additions request.setting []).records,
      record.toValue.Fits (room + 5) := fun _ member => fits.mem_additions member
  have extended := (Collection.fits_empty (room + 5)).extend added
  have named := extended.rename (request.name.getD (content.defaultName request))
  cases content with
  | presentation root => exact named
  | tree root => exact named.adapt request.setting.platform
  | sceneText blocks => exact named

/-- There is always room enough for the content of a text. Only a scene text can take up more than
what the reader of JSON texts has. -/
theorem exists_fits_of_read {program : Program} {input : String} {content : Content}
    (reading : read program input = .ok content) :
    ∃ room, content.Fits room ∧ (program ≠ .obsClassic → room ≤ Json.maxDepth - 8) := by
  cases program with
  | obsStudio => cases reading
  | xsplitBroadcaster =>
      rw [read] at reading
      split at reading
      · cases reading
      · cases reading
      · cases reading
        exact ⟨0, trivial, fun _ => Nat.zero_le _⟩
  | streamlabs =>
      rw [read] at reading
      split at reading
      · cases reading
      · rename_i root parsed
        split at reading
        · cases reading
          exact ⟨Json.maxDepth - 8, (Value.fits_of_parse? parsed).1.membersFit, fun _ => le_rfl⟩
        · cases reading
  | obsClassic =>
      rw [read] at reading
      split at reading
      · cases reading
      · rename_i blocks found
        cases reading
        refine ⟨(Value.object blocks).depth, ?_, fun other => absurd rfl other⟩
        have whole : (Value.object blocks).Fits ((Value.object blocks).depth + 7) :=
          ⟨SceneText.hasDistinctKeys_of_read found, Nat.le_add_right _ _⟩
        exact whole.membersFit

end Content

/-- What is imported into an empty collection repeats no key, and only a scene text can make it
nest too deeply. -/
theorem Program.fits_of_importFile {program : Program} {request : Request} {result : Collection}
    (imported : program.importFile request {} = .ok result) :
    result.toValue.HasDistinctKeys ∧
      (program ≠ .obsClassic → result.toValue.depth ≤ Json.maxDepth) := by
  by_cases appends : program.Appends
  · rcases importFile_eq_ok appends imported with ⟨content, reading, rfl⟩
    rcases Content.exists_fits_of_read reading with ⟨room, contentFits, small⟩
    have fits := (contentFits.importInto request).toValue
    refine ⟨fits.distinctKeys, fun other => fits.depth_le.trans ?_⟩
    have less := small other
    rw [Json.maxDepth] at less ⊢
    omega
  · obtain rfl := not_not.mp appends
    have fits := (ObsStudio.fits_of_importFile imported).1.toValue
    exact ⟨fits.distinctKeys, fun _ => fits.depth_le⟩

/-- The text of a document that a file has been imported into is read as the document without its
doubles that are not finite, and with the others read again. If those are all read as themselves,
nothing else is changed. The text is read as the document itself exactly if there are only such
doubles in it; those of OBS Studio files are all finite. Only a scene text can give a document that
nests too deeply to be read; its text is refused. -/
theorem imported_documents_are_read_back {program : Program} {request : Request}
    {result : Collection} (imported : program.importFile request {} = .ok result) :
    Collection.parse result.json =
        (if result.toValue.depth ≤ Json.maxDepth then .ok result.finitePart.reread
          else .error .json) ∧
      (result.finitePart.reread = result.finitePart ↔
        ∀ number ∈ result.toValue.doubles, (Decimal.Binary.ofFloat number).isFinite = true →
          Json.readAgain number = number) ∧
      (result.finitePart = result ↔ result.toValue.AllFinite) ∧
      (Collection.parse result.json = .ok result ↔
        result.toValue.depth ≤ Json.maxDepth ∧ result.toValue.AllFinite ∧
          ∀ number ∈ result.toValue.doubles, Json.readAgain number = number) ∧
      (program ≠ .obsClassic → result.toValue.depth ≤ Json.maxDepth) ∧
      (program = .obsStudio → result.toValue.AllFinite) := by
  rcases Program.fits_of_importFile imported with ⟨distinctKeys, shallow⟩
  have read := Collection.parse_json distinctKeys
  refine ⟨read, Collection.reread_finitePart_iff, Collection.finitePart_eq_self_iff, ?_, shallow,
    ?_⟩
  · constructor
    · intro whole
      have allFinite := (Collection.fits_of_parse whole).2
      rw [whole, Collection.finitePart_eq_self_iff.mpr allFinite] at read
      split at read
      · rename_i fits
        exact ⟨fits, allFinite, Collection.reread_eq_self_iff.mp (Except.ok.inj read).symm⟩
      · cases read
    · rintro ⟨fits, allFinite, same⟩
      rw [read, if_pos fits, Collection.finitePart_eq_self_iff.mpr allFinite,
        Collection.reread_eq_self_iff.mpr same]
  · intro replaces
    subst replaces
    exact (ObsStudio.fits_of_importFile imported).2

/-! ## Documents that are not read back -/

def loudRequest : Request where
  path := ⟨"/loud.json"⟩
  input := "\x7b\"nodeType\":\"RootNode\",\"sources\":\x7b\"items\":[" ++
    "\x7b\"name\":\"Cam\",\"volume\":\"1e999\"\x7d]\x7d\x7d"

theorem doubles_loudRequest :
    ∃ result, Program.streamlabs.importFile loudRequest {} = .ok result ∧
      result.toValue.doubles = [1 / 0] := by
  have evaluated : (Program.streamlabs.importFile loudRequest {}).map (·.toValue.doubles) =
      .ok [1 / 0] := by
    decide +kernel
  exact exists_of_map_eq_ok evaluated

theorem not_allFinite_of_doubles {collection : Collection}
    (doubles : collection.toValue.doubles = [1 / 0]) : ¬collection.toValue.AllFinite := by
  rw [Value.allFinite_iff, doubles, List.forall_mem_singleton]
  decide +kernel

theorem infinite_volumes_are_not_read_back :
    ∃ result, Program.streamlabs.importFile loudRequest {} = .ok result ∧
      Collection.parse result.json ≠ .ok result := by
  rcases doubles_loudRequest with ⟨result, imported, doubles⟩
  refine ⟨result, imported, ?_⟩
  intro same
  exact not_allFinite_of_doubles doubles (Collection.fits_of_parse same).2

def deepText : List Char :=
  "scenes : \x7b\nMain : \x7b\nclass : scene\nsources : \x7b\nSlides : \x7b\n".toList ++
    "class : BitmapTransitionSource\ndata : \x7b\nbitmap : \x7b\n".toList ++
    (List.replicate 122 "a : \x7b\n".toList).flatten ++
    (List.replicate 123 "\x7d\n".toList).flatten ++
    "bitmap : 0\n\x7d\n\x7d\n\x7d\n\x7d\n\x7d\n".toList

def deepRequest : Request where
  path := ⟨"/deep.xconfig"⟩
  input := String.ofList deepText

theorem maxDepth_lt_depth_deepRequest :
    ∃ result, Program.obsClassic.importFile deepRequest {} = .ok result ∧
      Json.maxDepth < result.toValue.depth := by
  have deep : ((SceneText.readBlocks (Text.numberedLines deepText).length []
      (Text.numberedLines deepText)).map fun blocks => decide (Json.maxDepth <
        ((Content.sceneText blocks).importInto deepRequest {}).toValue.depth)) = .ok true := by
    decide +kernel
  rcases exists_of_map_eq_ok deep with ⟨blocks, reading, isDeep⟩
  have read : SceneText.read deepRequest.input = .ok blocks := by
    rw [SceneText.read, deepRequest, String.toList_ofList]
    exact reading
  have content : Content.read .obsClassic deepRequest.input = .ok (.sceneText blocks) := by
    rw [Content.read, read]
  refine ⟨(Content.sceneText blocks).importInto deepRequest {}, ?_, of_decide_eq_true isDeep⟩
  rw [Program.importFile_eq_map_read (by decide), content]
  rfl

def placedRequest (x : String) : Request where
  path := ⟨"/placed.xconfig"⟩
  input := "scenes : \x7b\nMain : \x7b\nsources : \x7b\nCam : \x7b\nx : " ++ x ++
    "\n\x7d\n\x7d\n\x7d\n\x7d\n"

/-- An infinite volume is lost, the text of a deep nest is refused, and a position with many digits
comes back as its neighbour. A document whose doubles are short comes back as it is. -/
theorem imported_documents_are_read_back_loud_deep_and_placed :
    (∃ result, Program.streamlabs.importFile loudRequest {} = .ok result ∧
      Collection.parse result.json = .ok result.finitePart ∧ result.finitePart ≠ result) ∧
    (∃ result, Program.obsClassic.importFile deepRequest {} = .ok result ∧
      Json.maxDepth < result.toValue.depth ∧
      Collection.parse result.json = .error .json) ∧
    (∃ result, Program.obsClassic.importFile (placedRequest "1514.3488341801853") {} = .ok result ∧
      Collection.parse result.json = .ok result.reread ∧
      result.toValue.doubles = [1514.3488341801853, 0, 0, 0] ∧
      result.reread.toValue.doubles = [1514.3488341801851, 0, 0, 0]) ∧
    (∃ result, Program.obsClassic.importFile (placedRequest "1514.25") {} = .ok result ∧
      Collection.parse result.json = .ok result) := by
  refine ⟨?_, ?_, ?_, ?_⟩
  · rcases doubles_loudRequest with ⟨result, imported, doubles⟩
    rcases imported_documents_are_read_back imported with ⟨read, kept, whole, _, shallow, _⟩
    have same : result.finitePart.reread = result.finitePart := by
      rw [kept, doubles, List.forall_mem_singleton]
      decide +kernel
    rw [if_pos (shallow (by decide)), same] at read
    exact ⟨result, imported, read, fun equal => not_allFinite_of_doubles doubles (whole.mp equal)⟩
  · rcases maxDepth_lt_depth_deepRequest with ⟨result, imported, deep⟩
    have read := (imported_documents_are_read_back imported).1
    rw [if_neg (Nat.not_le_of_gt deep)] at read
    exact ⟨result, imported, deep, read⟩
  · have evaluated : (Program.obsClassic.importFile (placedRequest "1514.3488341801853") {}).map
        (fun result => (decide (result.toValue.depth ≤ Json.maxDepth), result.toValue.doubles,
          result.reread.toValue.doubles)) =
          .ok (true, [1514.3488341801853, 0, 0, 0], [1514.3488341801851, 0, 0, 0]) := by
      decide +kernel
    rcases exists_of_map_eq_ok evaluated with ⟨result, imported, values⟩
    rcases Prod.mk.inj values with ⟨fits, doubles⟩
    rcases Prod.mk.inj doubles with ⟨before, after⟩
    have read := (imported_documents_are_read_back imported).1
    have allFinite : result.toValue.AllFinite := by
      rw [Value.allFinite_iff, before, ← List.all_eq_true]
      decide +kernel
    rw [if_pos (of_decide_eq_true fits), Collection.finitePart_eq_self_iff.mpr allFinite] at read
    exact ⟨result, imported, read, before, after⟩
  · have evaluated : (Program.obsClassic.importFile (placedRequest "1514.25") {}).map
        (fun result => (decide (result.toValue.depth ≤ Json.maxDepth),
          result.toValue.doubles.all Json.isShortDouble)) = .ok (true, true) := by
      decide +kernel
    rcases exists_of_map_eq_ok evaluated with ⟨result, imported, values⟩
    rcases Prod.mk.inj values with ⟨fits, short⟩
    exact ⟨result, imported, Collection.parse_json_of_short
      (Program.fits_of_importFile imported).1 (of_decide_eq_true fits) (List.all_eq_true.mp short)⟩

end BroadcastScenes
