import BroadcastScenes.Proofs.KeptMembers
import BroadcastScenes.Proofs.XSplit.SharedSources

/-!
# Renaming

The names that are in use decide which names the records of a presentation are given, and nothing
else. Imports into two collections append the same records but for their names, and one renaming
takes all names of the one import to those of the other.
-/

namespace BroadcastScenes

/-! ## Renamed records -/

def Value.renamedItem (rename : String → String) (item : Value) : Value :=
  match item.member? "name" with
  | some (.string name) => item.put "name" (.string (rename name))
  | _ => item

def Value.renamedRecord (rename : String → String) (record : Value) : Value :=
  let named := record.put "name" (.string (rename (Collection.recordName record)))
  if record.members.stringAt "id" = Source.sceneId then
    (named.changeAt? (fun items => some (.array (items.elements.map (renamedItem rename))))
      ["settings", "items"]).getD named
  else named

def Scene.Item.renamed (rename : String → String) (item : Item) : Item :=
  { item with name := item.name.map rename }

def Source.Record.renamed (rename : String → String) (record : Record) : Record :=
  { record with name := rename record.name }

theorem Scene.Item.renamedItem_toValue (rename : String → String) (item : Item) :
    item.toValue.renamedItem rename = (item.renamed rename).toValue := by
  rcases item with ⟨id, name, position, extent, rotation, crop, visible⟩
  rw [Value.renamedItem, member?_name_toValue]
  cases name with
  | some name => rfl
  | none => rfl

theorem Source.Record.renamedRecord_toValue {record : Record} (notScene : record.id ≠ sceneId)
    (rename : String → String) :
    record.toValue.renamedRecord rename = (record.renamed rename).toValue := by
  rw [Value.renamedRecord, stringAt_id_toValue, if_neg notScene]
  rfl

theorem Source.Record.renamedRecord_scene (name : String) (items : List Scene.Item)
    (rename : String → String) :
    ((scene name).withItems items).toValue.renamedRecord rename =
      ((scene (rename name)).withItems (items.map (·.renamed rename))).toValue := by
  have renamed : (items.map Scene.Item.toValue).map (Value.renamedItem rename) =
      (items.map (·.renamed rename)).map Scene.Item.toValue := by
    rw [List.map_map, List.map_map]
    exact List.map_congr_left fun item _ => item.renamedItem_toValue rename
  rw [withItems, withItems, ← renamed, List.length_map]
  rfl

namespace XSplit

/-! ## Two runs -/

namespace Assembly

def sourceNames (assembly : Assembly) : List String := assembly.sources.map (·.name)

structure Corresponds (rename : String → String) (left right : Assembly) : Prop where
  table : ∀ id, right.table.name? id = (left.table.name? id).map rename
  sources : right.sources = left.sources.map (·.renamed rename)
  notScenes : ∀ source ∈ left.sources, source.id ≠ Source.sceneId

theorem Corresponds.toValue_sources {rename : String → String} {left right : Assembly}
    (corresponds : left.Corresponds rename right) :
    right.sources.map (·.toValue) = left.sources.map (·.toValue.renamedRecord rename) := by
  rw [corresponds.sources, List.map_map]
  apply List.map_congr_left
  intro source member
  exact (Source.Record.renamedRecord_toValue (corresponds.notScenes source member) rename).symm

theorem Corresponds.sourceNames {rename : String → String} {left right : Assembly}
    (corresponds : left.Corresponds rename right) :
    right.sourceNames = left.sourceNames.map rename := by
  rw [Assembly.sourceNames, corresponds.sources, List.map_map, Assembly.sourceNames, List.map_map]
  rfl

theorem isPrefix_sourceNames_placedName (assembly : Assembly) (platform : Platform)
    (attributes : Members) :
    assembly.sourceNames <+: (placedName platform attributes assembly).2.sourceNames := by
  rcases placedName_cases platform attributes assembly with
    ⟨_, _, equal⟩ | ⟨_, _, equal⟩ | ⟨_, _, _, _, _, equal⟩
  · rw [equal]
  · rw [equal]
  · rw [equal, sourceNames, sourceNames, List.map_append]
    exact List.prefix_append _ _

theorem isPrefix_sourceNames_placeItems (assembly : Assembly) (setting : Setting)
    (number : Nat) (tags : List Markup.Tag) :
    assembly.sourceNames <+: (placeItems setting number tags assembly).2.sourceNames := by
  induction tags generalizing number assembly with
  | nil => exact List.prefix_rfl
  | cons tag rest induction =>
      rw [placeItems_cons]
      exact (assembly.isPrefix_sourceNames_placedName _ _).trans (induction _ _)

theorem isPrefix_sourceNames_placeScenes (assembly : Assembly) (setting : Setting)
    (named : List (String × Markup.Tag)) :
    assembly.sourceNames <+: (placeScenes setting named assembly).2.sourceNames := by
  induction named generalizing assembly with
  | nil => exact List.prefix_rfl
  | cons head rest induction =>
      rw [placeScenes_cons]
      exact (assembly.isPrefix_sourceNames_placeItems _ _ _).trans (induction _)

variable {rename : String → String} {left right : Assembly} {final : List String}

theorem eq_of_isPrefix_map {names : List String} {name other : String}
    (leftWithin : names ++ [name] <+: final)
    (rightWithin : names.map rename ++ [other] <+: final.map rename) : other = rename name := by
  rcases leftWithin with ⟨rest, rfl⟩
  rw [List.append_assoc, List.map_append, List.prefix_append_right_inj, List.singleton_append,
    List.map_cons, List.cons_prefix_cons] at rightWithin
  exact rightWithin.1

/-- If both runs end with sources whose names correspond, then the names that one item brings in
correspond too, since they stand at the same place. -/
theorem Corresponds.placedName (corresponds : left.Corresponds rename right)
    (platform : Platform) (attributes : Members)
    (leftWithin : (XSplit.placedName platform attributes left).2.sourceNames <+: final)
    (rightWithin :
      (XSplit.placedName platform attributes right).2.sourceNames <+: final.map rename) :
    (XSplit.placedName platform attributes right).1 =
        (XSplit.placedName platform attributes left).1.map rename ∧
      (XSplit.placedName platform attributes left).2.Corresponds rename
        (XSplit.placedName platform attributes right).2 := by
  have known := corresponds.table (attributes.textAt "srcid")
  rcases placedName_cases platform attributes left with
    ⟨name, found, equal⟩ | ⟨unknown, isScene, equal⟩ |
    ⟨unknown, isSource, name, roster, assignment, equal⟩
  · rw [found, Option.map_some] at known
    have other : XSplit.placedName platform attributes right = (some (rename name), right) := by
      simp [XSplit.placedName, known]
    rw [equal, other]
    exact ⟨rfl, corresponds⟩
  · rw [unknown, Option.map_none] at known
    have other : XSplit.placedName platform attributes right =
        (right.table.name? (attributes.textAt "item"), right) := by
      simp [XSplit.placedName, known, isScene]
    rw [equal, other]
    exact ⟨corresponds.table _, corresponds⟩
  · -- Both runs bring in a source here, and the two names stand at one place in the final lists.
    rw [unknown, Option.map_none] at known
    cases otherAssignment : right.roster.assign (wantedName attributes) with
    | mk otherName otherRoster =>
    have other : XSplit.placedName platform attributes right =
        (some otherName,
          { roster := otherRoster
            table := right.table.enter (attributes.textAt "srcid") otherName
            sources := right.sources ++ [sourceRecord platform attributes otherName] }) := by
      simp [XSplit.placedName, known, isSource, otherAssignment]
    rw [equal] at leftWithin ⊢
    rw [other] at rightWithin ⊢
    have names : otherName = rename name := by
      rw [Assembly.sourceNames, List.map_append] at leftWithin rightWithin
      apply eq_of_isPrefix_map leftWithin
      rw [← Assembly.sourceNames, ← corresponds.sourceNames]
      exact rightWithin
    subst names
    refine ⟨rfl, ?_, ?_, ?_⟩
    · intro id
      rw [NameTable.name?_enter, NameTable.name?_enter, corresponds.table, Option.map_or]
      split <;> rfl
    · rw [corresponds.sources, List.map_append]
      rfl
    · intro source member
      rcases List.mem_append.mp member with earlier | added
      · exact corresponds.notScenes source earlier
      · rw [List.mem_singleton.mp added]
        exact sourceRecord_id_ne_sceneId platform attributes name

theorem Corresponds.placeItems (corresponds : left.Corresponds rename right)
    (setting : Setting) (number : Nat) (tags : List Markup.Tag)
    (leftWithin : (XSplit.placeItems setting number tags left).2.sourceNames <+: final)
    (rightWithin :
      (XSplit.placeItems setting number tags right).2.sourceNames <+: final.map rename) :
    (XSplit.placeItems setting number tags right).1 =
        (XSplit.placeItems setting number tags left).1.map (·.renamed rename) ∧
      (XSplit.placeItems setting number tags left).2.Corresponds rename
        (XSplit.placeItems setting number tags right).2 := by
  induction tags generalizing number left right with
  | nil => exact ⟨rfl, corresponds⟩
  | cons tag rest induction =>
      rw [placeItems_cons] at leftWithin rightWithin
      have step := corresponds.placedName setting.platform tag.attributes
        ((isPrefix_sourceNames_placeItems _ _ _ _).trans leftWithin)
        ((isPrefix_sourceNames_placeItems _ _ _ _).trans rightWithin)
      have others := induction step.2 (number + 1) leftWithin rightWithin
      rw [placeItems_cons, placeItems_cons, step.1, others.1, List.map_cons]
      exact ⟨rfl, others.2⟩

theorem Corresponds.placeScenes (corresponds : left.Corresponds rename right)
    (setting : Setting) (named : List (String × Markup.Tag))
    (leftWithin : (XSplit.placeScenes setting named left).2.sourceNames <+: final)
    (rightWithin : (XSplit.placeScenes setting (named.map (Prod.map rename id)) right).2.sourceNames
      <+: final.map rename) :
    (XSplit.placeScenes setting (named.map (Prod.map rename id)) right).1.map (·.toValue) =
        (XSplit.placeScenes setting named left).1.map (·.toValue.renamedRecord rename) ∧
      (XSplit.placeScenes setting named left).2.Corresponds rename
        (XSplit.placeScenes setting (named.map (Prod.map rename id)) right).2 := by
  induction named generalizing left right with
  | nil => exact ⟨rfl, corresponds⟩
  | cons head rest induction =>
      rcases head with ⟨name, placement⟩
      rw [List.map_cons, Prod.map_apply, id] at rightWithin ⊢
      rw [placeScenes_cons] at leftWithin rightWithin
      have items := corresponds.placeItems setting 1 placement.children
        ((isPrefix_sourceNames_placeScenes _ _ _).trans leftWithin)
        ((isPrefix_sourceNames_placeScenes _ _ _).trans rightWithin)
      have others := induction items.2 leftWithin rightWithin
      rw [placeScenes_cons, placeScenes_cons, List.map_cons, List.map_cons, items.1, others.1,
        Source.Record.renamedRecord_scene]
      exact ⟨rfl, others.2⟩

end Assembly

theorem start_corresponds {rename : String → String} {inUse others : List String}
    {root : Markup.Tag}
    (names : sceneNames others root = (sceneNames inUse root).map rename) :
    (start inUse root).Corresponds rename (start others root) where
  table := by
    intro id
    by_cases unnamed : id = ""
    · rw [unnamed, (start_keyed inUse root).unnamed, (start_keyed others root).unnamed]
      rfl
    · rw [name?_start inUse root unnamed, name?_start others root unnamed, names,
        List.getElem?_map]
  sources := rfl
  notScenes := by simp [start]

/-! ## Two imports -/

theorem exists_map_eq_of_nodup {left right : List String} (nodup : left.Nodup)
    (lengths : left.length = right.length) :
    ∃ rename : String → String, left.map rename = right := by
  refine ⟨fun name => right[left.idxOf name]?.getD name, ?_⟩
  apply List.ext_getElem
  · rw [List.length_map, lengths]
  · intro place leftBound rightBound
    rw [List.length_map] at leftBound
    rw [List.getElem_map, nodup.idxOf_getElem place leftBound, List.getElem?_eq_getElem rightBound,
      Option.getD_some]

theorem bijOn_of_nodup_map {left right : List String} {rename : String → String}
    (names : left.map rename = right) (nodup : right.Nodup) :
    Set.BijOn rename {name | name ∈ left} {name | name ∈ right} := by
  subst names
  refine ⟨?_, ?_, ?_⟩
  · intro name member
    exact List.mem_map_of_mem member
  · intro name member other otherMember equal
    exact List.inj_on_of_nodup_map nodup member otherMember equal
  · intro name member
    exact List.mem_map.mp member

/-- A renaming that takes the names of one presentation to those of the other takes its records
there as well. -/
theorem additions_of_map_name {rename : String → String} {inUse others : List String}
    {setting : Setting} {root : Markup.Tag}
    (names : (additions setting others root).records.map (·.name) =
      ((additions setting inUse root).records.map (·.name)).map rename) :
    (additions setting others root).records.map (·.toValue) =
        (additions setting inUse root).records.map (·.toValue.renamedRecord rename) ∧
      sceneNames others root = (sceneNames inUse root).map rename := by
  rw [map_name_additions, map_name_additions, Assembly.recordNames, Assembly.recordNames,
    List.map_append] at names
  -- There are as many scenes on both sides, so that the names of the sources correspond as well.
  have parts := List.append_inj names
    (by rw [List.length_map, length_sceneNames, length_sceneNames])
  have scenes : (sceneNames others root).zip (root.childrenOfKind "placement") =
      ((sceneNames inUse root).zip (root.childrenOfKind "placement")).map
        (Prod.map rename id) := by
    rw [parts.1, List.zip_map_left]
  have within := parts.2
  rw [placed, placed, scenes] at within
  have ends : (placeScenes setting (((sceneNames inUse root).zip
        (root.childrenOfKind "placement")).map (Prod.map rename id))
        (start others root)).2.sourceNames <+:
      (placeScenes setting ((sceneNames inUse root).zip (root.childrenOfKind "placement"))
        (start inUse root)).2.sourceNames.map rename := by
    rw [Assembly.sourceNames, within]
    exact List.prefix_rfl
  have run := (start_corresponds parts.1).placeScenes setting
    ((sceneNames inUse root).zip (root.childrenOfKind "placement")) List.prefix_rfl ends
  rw [additions_eq, additions_eq, List.map_append, List.map_append, placed, placed, scenes, run.1,
    run.2.toValue_sources]
  exact ⟨rfl, parts.1⟩

/-- The two imports of a presentation have appended the same records, with the names of the one in
place of those of the other, and show the same scene. -/
structure Renames (rename : String → String) (root : Markup.Tag)
    (left leftResult right rightResult : Collection) : Prop where
  names : Set.BijOn rename {name | name ∈ (left.newRecords leftResult).map Collection.recordName}
    {name | name ∈ (right.newRecords rightResult).map Collection.recordName}
  records : right.newRecords rightResult =
    (left.newRecords leftResult).map (Value.renamedRecord rename)
  shown : 0 < (root.childrenOfKind "placement").length →
    ∃ scene ∈ (left.newRecords leftResult).map Collection.recordName,
      leftResult.IsShowing scene ∧ rightResult.IsShowing (rename scene)

/-- A presentation that can be imported into one collection can be imported into any other, and the
two imports differ in the names that they give only: identifiers, not names, decide what an item
shows. -/
theorem imports_differ_by_renaming (request : Request) (left right leftResult : Collection)
    (imported : importFile request left = .ok leftResult) :
    ∃ root rightResult rename, Markup.read request.input = .ok (some root) ∧
      importFile request right = .ok rightResult ∧
      Renames rename root left leftResult right rightResult := by
  rcases exists_read_of_importFile_eq_ok imported with ⟨root, reading⟩
  have into : ∀ collection, importFile request collection =
      .ok ((Content.presentation root).importInto request collection) := by
    intro collection
    rw [importFile, reading]
    rfl
  cases imported.symm.trans (into left)
  have distinct := (areNew_additions request.setting left.recordNames root).nodup
  have otherDistinct := (areNew_additions request.setting right.recordNames root).nodup
  have lengths :
      ((additions request.setting left.recordNames root).records.map (·.name)).length =
        ((additions request.setting right.recordNames root).records.map (·.name)).length := by
    rw [List.length_map, List.length_map, length_additions, length_additions]
  rcases exists_map_eq_of_nodup distinct lengths with ⟨rename, names⟩
  have renamed := additions_of_map_name names.symm
  refine ⟨root, _, rename, reading, into right, ?_, ?_, ?_⟩
  · rw [Content.map_recordName_newRecords, Content.map_recordName_newRecords]
    exact bijOn_of_nodup_map names otherDistinct
  · rw [Content.newRecords_importInto, Content.newRecords_importInto, List.map_map]
    exact renamed.1
  · intro hasScene
    rw [← length_sceneNames left.recordNames] at hasScene
    rcases List.exists_cons_of_length_pos hasScene with ⟨scene, others, scenes⟩
    refine ⟨scene, ?_, Content.isShowing_importInto ?_, Content.isShowing_importInto ?_⟩
    · rw [Content.map_recordName_newRecords]
      have isFirst : scene ∈ sceneNames left.recordNames root := by
        rw [scenes]
        exact List.mem_cons_self
      rw [Content.additions, map_name_additions]
      exact List.mem_append_left _ isFirst
    · exact congrArg List.head? scenes
    · rw [scenes] at renamed
      exact congrArg List.head? renamed.2

def twoScenesRequest : Request where
  path := ⟨"/two.bpres"⟩
  input := "<configuration>\n<placement name=\"Main\" id=\"1\">\n" ++
    "<item cname=\"Cam\" srcid=\"a\" />\n<item type=\"11\" item=\"2\" />\n</placement>\n" ++
    "<placement name=\"Cam\" id=\"2\">\n<item srcid=\"a\" />\n</placement>\n</configuration>\n"

theorem imports_differ_by_renaming_cam :
    let right : Collection := ⟨[("sources", .array [.object [("name", .string "Cam")]])]⟩
    ∃ leftResult, importFile twoScenesRequest {} = .ok leftResult ∧
      leftResult.shownNames = [("Main", [some "Cam 0", some "Cam"]), ("Cam", [some "Cam 0"]),
        ("Cam 0", [])] ∧
      ∃ root rightResult rename, Markup.read twoScenesRequest.input = .ok (some root) ∧
        importFile twoScenesRequest right = .ok rightResult ∧
        rightResult.shownNames = [("Cam", []), ("Main", [some "Cam 1", some "Cam 0"]),
          ("Cam 0", [some "Cam 1"]), ("Cam 1", [])] ∧
        Renames rename root {} leftResult right rightResult := by
  intro right
  have leftNames : (importFile twoScenesRequest {}).map Collection.shownNames =
      .ok [("Main", [some "Cam 0", some "Cam"]), ("Cam", [some "Cam 0"]), ("Cam 0", [])] := by
    decide +kernel
  have rightNames : (importFile twoScenesRequest right).map Collection.shownNames =
      .ok [("Cam", []), ("Main", [some "Cam 1", some "Cam 0"]), ("Cam 0", [some "Cam 1"]),
        ("Cam 1", [])] := by
    decide +kernel
  rcases exists_of_map_eq_ok leftNames with ⟨leftResult, imported, leftShown⟩
  rcases exists_of_map_eq_ok rightNames with ⟨rightResult, rightImported, rightShown⟩
  rcases imports_differ_by_renaming twoScenesRequest {} right leftResult imported with
    ⟨root, _, rename, reading, sameImported, renames⟩
  cases rightImported.symm.trans sameImported
  exact ⟨leftResult, imported, leftShown, root, rightResult, rename, reading, rightImported,
    rightShown, renames⟩

end XSplit

end BroadcastScenes
