import BroadcastScenes.Proofs.XSplit.AddedRecords
import BroadcastScenes.Proofs.XSplit.SharedSources

/-!
# First uses

A presentation adds a scene for each placement and an item for each tag in it. Behind the scenes
stand the sources that the items show, each where it is used for the first time: where its
identifier is met first, or wherever an item has no identifier.
-/

namespace BroadcastScenes.XSplit

structure IsItemOf (canvas : Canvas) (tag : Markup.Tag) (number : Nat) (item : Value) : Prop where
  built : ∃ name, item = (sceneItem canvas tag.attributes number name).toValue
  numbered : item.member? "id" = some (.integer (Int64.ofNat number))

/-- The record is a scene with one item for each tag in its placement. They are in the same order
and numbered from one. -/
structure IsSceneOf (canvas : Canvas) (placement : Markup.Tag) (record : Value) : Prop where
  isScene : record.member? "id" = some (.string Source.sceneId)
  items : List.Forall₂
    (fun (entry : Markup.Tag × Nat) item => IsItemOf canvas entry.1 entry.2 item)
    (placement.children.zipIdx 1) (record.members.itemsAt "settings")

/-- Of tags with the names that their items show, those that use a source for the first time when
these identifiers are known already. -/
def firstUses (known : List String) :
    List (Markup.Tag × Option String) → List (Markup.Tag × Option String)
  | [] => []
  | (tag, shown) :: rest =>
      if IsSource tag ∧ (sourceId tag = "" ∨ sourceId tag ∉ known) then
        (tag, shown) :: firstUses (sourceId tag :: known) rest
      else firstUses known rest

def IsSourceOf (platform : Platform) (use : Markup.Tag × Option String) (record : Value) : Prop :=
  ∃ name, use.2 = some name ∧ record = (sourceRecord platform use.1.attributes name).toValue

/-- The records of the later collection are those of the earlier one, then one for each placement,
in order, and then the sources that the items of these scenes show, in the order of their first
use. -/
def AddsPresentation (setting : Setting) (root : Markup.Tag) (earlier later : Collection) : Prop :=
  ∃ scenes sources : List Value,
    later.records = earlier.records ++ scenes ++ sources ∧
    List.Forall₂ (IsSceneOf setting.canvas) (root.childrenOfKind "placement") scenes ∧
    List.Forall₂ (IsSourceOf setting.platform)
      (firstUses (placementIds root) ((placedTags root).zip (scenes.flatMap namesIn))) sources

/-! ## Scenes -/

theorem isItemOf_sceneItem (canvas : Canvas) (tag : Markup.Tag) (number : Nat)
    (name : Option String) :
    IsItemOf canvas tag number (sceneItem canvas tag.attributes number name).toValue where
  built := ⟨name, rfl⟩
  numbered := by cases name <;> rfl

theorem forall₂_isItemOf (setting : Setting) (number : Nat) (tags : List Markup.Tag)
    (assembly : Assembly) :
    List.Forall₂ (fun (entry : Markup.Tag × Nat) item =>
        IsItemOf setting.canvas entry.1 entry.2 item)
      (tags.zipIdx number)
      ((placeItems setting number tags assembly).1.map Scene.Item.toValue) := by
  induction tags generalizing number assembly with
  | nil => exact .nil
  | cons tag rest induction =>
      rw [placeItems_cons]
      exact .cons (isItemOf_sceneItem _ tag number _) (induction (number + 1) _)

theorem forall₂_isSceneOf (setting : Setting) (names : List String) (placements : List Markup.Tag)
    (lengths : names.length = placements.length) (assembly : Assembly) :
    List.Forall₂ (IsSceneOf setting.canvas) placements
      ((placeScenes setting (names.zip placements) assembly).1.map Source.Record.toValue) := by
  induction names generalizing placements assembly with
  | nil =>
      rw [List.length_eq_zero_iff.mp lengths.symm]
      exact .nil
  | cons name rest induction =>
      cases placements with
      | nil => cases lengths
      | cons placement others =>
          rw [List.zip_cons_cons, placeScenes_cons]
          refine .cons ⟨rfl, ?_⟩ (induction others (Nat.succ.inj lengths) _)
          rw [Source.Record.itemsAt_settings_withItems]
          exact forall₂_isItemOf setting 1 placement.children assembly

/-! ## Sources -/

def Knows (table : NameTable) (ids : List String) : Prop :=
  ∀ id, (table.name? id).isSome ↔ id ≠ "" ∧ id ∈ ids

theorem knows_start (inUse : List String) (root : Markup.Tag) :
    Knows (start inUse root).table (placementIds root) := by
  intro id
  by_cases unnamed : id = ""
  · simp [unnamed, (start_keyed inUse root).unnamed]
  · rw [name?_start inUse root unnamed, Option.isSome_iff_ne_none, Ne, List.getElem?_eq_none_iff,
      ← length_placementIds, not_le, List.idxOf_lt_length_iff]
    exact ⟨fun isPlacement => ⟨unnamed, isPlacement⟩, And.right⟩

theorem Knows.enter {table : NameTable} {ids : List String} (knows : Knows table ids)
    (id name : String) : Knows (table.enter id name) (id :: ids) := by
  intro other
  rw [NameTable.name?_enter, Option.isSome_or, Bool.or_eq_true, knows other, List.mem_cons]
  by_cases same : other = id
  · subst same
    by_cases unnamed : other = "" <;> simp [unnamed]
  · simp [same]

theorem firstUses_of_not {ids : List String} {tag : Markup.Tag}
    (isUsed : ¬ (IsSource tag ∧ (sourceId tag = "" ∨ sourceId tag ∉ ids)))
    (shown : Option String) (rest : List (Markup.Tag × Option String)) :
    firstUses ids ((tag, shown) :: rest) = firstUses ids rest := by
  rw [firstUses, if_neg isUsed]

theorem firstUses_of_new {ids : List String} {tag : Markup.Tag} (isSource : IsSource tag)
    (isNew : sourceId tag = "" ∨ sourceId tag ∉ ids) (shown : Option String)
    (rest : List (Markup.Tag × Option String)) :
    firstUses ids ((tag, shown) :: rest) =
      (tag, shown) :: firstUses (sourceId tag :: ids) rest := by
  rw [firstUses, if_pos ⟨isSource, isNew⟩]

theorem forall₂_firstUses (platform : Platform) {assembly : Assembly} {ids : List String}
    (knows : Knows assembly.table ids) (tags : List Markup.Tag) :
    ∃ added, (placedNames platform tags assembly).2.sources = assembly.sources ++ added ∧
      List.Forall₂ (IsSourceOf platform)
        (firstUses ids (tags.zip (placedNames platform tags assembly).1))
        (added.map Source.Record.toValue) := by
  induction tags generalizing assembly ids with
  | nil => exact ⟨[], (List.append_nil _).symm, .nil⟩
  | cons tag rest induction =>
      rw [placedNames_cons, List.zip_cons_cons]
      rcases placedName_cases platform tag.attributes assembly with
        ⟨name, known, equal⟩ | ⟨_, isScene, equal⟩ | ⟨unknown, isSource, name, roster, _, equal⟩
      · rw [equal, firstUses_of_not]
        · exact induction knows
        · rintro ⟨_, isNew⟩
          have isUsed := (knows (sourceId tag)).mp (Option.isSome_of_eq_some known)
          exact isNew.elim isUsed.1 (· isUsed.2)
      · rw [equal, firstUses_of_not]
        · exact induction knows
        · exact fun isNew => (isSource_iff tag).mp isNew.1 isScene
      · have isNew : sourceId tag = "" ∨ sourceId tag ∉ ids := by
          by_contra isUsed
          rw [not_or, not_not] at isUsed
          have known := (knows (sourceId tag)).mpr isUsed
          rw [sourceId, unknown] at known
          cases known
        rw [equal, firstUses_of_new ((isSource_iff tag).mpr isSource) isNew]
        let next : Assembly :=
          { roster := roster
            table := assembly.table.enter (sourceId tag) name
            sources := assembly.sources ++ [sourceRecord platform tag.attributes name] }
        have nextKnows : Knows next.table (sourceId tag :: ids) := knows.enter (sourceId tag) name
        rcases induction nextKnows with ⟨added, sources, related⟩
        refine ⟨sourceRecord platform tag.attributes name :: added, ?_,
          .cons ⟨name, rfl, rfl⟩ related⟩
        exact sources.trans (List.append_cons _ _ _).symm

/-! ## A whole presentation -/

theorem addsPresentation_importInto (request : Request) (collection : Collection)
    (root : Markup.Tag) :
    AddsPresentation request.setting root collection
      ((Content.presentation root).importInto request collection) := by
  have start_sources : (start collection.recordNames root).sources = [] := rfl
  rcases forall₂_firstUses request.setting.platform (knows_start collection.recordNames root)
    (placedTags root) with ⟨added, sources, related⟩
  rw [← placed_names, start_sources, List.nil_append] at sources
  refine ⟨(placed request.setting collection.recordNames root).1.map Source.Record.toValue,
    added.map Source.Record.toValue, ?_, ?_, ?_⟩
  · have earlier : (collection.records.map fun record =>
        (Content.presentation root).finishRecord request.setting record) = collection.records :=
      List.map_id _
    rw [Content.records_importInto, earlier, List.append_assoc, ← List.map_append, ← sources]
    rfl
  · exact forall₂_isSceneOf _ _ _ (length_sceneNames _ _) _
  · rw [List.flatMap_map]
    rw [← placed_names] at related
    exact related

end BroadcastScenes.XSplit
