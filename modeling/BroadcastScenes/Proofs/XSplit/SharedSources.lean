import BroadcastScenes.Proofs.PlacedNames
import Mathlib.Data.Finset.Card

/-!
# Shared sources

Items that share an identifier show the same source, in whatever scenes they stand. While the items
are placed, each name that a source was given belongs to one identifier at most, and goes on
belonging to it. Hence names can be compared by comparing identifiers, and there are as many new
sources as identifiers that lead to no scene, besides one for each item without an identifier.
-/

namespace BroadcastScenes.XSplit

/-! ## Items of a presentation -/

def placedTags (root : Markup.Tag) : List Markup.Tag :=
  (root.childrenOfKind "placement").flatMap Markup.Tag.children

def placementIds (root : Markup.Tag) : List String :=
  (root.childrenOfKind "placement").map fun placement => placement.attributes.textAt "id"

def sourceId (tag : Markup.Tag) : String := tag.attributes.textAt "srcid"

/-- Items of the type 11 stand for scenes; all others can bring in a source. -/
def IsSource (tag : Markup.Tag) : Prop := tag.attributes.integerAt "type" ≠ 11

instance (tag : Markup.Tag) : Decidable (IsSource tag) :=
  inferInstanceAs (Decidable (_ ≠ _))

theorem isSource_iff (tag : Markup.Tag) :
    IsSource tag ↔ ItemType.ofCode (tag.attributes.integerAt "type") ≠ .scene := by
  rw [IsSource, not_iff_not]
  constructor
  · intro isScene
    rw [isScene]
    rfl
  · intro isScene
    unfold ItemType.ofCode at isScene
    split_ifs at isScene
    assumption

theorem placedName_of_known {tag : Markup.Tag} {assembly : Assembly} {name : String}
    (known : assembly.table.name? (sourceId tag) = some name) (platform : Platform) :
    placedName platform tag.attributes assembly = (some name, assembly) := by
  rw [sourceId] at known
  simp [placedName, known]

def placedNames (platform : Platform) :
    List Markup.Tag → Assembly → List (Option String) × Assembly
  | [], assembly => ([], assembly)
  | tag :: rest, assembly =>
      let (name, next) := placedName platform tag.attributes assembly
      let (names, last) := placedNames platform rest next
      (name :: names, last)

theorem placedNames_cons (platform : Platform) (tag : Markup.Tag) (rest : List Markup.Tag)
    (assembly : Assembly) :
    placedNames platform (tag :: rest) assembly =
      ((placedName platform tag.attributes assembly).1 ::
        (placedNames platform rest (placedName platform tag.attributes assembly).2).1,
        (placedNames platform rest (placedName platform tag.attributes assembly).2).2) := rfl

theorem placedNames_append (platform : Platform) (front back : List Markup.Tag)
    (assembly : Assembly) :
    placedNames platform (front ++ back) assembly =
      ((placedNames platform front assembly).1 ++
        (placedNames platform back (placedNames platform front assembly).2).1,
        (placedNames platform back (placedNames platform front assembly).2).2) := by
  induction front generalizing assembly with
  | nil => rfl
  | cons tag rest induction => rw [List.cons_append, placedNames_cons, induction]; rfl

theorem length_placedNames (platform : Platform) (tags : List Markup.Tag) (assembly : Assembly) :
    (placedNames platform tags assembly).1.length = tags.length := by
  induction tags generalizing assembly with
  | nil => rfl
  | cons tag rest induction => simp [placedNames_cons, induction]

theorem placeItems_names (setting : Setting) (number : Nat) (tags : List Markup.Tag)
    (assembly : Assembly) :
    ((placeItems setting number tags assembly).1.map (·.name),
      (placeItems setting number tags assembly).2) =
      placedNames setting.platform tags assembly := by
  induction tags generalizing number assembly with
  | nil => rfl
  | cons tag rest induction =>
      rw [placeItems_cons, placedNames_cons, ← induction (number + 1)]
      rfl

def nameOf? (item : Value) : Option String := (item.member? "name").bind Value.string?

theorem nameOf?_toValue (item : Scene.Item) : nameOf? item.toValue = item.name := by
  rw [nameOf?, Scene.Item.member?_name_toValue]
  cases item.name <;> rfl

def namesIn (scene : Value) : List (Option String) :=
  (scene.members.itemsAt "settings").map nameOf?

theorem namesIn_withItems (scene : Source.Record) (items : List Scene.Item) :
    namesIn (scene.withItems items).toValue = items.map (·.name) := by
  rw [namesIn, Source.Record.itemsAt_settings_withItems, List.map_map]
  exact List.map_congr_left fun item _ => nameOf?_toValue item

theorem placeScenes_names (setting : Setting) (named : List (String × Markup.Tag))
    (assembly : Assembly) :
    ((placeScenes setting named assembly).1.flatMap fun scene => namesIn scene.toValue,
      (placeScenes setting named assembly).2) =
      placedNames setting.platform (named.flatMap fun entry => entry.2.children) assembly := by
  induction named generalizing assembly with
  | nil => rfl
  | cons head rest induction =>
      rcases head with ⟨name, placement⟩
      rw [placeScenes_cons, List.flatMap_cons, List.flatMap_cons, placedNames_append,
        ← placeItems_names setting 1, ← induction, namesIn_withItems]

/-! ## One item -/

namespace Assembly

/-- Different identifiers have different names, and the empty one has none. -/
structure Keyed (assembly : Assembly) (inUse scenes : List String) : Prop
    extends assembly.Consistent inUse scenes where
  unnamed : assembly.table.name? "" = none
  injective : ∀ id other name, assembly.table.name? id = some name →
    assembly.table.name? other = some name → id = other

/-- The name is in use, and it can be had through this identifier only. Through the empty one no
name can be had. -/
structure Owned (assembly : Assembly) (scenes : List String) (id name : String) : Prop where
  inUse : name ∈ assembly.recordNames scenes
  name?_iff : ∀ other, assembly.table.name? other = some name ↔ other = id ∧ id ≠ ""

theorem Keyed.owned {assembly : Assembly} {inUse scenes : List String}
    (keyed : assembly.Keyed inUse scenes) {id name : String}
    (known : assembly.table.name? id = some name) : assembly.Owned scenes id name where
  inUse := keyed.table id name known
  name?_iff := by
    intro other
    constructor
    · intro found
      refine ⟨keyed.injective other id name found known, ?_⟩
      rintro rfl
      rw [keyed.unnamed] at known
      cases known
    · rintro ⟨rfl, _⟩
      exact known

structure Grows (before after : Assembly) (scenes : List String) : Prop where
  names : before.recordNames scenes ⊆ after.recordNames scenes
  retains : ∀ id name, before.table.name? id = some name → after.table.name? id = some name
  introduced : ∀ id name, after.table.name? id = some name →
    before.table.name? id = some name ∨ name ∉ before.recordNames scenes

theorem Grows.refl (assembly : Assembly) (scenes : List String) :
    assembly.Grows assembly scenes :=
  ⟨List.Subset.refl _, fun _ _ known => known, fun _ _ known => .inl known⟩

theorem Owned.grows {before after : Assembly} {scenes : List String} {id name : String}
    (owned : before.Owned scenes id name) (growth : before.Grows after scenes) :
    after.Owned scenes id name where
  inUse := growth.names owned.inUse
  name?_iff := by
    intro other
    constructor
    · intro found
      rcases growth.introduced other name found with earlier | new
      · exact (owned.name?_iff other).mp earlier
      · exact absurd owned.inUse new
    · intro same
      exact growth.retains _ _ ((owned.name?_iff other).mpr same)

structure BringsIn (before after : Assembly) (scenes : List String) (id name : String) :
    Prop where
  fresh : name ∉ before.recordNames scenes
  unknown : before.table.name? id = none
  names : after.recordNames scenes = before.recordNames scenes ++ [name]
  table : after.table = before.table.enter id name
  sources : after.sources.length = before.sources.length + 1

theorem BringsIn.grows {before after : Assembly} {scenes : List String} {id name : String}
    (brings : before.BringsIn after scenes id name) : before.Grows after scenes where
  names := by
    rw [brings.names]
    exact List.subset_append_left _ _
  retains := by
    intro other found known
    rw [brings.table, NameTable.name?_enter, known, Option.some_or]
  introduced := by
    intro other found known
    rw [brings.table] at known
    rcases NameTable.eq_or_eq_of_name?_enter known with earlier | new
    · exact .inl earlier
    · exact .inr (new ▸ brings.fresh)

theorem BringsIn.owned {before after : Assembly} {inUse scenes : List String} {id name : String}
    (brings : before.BringsIn after scenes id name)
    (consistent : before.Consistent inUse scenes) : after.Owned scenes id name where
  inUse := by simp [brings.names]
  name?_iff := by
    intro other
    have notEarlier : before.table.name? other ≠ some name := fun found =>
      brings.fresh (consistent.table other name found)
    rw [brings.table, NameTable.name?_enter]
    constructor
    · intro found
      rcases Option.or_eq_some_iff.mp found with earlier | ⟨_, new⟩
      · exact absurd earlier notEarlier
      · split at new
        · rename_i same
          exact ⟨same.1, same.2⟩
        · cases new
    · rintro ⟨rfl, notEmpty⟩
      rw [brings.unknown, Option.none_or, if_pos ⟨rfl, notEmpty⟩]

/-- What placing an item does: nothing to the assembly if something known is shown, and otherwise
it brings in what is shown. -/
theorem Consistent.placedName_cases {assembly : Assembly} {inUse scenes : List String}
    (consistent : assembly.Consistent inUse scenes) (platform : Platform) (tag : Markup.Tag) :
    (∃ name, assembly.table.name? (sourceId tag) = some name ∧
      XSplit.placedName platform tag.attributes assembly = (some name, assembly)) ∨
    (assembly.table.name? (sourceId tag) = none ∧ ¬ IsSource tag ∧
      (XSplit.placedName platform tag.attributes assembly).2 = assembly) ∨
    (IsSource tag ∧ ∃ name next,
      XSplit.placedName platform tag.attributes assembly = (some name, next) ∧
        assembly.BringsIn next scenes (sourceId tag) name) := by
  rcases XSplit.placedName_cases platform tag.attributes assembly with
    ⟨name, known, equal⟩ | ⟨unknown, isScene, equal⟩ |
    ⟨unknown, isSource, name, roster, assignment, equal⟩
  · exact .inl ⟨name, known, equal⟩
  · refine .inr (.inl ⟨unknown, fun isSource => (isSource_iff tag).mp isSource isScene, ?_⟩)
    rw [equal]
  · refine .inr (.inr ⟨(isSource_iff tag).mpr isSource, name, _, equal, ?_⟩)
    have free : (assembly.roster.assign (wantedName tag.attributes)).1 ∉ assembly.roster.taken :=
      freeName_not_mem _ _
    rw [assignment, consistent.names.mem_taken_iff, not_or] at free
    exact ⟨free.2, unknown, by simp [recordNames, sourceRecord], rfl, by simp⟩

theorem Keyed.of_bringsIn {before after : Assembly} {inUse scenes : List String}
    {id name : String} (keyed : before.Keyed inUse scenes)
    (brings : before.BringsIn after scenes id name) (consistent : after.Consistent inUse scenes) :
    after.Keyed inUse scenes where
  toConsistent := consistent
  unnamed := by
    rw [brings.table, NameTable.name?_enter, keyed.unnamed, Option.none_or, if_neg]
    rintro ⟨rfl, notEmpty⟩
    exact notEmpty rfl
  injective := by
    have owned := brings.owned keyed.toConsistent
    intro first second found firstFound secondFound
    by_cases new : found = name
    · rw [new] at firstFound secondFound
      rw [((owned.name?_iff first).mp firstFound).1, ((owned.name?_iff second).mp secondFound).1]
    · rw [brings.table] at firstFound secondFound
      exact keyed.injective first second found
        ((NameTable.eq_or_eq_of_name?_enter firstFound).resolve_right new)
        ((NameTable.eq_or_eq_of_name?_enter secondFound).resolve_right new)

theorem Keyed.placedName {assembly : Assembly} {inUse scenes : List String}
    (keyed : assembly.Keyed inUse scenes) (platform : Platform) (tag : Markup.Tag) :
    (XSplit.placedName platform tag.attributes assembly).2.Keyed inUse scenes ∧
      assembly.Grows (XSplit.placedName platform tag.attributes assembly).2 scenes := by
  rcases keyed.toConsistent.placedName_cases platform tag with
    ⟨name, _, equal⟩ | ⟨_, _, equal⟩ | ⟨_, name, next, equal, brings⟩
  · rw [equal]
    exact ⟨keyed, .refl _ _⟩
  · rw [equal]
    exact ⟨keyed, .refl _ _⟩
  · have consistent := (keyed.toConsistent.placedName platform tag.attributes equal).1
    rw [equal]
    exact ⟨keyed.of_bringsIn brings consistent, brings.grows⟩

/-- An item that is no scene shows a name that belongs to its identifier from then on. -/
theorem Keyed.owned_placedName {assembly : Assembly} {inUse scenes : List String}
    (keyed : assembly.Keyed inUse scenes) (platform : Platform) {tag : Markup.Tag}
    (isSource : IsSource tag) :
    ∃ shown, (XSplit.placedName platform tag.attributes assembly).1 = some shown ∧
      (XSplit.placedName platform tag.attributes assembly).2.Owned scenes (sourceId tag) shown ∧
      ∀ id name, assembly.Owned scenes id name →
        (name = shown ↔ id = sourceId tag ∧ id ≠ "") := by
  rcases keyed.toConsistent.placedName_cases platform tag with
    ⟨shown, known, equal⟩ | ⟨_, isScene, _⟩ | ⟨_, shown, next, equal, brings⟩
  · refine ⟨shown, by rw [equal], by rw [equal]; exact keyed.owned known, ?_⟩
    intro id name owned
    rw [eq_comm (a := id), ← owned.name?_iff, known, Option.some_inj, eq_comm]
  · exact absurd isSource isScene
  · refine ⟨shown, by rw [equal], by rw [equal]; exact brings.owned keyed.toConsistent, ?_⟩
    intro id name owned
    constructor
    · rintro rfl
      exact absurd owned.inUse brings.fresh
    · intro same
      have known := (owned.name?_iff (sourceId tag)).mpr ⟨same.1.symm, same.2⟩
      rw [brings.unknown] at known
      cases known

/-! ## All items -/

theorem Keyed.compare_placedNames {assembly : Assembly} {inUse scenes : List String}
    (keyed : assembly.Keyed inUse scenes) (platform : Platform) {id name : String}
    (owned : assembly.Owned scenes id name) (tags : List Markup.Tag) :
    ∀ item ∈ tags.zip (placedNames platform tags assembly).1, IsSource item.1 →
      ∃ shown, item.2 = some shown ∧ (name = shown ↔ id = sourceId item.1 ∧ id ≠ "") := by
  induction tags generalizing assembly with
  | nil => simp
  | cons tag rest induction =>
      have step := keyed.placedName platform tag
      rw [placedNames_cons, List.zip_cons_cons]
      intro item member isSource
      rcases List.mem_cons.mp member with rfl | later
      · rcases keyed.owned_placedName platform isSource with ⟨shown, named, _, compares⟩
        exact ⟨shown, named, compares id name owned⟩
      · exact induction step.1 (owned.grows step.2) item later isSource

theorem Keyed.pairwise_placedNames {assembly : Assembly} {inUse scenes : List String}
    (keyed : assembly.Keyed inUse scenes) (platform : Platform) (tags : List Markup.Tag) :
    (tags.zip (placedNames platform tags assembly).1).Pairwise fun first second =>
      IsSource first.1 → IsSource second.1 →
        ∃ name shown, first.2 = some name ∧ second.2 = some shown ∧
          (name = shown ↔ sourceId first.1 = sourceId second.1 ∧ sourceId first.1 ≠ "") := by
  induction tags generalizing assembly with
  | nil => simp
  | cons tag rest induction =>
      have step := keyed.placedName platform tag
      rw [placedNames_cons, List.zip_cons_cons]
      refine List.pairwise_cons.mpr ⟨?_, induction step.1⟩
      intro second later isSource isOther
      rcases keyed.owned_placedName platform isSource with ⟨name, named, owned, _⟩
      rcases step.1.compare_placedNames platform owned rest second later isOther with
        ⟨shown, otherNamed, compares⟩
      exact ⟨name, shown, named, otherNamed, compares⟩

/-- All items with an identifier that is known show what it is known for. -/
theorem Keyed.eq_of_mem_placedNames {assembly : Assembly} {inUse scenes : List String}
    (keyed : assembly.Keyed inUse scenes) (platform : Platform) {id name : String}
    (known : assembly.table.name? id = some name) (tags : List Markup.Tag) :
    ∀ item ∈ tags.zip (placedNames platform tags assembly).1, sourceId item.1 = id →
      item.2 = some name := by
  induction tags generalizing assembly with
  | nil => simp
  | cons tag rest induction =>
      have step := keyed.placedName platform tag
      rw [placedNames_cons, List.zip_cons_cons]
      intro item member same
      rcases List.mem_cons.mp member with rfl | later
      · rw [← same] at known
        exact congrArg Prod.fst (placedName_of_known known platform)
      · exact induction step.1 (step.2.retains id name known) item later same

def newIds (table : NameTable) (tags : List Markup.Tag) : Finset String :=
  ((tags.filter IsSource).map sourceId).toFinset.filter fun id =>
    id ≠ "" ∧ table.name? id = none

def unnamedSources (tags : List Markup.Tag) : List Markup.Tag :=
  tags.filter fun tag => IsSource tag ∧ sourceId tag = ""

theorem length_unnamedSources_cons (tag : Markup.Tag) (rest : List Markup.Tag) :
    (unnamedSources (tag :: rest)).length =
      (unnamedSources rest).length + if IsSource tag ∧ sourceId tag = "" then 1 else 0 := by
  by_cases unnamed : IsSource tag ∧ sourceId tag = "" <;> simp [unnamedSources, unnamed]

theorem newIds_cons_of_not {table : NameTable} {tag : Markup.Tag}
    (nothingNew : ¬ (IsSource tag ∧ sourceId tag ≠ "" ∧ table.name? (sourceId tag) = none))
    (rest : List Markup.Tag) : newIds table (tag :: rest) = newIds table rest := by
  ext id
  by_cases isSource : IsSource tag
  · simp only [newIds, List.filter_cons, isSource, decide_true, if_true, List.map_cons,
      List.toFinset_cons, Finset.mem_filter, Finset.mem_insert]
    constructor
    · rintro ⟨rfl | member, isNew⟩
      · exact absurd ⟨isSource, isNew⟩ nothingNew
      · exact ⟨member, isNew⟩
    · exact fun later => ⟨.inr later.1, later.2⟩
  · simp [newIds, isSource]

theorem newIds_cons_of_new {table : NameTable} {tag : Markup.Tag} (isSource : IsSource tag)
    (named : sourceId tag ≠ "") (unknown : table.name? (sourceId tag) = none) (name : String)
    (rest : List Markup.Tag) :
    newIds table (tag :: rest) =
      insert (sourceId tag) (newIds (table.enter (sourceId tag) name) rest) := by
  ext id
  simp only [newIds, List.filter_cons, isSource, decide_true, if_true, List.map_cons,
    List.toFinset_cons, Finset.mem_filter, Finset.mem_insert, NameTable.name?_enter]
  by_cases same : id = sourceId tag
  · simp [same, named, unknown]
  · simp [same]

/-- Each item without an identifier brings in a source, and each new identifier brings in one. -/
theorem Keyed.length_sources_placedNames {assembly : Assembly} {inUse scenes : List String}
    (keyed : assembly.Keyed inUse scenes) (platform : Platform) (tags : List Markup.Tag) :
    (placedNames platform tags assembly).2.sources.length =
      assembly.sources.length +
        ((unnamedSources tags).length + (newIds assembly.table tags).card) := by
  induction tags generalizing assembly with
  | nil => simp [placedNames, unnamedSources, newIds]
  | cons tag rest induction =>
      have later := induction (keyed.placedName platform tag).1
      rw [placedNames_cons, length_unnamedSources_cons]
      rcases keyed.toConsistent.placedName_cases platform tag with
        ⟨name, known, equal⟩ | ⟨_, isScene, equal⟩ | ⟨isSource, name, next, equal, brings⟩
      · have named : sourceId tag ≠ "" := by
          intro empty
          rw [empty, keyed.unnamed] at known
          cases known
        rw [equal] at later ⊢
        rw [later, newIds_cons_of_not (by simp [known]), if_neg (by simp [named]), Nat.add_zero]
      · rw [equal] at later ⊢
        rw [later, newIds_cons_of_not (by simp [isScene]), if_neg (by simp [isScene]),
          Nat.add_zero]
      · rw [equal] at later ⊢
        rw [later, brings.sources, brings.table]
        by_cases empty : sourceId tag = ""
        · have same : assembly.table.enter (sourceId tag) name = assembly.table :=
            if_pos (.inl empty)
          rw [same, newIds_cons_of_not (by simp [empty]), if_pos ⟨isSource, empty⟩]
          omega
        · have gone : sourceId tag ∉ newIds (assembly.table.enter (sourceId tag) name) rest := by
            simp [newIds, NameTable.name?_enter, empty, brings.unknown]
          rw [newIds_cons_of_new isSource empty brings.unknown name,
            Finset.card_insert_of_notMem gone, if_neg (by simp [empty])]
          omega

end Assembly

/-! ## The start -/

theorem length_placementIds (inUse : List String) (root : Markup.Tag) :
    (placementIds root).length = (sceneNames inUse root).length := by
  rw [length_sceneNames, placementIds, List.length_map]

theorem name?_start (inUse : List String) (root : Markup.Tag) {id : String} (named : id ≠ "") :
    (start inUse root).table.name? id =
      (sceneNames inUse root)[(placementIds root).idxOf id]? :=
  NameTable.name?_enterAll_zip (length_placementIds inUse root) named

theorem start_keyed (inUse : List String) (root : Markup.Tag) :
    (start inUse root).Keyed inUse (sceneNames inUse root) where
  toConsistent := start_consistent inUse root
  unnamed := NameTable.name?_enterAll_unnamed _
  injective := by
    have nodup : (sceneNames inUse root).Nodup := by
      simpa [Assembly.recordNames, start] using (start_consistent inUse root).names.nodup
    intro id other name
    exact NameTable.eq_of_name?_enterAll_zip (length_placementIds inUse root) nodup

/-! ## A whole presentation -/

def shownNames (root : Markup.Tag) (collection result : Collection) : List (Option String) :=
  ((Content.presentation root).newScenes collection result).flatMap namesIn

def ownIds (root : Markup.Tag) : Finset String :=
  (((placedTags root).filter IsSource).map sourceId).toFinset.filter fun id =>
    id ≠ "" ∧ id ∉ placementIds root

theorem newIds_start (inUse : List String) (root : Markup.Tag) :
    Assembly.newIds (start inUse root).table (placedTags root) = ownIds root := by
  apply Finset.filter_congr
  intro id _
  apply and_congr_right
  intro named
  rw [name?_start inUse root named, List.getElem?_eq_none_iff, ← length_placementIds, ← not_lt,
    List.idxOf_lt_length_iff]

/-- The items of the new scenes show what the tags in the placements say. -/
structure SharesSources (root : Markup.Tag) (collection result : Collection) : Prop where
  /-- There is an item for each tag. -/
  items : (shownNames root collection result).length = (placedTags root).length
  /-- Two items that are no scenes are placed under one name exactly if they share an
  identifier. -/
  shared : ((placedTags root).zip (shownNames root collection result)).Pairwise
    fun first second => IsSource first.1 → IsSource second.1 →
      ∃ name shown, first.2 = some name ∧ second.2 = some shown ∧
        (name = shown ↔ sourceId first.1 = sourceId second.1 ∧ sourceId first.1 ≠ "")
  /-- An item with the identifier of a scene, of whatever type, shows the first such scene. -/
  scenes : ∀ item ∈ (placedTags root).zip (shownNames root collection result),
    sourceId item.1 ≠ "" → sourceId item.1 ∈ placementIds root →
      ∃ scene, ((Content.presentation root).newScenes collection result)[
          (placementIds root).idxOf (sourceId item.1)]? = some scene ∧
        item.2 = some (Collection.recordName scene)
  /-- Behind the scenes stand one source for each item without an identifier and one for each
  identifier of sources. -/
  records : (collection.newRecords result).length =
    (root.childrenOfKind "placement").length +
      (((placedTags root).filter fun tag => IsSource tag ∧ sourceId tag = "").length +
        (ownIds root).card)

theorem placed_names (setting : Setting) (inUse : List String) (root : Markup.Tag) :
    ((placed setting inUse root).1.flatMap fun scene => namesIn scene.toValue,
      (placed setting inUse root).2) =
      placedNames setting.platform (placedTags root) (start inUse root) := by
  have placements : ((sceneNames inUse root).zip (root.childrenOfKind "placement")).map Prod.snd =
      root.childrenOfKind "placement" := List.map_snd_zip (length_sceneNames inUse root).ge
  rw [placed, placeScenes_names, placedTags]
  conv => rhs; rw [← placements, List.flatMap_map]

theorem shownNames_importInto (root : Markup.Tag) (request : Request) (collection : Collection) :
    shownNames root collection ((Content.presentation root).importInto request collection) =
      (placedNames request.setting.platform (placedTags root)
        (start collection.recordNames root)).1 := by
  rw [shownNames, Content.newScenes_importInto, List.flatMap_map, ← placed_names]
  rfl

theorem length_additions (setting : Setting) (inUse : List String) (root : Markup.Tag) :
    (additions setting inUse root).records.length =
      (root.childrenOfKind "placement").length +
        ((Assembly.unnamedSources (placedTags root)).length + (ownIds root).card) := by
  have sources := (start_keyed inUse root).length_sources_placedNames setting.platform
    (placedTags root)
  rw [← placed_names, newIds_start] at sources
  rw [additions_eq, List.length_append, length_placed, sources, start, List.length_nil,
    Nat.zero_add]

theorem exists_read_of_importFile_eq_ok {request : Request} {collection result : Collection}
    (imported : importFile request collection = .ok result) :
    ∃ root, Markup.read request.input = .ok (some root) := by
  rw [importFile] at imported
  split at imported
  · cases imported
  · cases imported
  · exact ⟨_, ‹_›⟩

/-- Names that are shown stand for identifiers, and the new records are the scenes and what the
identifiers stand for. -/
theorem items_share_sources (request : Request) (collection : Collection) (root : Markup.Tag)
    (reading : Markup.read request.input = .ok (some root)) :
    ∃ result, importFile request collection = .ok result ∧
      SharesSources root collection result := by
  refine ⟨(Content.presentation root).importInto request collection, ?_, ?_, ?_, ?_, ?_⟩
  · rw [importFile, reading]
    rfl
  · rw [shownNames_importInto, length_placedNames]
  · rw [shownNames_importInto]
    exact (start_keyed _ root).pairwise_placedNames _ _
  · rw [shownNames_importInto, Content.newScenes_importInto]
    intro item member named isPlacement
    have known := name?_start collection.recordNames root named
    have within := List.idxOf_lt_length_iff.mpr isPlacement
    rw [length_placementIds collection.recordNames, ← map_name_placed request.setting,
      List.length_map] at within
    have scene := List.getElem?_eq_getElem within
    rw [← map_name_placed request.setting, List.getElem?_map, scene, Option.map_some] at known
    refine ⟨Source.Record.toValue _, ?_,
      (start_keyed _ root).eq_of_mem_placedNames _ known _ item member rfl⟩
    rw [List.getElem?_map]
    exact congrArg (Option.map Source.Record.toValue) scene
  · rw [Content.newRecords_importInto, List.length_map]
    exact length_additions request.setting collection.recordNames root

def repeatedIdsRequest : Request where
  path := ⟨"/repeated.bpres"⟩
  input := "<presentation>\n<placement name=\"Main\" id=\"1\">\n" ++
    "<item type=\"11\" srcid=\"a\"/>\n<item name=\"Cam\" srcid=\"a\"/>\n<item name=\"Cam\"/>\n" ++
    "</placement>\n<placement name=\"Main\" id=\"1\">\n" ++
    "<item srcid=\"1\"/>\n<item srcid=\"a\"/>\n<item name=\"Cam\"/>\n</placement>\n"

theorem items_share_sources_repeated_ids :
    ∃ root, Markup.read repeatedIdsRequest.input = .ok (some root) ∧
      ∃ result, importFile repeatedIdsRequest {} = .ok result ∧
        Collection.shownNames result =
          [("Main", [none, some "Cam", some "Cam 0"]),
            ("Main 0", [some "Main", some "Cam", some "Cam 1"]),
            ("Cam", []), ("Cam 0", []), ("Cam 1", [])] ∧
        SharesSources root {} result := by
  have names : (importFile repeatedIdsRequest {}).map Collection.shownNames =
      .ok [("Main", [none, some "Cam", some "Cam 0"]),
        ("Main 0", [some "Main", some "Cam", some "Cam 1"]),
        ("Cam", []), ("Cam 0", []), ("Cam 1", [])] := by
    decide +kernel
  rcases exists_of_map_eq_ok names with ⟨result, imported, resultNames⟩
  rcases exists_read_of_importFile_eq_ok imported with ⟨root, reading⟩
  rcases items_share_sources repeatedIdsRequest {} root reading with ⟨_, sameImported, shares⟩
  cases Except.ok.inj (imported.symm.trans sameImported)
  exact ⟨root, reading, result, imported, resultNames, shares⟩

end BroadcastScenes.XSplit
