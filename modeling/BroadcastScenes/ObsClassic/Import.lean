import BroadcastScenes.Naming
import BroadcastScenes.ObsClassic.Settings
import BroadcastScenes.Program
import BroadcastScenes.SceneText.Reader

/-!
# OBS Classic

A file of OBS Classic is a scene text. Scenes list their entries from top to bottom, while scene
collections list items from bottom to top. Entries may refer to entries that all scenes share, or
to records that the collection had before.
-/

namespace BroadcastScenes.ObsClassic

def recognizes (input : String) : Bool :=
  "scenes : \x7b\r\n".toList.isPrefixOf input.toList

/-- What has been assigned so far: names in use, the names that shared entries were given, the last
of them first, and the records to be added, in order. -/
structure Assembly where
  roster : Roster
  shared : List (String × String) := []
  records : List Source.Record := []

inductive Outcome where
  /-- A source that is there already is shown again. -/
  | existing (name : String)
  | new (record : Source.Record)
  /-- The platform has no such source. -/
  | unsupported

/-- The name of the record that a reference leads to: that of a shared entry, or else that of a
record in the collection, among those that it had and those that the file has added. -/
def referent? (present : List String) (assembly : Assembly) (name : String) : Option String :=
  match assembly.shared.lookup name with
  | some assigned => some assigned
  | none =>
      if present.contains name || assembly.records.any (·.name == name) then some name else none

/-- What becomes of an entry in a collection that had these names, and the names in use then. Only
an entry that becomes a record takes up a name. -/
def outcome (platform : Platform) (present : List String) (assembly : Assembly) (entry : Members) :
    Outcome × Roster :=
  let entryClass := EntryClass.ofName (entry.stringAt "class")
  let name := entry.stringAt "name"
  let referent := if entryClass = .shared then referent? present assembly name else none
  match referent with
  | some assigned => (.existing assigned, assembly.roster)
  | none =>
      match setup? platform entryClass (entry.membersAt "data") with
      | none => (.unsupported, assembly.roster)
      | some setup =>
          let (assigned, roster) := assembly.roster.assign name
          (.new { name := assigned, id := setup.id, settings := setup.settings }, roster)

/-- Take up a shared entry. It counts as shared only when it brings in a record. -/
def addShared (platform : Platform) (present : List String) (assembly : Assembly)
    (entry : Members) : Assembly :=
  match outcome platform present assembly entry with
  | (.new record, roster) =>
      { roster := roster
        shared := (entry.stringAt "name", record.name) :: assembly.shared
        records := assembly.records ++ [record] }
  | (_, roster) => { assembly with roster := roster }

def sceneItem (entry : Members) (name : String) (number : Nat) : Scene.Item :=
  { id := Int64.ofNat number
    name := some name
    position := ⟨entry.doubleAt "x", entry.doubleAt "y"⟩
    extent := .bounds ⟨entry.doubleAt "cx", entry.doubleAt "cy"⟩ Scene.stretched
    crop := some
      { top := entry.integerAt "crop.top"
        bottom := entry.integerAt "crop.bottom"
        left := entry.integerAt "crop.left"
        right := entry.integerAt "crop.right" }
    visible := true }

def placeEntries (platform : Platform) (present : List String) :
    List Value → List Scene.Item → Assembly → List Scene.Item × Assembly
  | [], items, assembly => (items, assembly)
  | entry :: rest, items, assembly =>
      let place (name : String) : List Scene.Item :=
        sceneItem entry.members name (items.length + 1) :: items
      match outcome platform present assembly entry.members with
      | (.existing name, roster) =>
          placeEntries platform present rest (place name) { assembly with roster := roster }
      | (.new record, roster) =>
          placeEntries platform present rest (place record.name)
            { assembly with roster := roster, records := assembly.records ++ [record] }
      | (.unsupported, roster) =>
          placeEntries platform present rest items { assembly with roster := roster }

def addScene (platform : Platform) (present : List String) (assembly : Assembly)
    (scene : Members) : String × Assembly :=
  let (name, roster) := assembly.roster.assign (scene.stringAt "name")
  let (items, placed) := placeEntries platform present (scene.elementsAt "sources") []
    { assembly with roster := roster }
  let record := (Source.Record.scene name).withItems items
  (name, { placed with records := placed.records ++ [record] })

def addScenes (platform : Platform) (present : List String) :
    List Value → Assembly → List String × Assembly
  | [], assembly => ([], assembly)
  | scene :: rest, assembly =>
      let (name, next) := addScene platform present assembly scene.members
      let (names, last) := addScenes platform present rest next
      (name :: names, last)

/-- What a scene text adds to a collection that has these names. Shared entries come first. -/
def additions (platform : Platform) (present : List String) (content : Members) : Additions :=
  let start : Assembly := { roster := ⟨present⟩ }
  let withShared := ((content.elementsAt "globals").map Value.members).foldl
    (addShared platform present) start
  let (names, last) := addScenes platform present (content.elementsAt "scenes") withShared
  { records := last.records, firstScene := names.head? }

def importFile (request : Request) (collection : Collection) : Except ImportError Collection :=
  match SceneText.read request.input with
  | .error error => .error (.conversion error)
  | .ok content =>
      let extended := collection.extend
        (additions request.setting.platform collection.recordNames content)
      .ok (extended.rename (request.name.getD request.path.stem))

def installedFiles (machine : Machine) : List Path :=
  if machine.platform = .windows then
    match machine.userDirectory? ["OBS", "sceneCollection"] with
    | some directory => machine.filesWithExtension directory "xconfig" []
    | none => []
  else []

end BroadcastScenes.ObsClassic
