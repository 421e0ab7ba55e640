import BroadcastScenes.Collection.Adaptation
import BroadcastScenes.Decimal.Word
import BroadcastScenes.Hotkey.Binding
import BroadcastScenes.Naming
import BroadcastScenes.Program

/-!
# Streamlabs

A file of Streamlabs is a tree of JSON nodes. Sources and scenes are kept in containers and refer
to each other by identifiers. The name of the collection is kept in another file beside it.
-/

namespace BroadcastScenes.Streamlabs

def rootType : String := "RootNode"

def unknownName : String := "Unknown Streamlabs Import"

def manifestFile : String := "manifest.json"

def isRoot (value : Value) : Bool := value.members.stringAt "nodeType" == rootType

def recognizes (input : String) : Bool :=
  match Value.parse? input with
  | some value => isRoot value
  | none => false

def manifestName? (path : Path) (disk : Disk) : Option String := do
  let directory ← path.parent?
  let text ← disk.text? (directory.join manifestFile)
  let manifest ← Value.parse? text
  let entry ← (manifest.members.elementsAt "collections").find? fun entry =>
    entry.members.stringAt "id" == path.stem
  some (entry.members.stringAt "name")

def collectionName (path : Path) (disk : Disk) : String :=
  (manifestName? path disk).getD unknownName

/-! ## Records -/

def syncOffset (offset : Members) : Int64 :=
  let seconds := Decimal.clampWord ((offset.integerAt "sec").toInt * 1000000000)
  Decimal.clampWord (seconds.toInt + (offset.integerAt "nsec").toInt)

def filterRecord (filter : Value) : Value :=
  filter.put "id" (.string (filter.members.textAt "type"))

def baseRecord (node : Members) (name id : String) : Source.Record :=
  { name := name
    id := id
    settings := node.membersAt "settings"
    filters := some ((node.itemsAt "filters").map filterRecord)
    hotkeys := some (Hotkey.ofContainer (node.membersAt "hotkeys") none)
    sync := some (syncOffset (node.membersAt "syncOffset"))
    volume := some (node.doubleAt "volume")
    muted := some (node.flagAt "muted")
    monitoring := some (node.integerAt "monitoringType") }

def sourceRecord (node : Members) (name : String) : Source.Record :=
  baseRecord node name (node.stringAt "type")

def sceneItem (table : NameTable) (number : Nat) (node : Members) : Scene.Item :=
  { id := Int64.ofNat number
    name := table.name? (node.stringAt "sourceId")
    position := ⟨node.doubleAt "x", node.doubleAt "y"⟩
    extent := .scale ⟨node.doubleAt "scaleX", node.doubleAt "scaleY"⟩
    rotation := some (node.doubleAt "rotation")
    crop := some (Scene.Crop.ofMembers (node.membersAt "crop"))
    visible := node.flagAt "visible" }

def sceneItems (table : NameTable) (number : Nat) : List Value → List Scene.Item
  | [] => []
  | node :: rest => sceneItem table number node.members :: sceneItems table (number + 1) rest

def writeItemHotkeys (table : NameTable) (hotkeys : Members) (item : Value) : Members :=
  Hotkey.write (table.name? (item.members.stringAt "sourceId"))
    (item.members.itemsAt "hotkeys") hotkeys

def sceneRecord (table : NameTable) (node : Members) (name : String) : Source.Record :=
  let items := node.itemsAt "sceneItems"
  let scene : Source.Record :=
    { baseRecord node name Source.sceneId with
      settings := []
      hotkeys := some (items.foldl (writeItemHotkeys table)
        (Hotkey.ofContainer (node.membersAt "hotkeys") none))
      privateSettings := some [] }
  scene.withItems (sceneItems table 0 items)

/-! ## Trees -/

/-- What a tree adds to a collection in which these names are in use. Sources come last one first,
and scenes after them in order. Every record has its name before an item is looked at, so that
items and hotkeys follow each renaming. -/
def additions (inUse : List String) (root : Members) : Additions :=
  let sources := (root.itemsAt "sources").reverse.map Value.members
  let scenes := (root.itemsAt "scenes").map Value.members
  let (names, _) := (Roster.mk inUse).assignAll ((sources ++ scenes).map (·.stringAt "name"))
  let table := NameTable.enterAll {} (((sources ++ scenes).map (·.stringAt "id")).zip names)
  let sourceNames := names.take sources.length
  let sceneNames := names.drop sources.length
  { records := List.zipWith sourceRecord sources sourceNames ++
      List.zipWith (sceneRecord table) scenes sceneNames
    firstScene := sceneNames.head? }

def importFile (request : Request) (collection : Collection) : Except ImportError Collection :=
  match Value.parse? request.input with
  | none => .error .json
  | some root =>
      if isRoot root then
        let extended := collection.extend (additions collection.recordNames root.members)
        let named := extended.rename (request.name.getD (collectionName request.path request.disk))
        .ok (named.adapt request.setting.platform)
      else
        .error (.invalid Program.streamlabs.name "top-level nodeType is not RootNode")

def installedFiles (machine : Machine) : List Path :=
  if machine.platform = .linux then []
  else
    match machine.userDirectory? ["slobs-client", "SceneCollections"] with
    | some directory => machine.filesWithExtension directory "json" [manifestFile]
    | none => []

end BroadcastScenes.Streamlabs
