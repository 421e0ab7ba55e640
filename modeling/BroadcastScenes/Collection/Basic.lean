import BroadcastScenes.ImportError
import BroadcastScenes.Source.Record
import BroadcastScenes.Value.Json

/-!
# Scene collections

A scene collection is an object with a name, the records of its sources and scenes, and the current
scene. It may have other members; they are kept as they are.
-/

namespace BroadcastScenes

structure Collection where
  root : Members := []
  deriving Inhabited

namespace Collection

def ofValue? : Value → Option Collection
  | .object root => some ⟨root⟩
  | _ => none

def toValue (collection : Collection) : Value := .object collection.root

def parse (text : String) : Except ImportError Collection :=
  match Value.parse? text with
  | none => .error .json
  | some value =>
      match ofValue? value with
      | none => .error (.invalid "scene collection" "top level is not an object")
      | some collection => .ok collection

/-- The collection in a JSON text that is read member by member, so that a member that is null at
the top is an object without members. -/
def parseByMember? (text : String) : Option Collection :=
  match Json.read? text with
  | some (.object members) => some ⟨members.map fun (key, json) => (key, Value.ofJson json)⟩
  | _ => none

def json (collection : Collection) : String := collection.toValue.toJson.compact

def indentedJson (collection : Collection) : String := collection.toValue.toJson.indented

/-! ## Name and current scene -/

def name (collection : Collection) : String := collection.root.stringAt "name"

def rename (collection : Collection) (name : String) : Collection :=
  ⟨collection.root.insert "name" (.string name)⟩

def currentScene (collection : Collection) : String := collection.root.stringAt "current_scene"

def showScene (collection : Collection) (scene : String) : Collection :=
  ⟨(collection.root.insert "current_scene" (.string scene)).insert "current_program_scene"
    (.string scene)⟩

/-! ## Records -/

def records (collection : Collection) : List Value := collection.root.elementsAt "sources"

def withRecords (collection : Collection) (records : List Value) : Collection :=
  ⟨collection.root.insert "sources" (.array records)⟩

def push (collection : Collection) (record : Value) : Collection :=
  collection.withRecords (collection.records ++ [record])

def recordName (record : Value) : String := record.members.stringAt "name"

def recordNames (collection : Collection) : List String := collection.records.map recordName

def record? (collection : Collection) (name : String) : Option Value :=
  collection.records.find? fun record => recordName record == name

def scenes (collection : Collection) : List Value :=
  collection.records.filter fun record => record.members.stringAt "id" == Source.sceneId

end Collection

/-! ## Additions -/

structure Additions where
  records : List Source.Record := []
  firstScene : Option String := none

/-- The collection with additions behind its own records. Without new records the document keeps
even a `sources` member that is no array, and without a new scene it goes on showing its own. -/
def Collection.extend (collection : Collection) (additions : Additions) : Collection :=
  let extended :=
    if additions.records.isEmpty then collection
    else collection.withRecords
      (collection.records ++ additions.records.map Source.Record.toValue)
  match additions.firstScene with
  | some scene => extended.showScene scene
  | none => extended

end BroadcastScenes
