import BroadcastScenes.Scene.Item

/-!
# Records

The entries of a scene collection: sources and scenes. A scene is a record too, with its items
among its settings.
-/

namespace BroadcastScenes.Source

/-- A source or scene. What a file does not supply is left out. -/
structure Record where
  name : String
  id : String
  settings : Members := []
  filters : Option (List Value) := none
  hotkeys : Option Members := none
  /-- The delay of the sound in nanoseconds. -/
  sync : Option Int64 := none
  volume : Option Float := none
  muted : Option Bool := none
  monitoring : Option Int64 := none
  privateSettings : Option Members := none

def sceneId : String := "scene"

namespace Record

open Scene.Item (optional)

def scene (name : String) : Record := { name := name, id := sceneId }

def isScene (record : Record) : Bool := record.id == sceneId

def withItems (record : Record) (items : List Scene.Item) : Record :=
  { record with
    settings := (record.settings.insert "items" (.array (items.map Scene.Item.toValue))).insert
      "id_counter" (.integer (Int64.ofNat items.length)) }

def toMembers (record : Record) : Members :=
  [("name", .string record.name), ("id", .string record.id),
    ("settings", .object record.settings)] ++
  optional "filters" .array record.filters ++
  optional "hotkeys" .object record.hotkeys ++
  optional "sync" .integer record.sync ++
  optional "volume" .double record.volume ++
  optional "muted" .boolean record.muted ++
  optional "monitoring_type" .integer record.monitoring ++
  optional "private_settings" .object record.privateSettings

def toValue (record : Record) : Value := .object record.toMembers

end Record

end BroadcastScenes.Source
