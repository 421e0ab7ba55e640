import BroadcastScenes.Collection.Basic
import BroadcastScenes.Source.Kind

/-!
# Adapting a collection to a platform

A collection may come from another platform, whose identifiers mean nothing here. Records of known
kinds get the identifier that the platform prefers. Titles keep their settings; display captures
keep them too, with the pointer flag under the platform's key. All other settings select devices
or windows of another machine and are cleared.
-/

namespace BroadcastScenes

open Source (Kind cursorKey)

def cursorKeyOfId (id : String) : String :=
  if id = "monitor_capture" then "capture_cursor" else "show_cursor"

def adaptCursor (id : String) (platform : Platform) (settings : Members) : Members :=
  match (settings.find? (cursorKeyOfId id)).bind Value.flag? with
  | some shown => settings.insert (cursorKey platform) (.boolean shown)
  | none => settings

def adaptSettings (kind : Kind) (id : String) (platform : Platform) (record : Members) : Members :=
  match kind with
  | .text => record
  | .display =>
      record.insert "settings" (.object (adaptCursor id platform (record.membersAt "settings")))
  | _ => record.insert "settings" (.object [])

def replacementId? (kind : Kind) (id : String) (platform : Platform) : Option String :=
  if kind.isNative id platform then none else kind.id? platform

def adaptRecord (platform : Platform) (record : Value) : Value :=
  let id := record.members.stringAt "id"
  match Kind.ofId? id with
  | none => record
  | some kind =>
      match replacementId? kind id platform with
      | none => record
      | some native =>
          .object (adaptSettings kind id platform (record.members.insert "id" (.string native)))

def Collection.adapt (platform : Platform) (collection : Collection) : Collection :=
  collection.withRecords (collection.records.map (adaptRecord platform))

end BroadcastScenes
