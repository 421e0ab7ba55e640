import BroadcastScenes.Collection.Adaptation
import BroadcastScenes.Program

/-!
# OBS Studio

A file of OBS Studio is a scene collection already. Importing it replaces the collection that was
open, and all there is to do is to adapt it to the platform.
-/

namespace BroadcastScenes.ObsStudio

def hasRecords (document : Members) : Bool :=
  ((document.find? "sources").map Value.isArray).getD false

def recognizes (input : String) : Bool :=
  match Value.parse? input with
  | some (.object document) => hasRecords document
  | _ => false

def collectionName? (input : String) : Option String :=
  (Value.parse? input).map fun document => document.members.stringAt "name"

def importFile (request : Request) : Except ImportError Collection := do
  let found ← Collection.parse request.input
  if hasRecords found.root then
    let named :=
      match request.name with
      | some name => found.rename name
      | none => found
    .ok (named.adapt request.setting.platform)
  else .error (.invalid Program.obsStudio.name "missing `sources` array")

end BroadcastScenes.ObsStudio
