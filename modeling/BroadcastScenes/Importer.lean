import BroadcastScenes.ObsClassic.Import
import BroadcastScenes.ObsStudio.Import
import BroadcastScenes.Streamlabs.Import
import BroadcastScenes.XSplit.Import

/-!
# Importing files

An importer knows which programs to consider, for what setting to import, and where files are. It
finds out which program a file belongs to, and brings the content of files into a collection. What
an import gives is either the new collection or an error; it never gives a part of a file.
-/

namespace BroadcastScenes

namespace Program

def recognizes : Program → String → Bool
  | .obsStudio => ObsStudio.recognizes
  | .xsplitBroadcaster => XSplit.recognizes
  | .streamlabs => Streamlabs.recognizes
  | .obsClassic => ObsClassic.recognizes

def collectionName? (program : Program) (path : Path) (input : String) (disk : Disk) :
    Option String :=
  match program with
  | .obsStudio => ObsStudio.collectionName? input
  | .xsplitBroadcaster => some XSplit.defaultName
  | .streamlabs => some (Streamlabs.collectionName path disk)
  | .obsClassic => some path.stem

def importFile (program : Program) (request : Request) (collection : Collection) :
    Except ImportError Collection :=
  match program with
  | .obsStudio => ObsStudio.importFile request
  | .xsplitBroadcaster => XSplit.importFile request collection
  | .streamlabs => Streamlabs.importFile request collection
  | .obsClassic => ObsClassic.importFile request collection

def installedFiles : Program → Machine → List Path
  | .obsStudio => fun _ => []
  | .xsplitBroadcaster => XSplit.installedFiles
  | .streamlabs => Streamlabs.installedFiles
  | .obsClassic => ObsClassic.installedFiles

end Program

structure Importer where
  programs : List Program := Program.all
  setting : Setting := {}
  disk : Disk := {}
  userRoot : Option Path := none
  sharedRoot : Option Path := none

namespace Importer

def machine (importer : Importer) : Machine where
  platform := importer.setting.platform
  disk := importer.disk
  userRoot := importer.userRoot
  sharedRoot := importer.sharedRoot

def dropByteOrderMark (text : String) : String :=
  match text.toList with
  | '\uFEFF' :: rest => String.ofList rest
  | _ => text

def read (importer : Importer) (path : Path) : Except ImportError String :=
  match importer.disk.contents? path with
  | none => .error (.fileNotFound path)
  | some (.unreadable reason) => .error (.fileWontOpen path reason)
  | some (.text text) => .ok (dropByteOrderMark text)

def has (importer : Importer) (program : Program) : Bool := importer.programs.contains program

def detectInput? (importer : Importer) (input : String) : Option Program :=
  importer.programs.find? fun program => program.recognizes input

def recognize (importer : Importer) (path : Path) (input : String) : Except ImportError Program :=
  match importer.detectInput? input with
  | some program => .ok program
  | none => .error (.fileNotRecognized path)

def detect (importer : Importer) (path : Path) : Except ImportError Program := do
  let input ← importer.read path
  importer.recognize path input

def program (importer : Importer) (name : String) : Except ImportError Program := do
  let program ← Program.ofName name
  if importer.has program then .ok program else .error (.unknownProgram name)

def collectionName (importer : Importer) (path : Path) (program : Program) :
    Except ImportError String := do
  if importer.has program then
    let input ← importer.read path
    .ok ((program.collectionName? path input importer.disk).getD "")
  else .error (.unknownProgram program.name)

def request (importer : Importer) (path : Path) (input : String) (name : Option String) :
    Request where
  path := path
  input := input
  name := name
  setting := importer.setting
  disk := importer.disk

def importScenes (importer : Importer) (path : Path) (name : Option String)
    (collection : Collection) : Except ImportError (Program × Collection) := do
  let input ← importer.read path
  let program ← importer.recognize path input
  let result ← program.importFile (importer.request path input name) collection
  .ok (program, result)

def importScenesAs (importer : Importer) (path : Path) (programName : String)
    (name : Option String) (collection : Collection) : Except ImportError Collection := do
  let input ← importer.read path
  let program ← importer.program programName
  program.importFile (importer.request path input name) collection

def importNew (importer : Importer) (path : Path) (name : Option String) :
    Except ImportError Collection :=
  (importer.importScenes path name {}).map Prod.snd

def installedFiles (importer : Importer) : List Path :=
  importer.programs.flatMap fun program => program.installedFiles importer.machine

end Importer

def Status.ofResult : Except ImportError α → Status
  | .ok _ => .success
  | .error error => error.status

end BroadcastScenes
