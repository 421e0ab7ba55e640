import BroadcastScenes.Importer

/-!
# Sessions

A session has one collection open and imports files into it, call by call. A call that fails says
why and leaves the collection as it was, so that the calls after it find what it found.
-/

namespace BroadcastScenes

inductive ImportCall where
  /-- The program that the file belongs to is found out. -/
  | detected (path : Path) (name : Option String)
  /-- The file is read as one of the program with this name. -/
  | named (path : Path) (programName : String) (name : Option String)
  deriving DecidableEq, Repr

abbrev ImportAnswer := Except ImportError (Option Program)

namespace Importer

def attempt (importer : Importer) (collection : Collection) :
    ImportCall → Except ImportError (Option Program × Collection)
  | .detected path name => do
      let (program, result) ← importer.importScenes path name collection
      .ok (some program, result)
  | .named path programName name => do
      let result ← importer.importScenesAs path programName name collection
      .ok (none, result)

def perform (importer : Importer) (collection : Collection) (call : ImportCall) :
    ImportAnswer × Collection :=
  match importer.attempt collection call with
  | .ok (program, result) => (.ok program, result)
  | .error error => (.error error, collection)

def performAll (importer : Importer) :
    Collection → List ImportCall → List ImportAnswer × Collection
  | collection, [] => ([], collection)
  | collection, call :: rest =>
      let (answer, next) := importer.perform collection call
      let (answers, last) := importer.performAll next rest
      (answer :: answers, last)

end Importer

end BroadcastScenes
