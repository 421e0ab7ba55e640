import BroadcastScenes.Collection.Basic
import BroadcastScenes.Disk
import BroadcastScenes.Setting

/-!
# Programs

The applications whose files can be imported, and what an import of a file is given.
-/

namespace BroadcastScenes

inductive Program where
  | obsStudio
  | xsplitBroadcaster
  | streamlabs
  | obsClassic
  deriving DecidableEq, Repr

namespace Program

def all : List Program := [.obsStudio, .xsplitBroadcaster, .streamlabs, .obsClassic]

def name : Program → String
  | .obsStudio => "OBSStudio"
  | .xsplitBroadcaster => "XSplitBroadcaster"
  | .streamlabs => "Streamlabs"
  | .obsClassic => "OBSClassic"

def extensions : Program → List String
  | .obsStudio => ["json"]
  | .xsplitBroadcaster => ["bpres"]
  | .streamlabs => ["json"]
  | .obsClassic => ["xconfig"]

def ofName (name : String) : Except ImportError Program :=
  match all.find? fun program => program.name == name with
  | some program => .ok program
  | none => .error (.unknownProgram name)

def allExtensions : List String := (all.flatMap extensions).eraseDups

theorem mem_all (program : Program) : program ∈ all := by cases program <;> decide

theorem ofName_name (program : Program) : ofName program.name = .ok program := by
  cases program <;> rfl

example : allExtensions = ["json", "bpres", "xconfig"] := by decide

end Program

/-- A file to import. Its text has been read; the disk is for files that lie beside it. -/
structure Request where
  path : Path
  input : String
  /-- The name that the collection is given, in place of the one that the file suggests. -/
  name : Option String := none
  setting : Setting := {}
  disk : Disk := {}

end BroadcastScenes
