import BroadcastScenes.Path
import BroadcastScenes.Platform

/-!
# Disks and the places of files

A disk holds files and directories under the exact text of their paths. Applications keep their
files below two roots: one for each user and one for the whole machine.
-/

namespace BroadcastScenes

inductive Contents where
  | text (text : String)
  | unreadable (reason : String)
  deriving DecidableEq, Repr

structure Disk where
  files : List (Path × Contents) := []
  directories : List (Path × List Path) := []
  deriving Inhabited

namespace Disk

def contents? (disk : Disk) (path : Path) : Option Contents := disk.files.lookup path

def holds (disk : Disk) (path : Path) : Bool := (disk.contents? path).isSome

def text? (disk : Disk) (path : Path) : Option String :=
  match disk.contents? path with
  | some (.text text) => some text
  | _ => none

def listing (disk : Disk) (directory : Path) : List Path :=
  (disk.directories.lookup directory).getD []

end Disk

structure Machine where
  platform : Platform := .linux
  disk : Disk := {}
  /-- Where applications keep what belongs to a user. -/
  userRoot : Option Path := none
  /-- Where applications keep what belongs to the machine. -/
  sharedRoot : Option Path := none
  deriving Inhabited

namespace Machine

def below (root : Path) (segments : List String) : Path := segments.foldl Path.join root

def userDirectory? (machine : Machine) (segments : List String) : Option Path :=
  machine.userRoot.map (below · segments)

def sharedDirectory? (machine : Machine) (segments : List String) : Option Path :=
  machine.sharedRoot.map (below · segments)

def isWanted (extension : String) (excluded : List String) (path : Path) : Bool :=
  match path.fileName? with
  | none => false
  | some name =>
      name.head? != some '.' && !excluded.contains (String.ofList name) &&
        path.extension? == some extension.toList

def filesWithExtension (machine : Machine) (directory : Path) (extension : String)
    (excluded : List String) : List Path :=
  ((machine.disk.listing directory).filter (isWanted extension excluded)).mergeSort Path.atMost

def namedFile? (machine : Machine) (directory : Path) (name : String) : Option Path :=
  let path := directory.join name
  if machine.disk.holds path then some path else none

end Machine

end BroadcastScenes
