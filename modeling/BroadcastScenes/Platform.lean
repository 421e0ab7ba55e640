import BroadcastScenes.Text.LowerCase

/-!
# Platforms

The operating systems that a scene collection can be made for. They differ in the identifiers of
the sources that capture screens, windows and devices.
-/

namespace BroadcastScenes

inductive Platform where
  | windows
  | macOS
  | linux
  deriving DecidableEq, Repr, Inhabited

namespace Platform

def all : List Platform := [.windows, .macOS, .linux]

def name : Platform → String
  | .windows => "windows"
  | .macOS => "macos"
  | .linux => "linux"

def ofName? (name : String) : Option Platform := all.find? fun platform => platform.name == name

def ofCommonName? (text : String) : Option Platform :=
  match String.ofList (Text.lowerAscii text.toList) with
  | "windows" => some .windows
  | "win32" => some .windows
  | "macos" => some .macOS
  | "darwin" => some .macOS
  | "osx" => some .macOS
  | "linux" => some .linux
  | _ => none

def unknownMessage (text : String) : String :=
  "unknown platform: " ++ String.ofList (Text.lowerAscii text.toList)

theorem mem_all (platform : Platform) : platform ∈ all := by cases platform <;> decide

example : ofCommonName? "Darwin" = some .macOS := by decide

end Platform

end BroadcastScenes
