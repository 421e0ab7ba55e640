/-!
# Names in use

Items refer to sources by name, so the names of a scene collection have to be different. A name
that is taken gets the least free number behind it. Files refer to sources by identifiers of their
own instead; a table keeps the name that each identifier was given.
-/

namespace BroadcastScenes

def numbered (name : String) (number : Nat) : String :=
  name ++ " " ++ String.ofList (Nat.toDigits 10 number)

/-- The name itself if it is free, and otherwise with the least number that makes it free. Of the
numbers below the count of taken names one is free, since the taken name itself has no number. -/
def freeName (taken : List String) (name : String) : String :=
  if taken.contains name then
    match (List.range taken.length).find? fun number => !taken.contains (numbered name number) with
    | some number => numbered name number
    | none => numbered name taken.length
  else name

example : freeName ["Cam", "Cam 0"] "Cam" = "Cam 1" := by decide +kernel

structure Roster where
  taken : List String
  deriving Repr

namespace Roster

def assign (roster : Roster) (name : String) : String × Roster :=
  let assigned := freeName roster.taken name
  (assigned, ⟨assigned :: roster.taken⟩)

def assignAll (roster : Roster) : List String → List String × Roster
  | [] => ([], roster)
  | name :: rest =>
      let (assigned, later) := roster.assign name
      let (others, last) := later.assignAll rest
      (assigned :: others, last)

end Roster

structure NameTable where
  entries : List (String × String) := []
  deriving Repr

namespace NameTable

def name? (table : NameTable) (id : String) : Option String := table.entries.lookup id

/-- Give a name to an identifier. The empty identifier stands for none, and an identifier keeps the
first name that it was given. -/
def enter (table : NameTable) (id name : String) : NameTable :=
  if id = "" ∨ (table.name? id).isSome then table else ⟨table.entries ++ [(id, name)]⟩

def enterAll (table : NameTable) (entries : List (String × String)) : NameTable :=
  entries.foldl (fun sofar entry => sofar.enter entry.1 entry.2) table

def size (table : NameTable) : Nat := table.entries.length

end NameTable

end BroadcastScenes
