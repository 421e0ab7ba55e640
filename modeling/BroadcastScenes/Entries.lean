/-!
# Ordered entries

Members of an object are entries with a text for a key, in the order in which their keys were first
written. Writing a key again replaces its value and leaves the entry where it stands.
-/

namespace BroadcastScenes

abbrev Entries (α : Type u) := List (String × α)

namespace Entries

def find? (key : String) : Entries α → Option α
  | [] => none
  | (other, value) :: rest => if other = key then some value else find? key rest

def keys (entries : Entries α) : List String := entries.map Prod.fst

def has (key : String) (entries : Entries α) : Bool := (find? key entries).isSome

/-- Write a value under a key: in place if the key is there, and otherwise behind all entries. -/
def insert (key : String) (value : α) : Entries α → Entries α
  | [] => [(key, value)]
  | (other, old) :: rest =>
      if other = key then (key, value) :: rest else (other, old) :: insert key value rest

def insertAll (additions : Entries α) (entries : Entries α) : Entries α :=
  additions.foldl (fun sofar entry => insert entry.1 entry.2 sofar) entries

/-- The entries that writing all of these in turn leaves: of a repeated key, the first place and
the last value. -/
def ofList (additions : Entries α) : Entries α := insertAll additions []

@[simp] theorem find?_insert_self (key : String) (value : α) (entries : Entries α) :
    find? key (insert key value entries) = some value := by
  induction entries with
  | nil => simp [insert, find?]
  | cons head tail induction =>
      by_cases equal : head.1 = key
      · simp [insert, find?, equal]
      · simpa [insert, find?, equal] using induction

theorem find?_insert_of_ne {key other : String} (different : other ≠ key) (value : α)
    (entries : Entries α) : find? other (insert key value entries) = find? other entries := by
  induction entries with
  | nil => simp [insert, find?, Ne.symm different]
  | cons head tail induction =>
      by_cases equal : head.1 = key
      · simp [insert, find?, equal, Ne.symm different]
      · simp [insert, find?, equal, induction]

theorem keys_insert (key : String) (value : α) (entries : Entries α) :
    keys (insert key value entries) =
      if key ∈ keys entries then keys entries else keys entries ++ [key] := by
  induction entries with
  | nil => simp [insert, keys]
  | cons head tail induction =>
      simp only [keys, List.map_cons, List.mem_cons] at induction ⊢
      by_cases equal : head.1 = key
      · simp [insert, equal]
      · simp only [insert, equal, if_false, List.map_cons, induction, Ne.symm equal, false_or]
        by_cases present : key ∈ tail.map Prod.fst <;> simp [present]

/-- A repeated key keeps its first place and gets its last value. -/
example : ofList [("a", 1), ("b", 2), ("a", 3)] = [("a", 3), ("b", 2)] := by decide

end Entries

end BroadcastScenes
