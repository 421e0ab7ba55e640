import BroadcastScenes.Entries

/-!
# Values

The tree that all file formats are read into and that scene collections are made of. It has no
null: what is absent is simply not there.
-/

namespace BroadcastScenes

/-- A node of the tree. The members of an object keep the order in which they were first
written. -/
inductive Value where
  | string (text : String)
  | integer (number : Int64)
  | double (number : Float)
  | boolean (flag : Bool)
  | object (members : List (String × Value))
  | array (elements : List Value)
  deriving BEq, Repr

abbrev Members := Entries Value

namespace Value

/-- A value that nothing is known of is the object without members. -/
instance : Inhabited Value := ⟨.object []⟩

def members : Value → Members
  | .object members => members
  | _ => []

def elements : Value → List Value
  | .array elements => elements
  | _ => []

def asObject (value : Value) : Value := .object value.members

def asArray (value : Value) : Value := .array value.elements

def isObject : Value → Bool
  | .object _ => true
  | _ => false

def isArray : Value → Bool
  | .array _ => true
  | _ => false

def member? (value : Value) (key : String) : Option Value := value.members.find? key

def put (value : Value) (key : String) (member : Value) : Value :=
  .object (value.members.insert key member)

def push (value element : Value) : Value := .array (value.elements ++ [element])

def changeAt? (change : Value → Option Value) : List String → Value → Option Value
  | [], value => change value
  | key :: keys, value => do
      let inner ← value.member? key
      let changed ← changeAt? change keys inner
      some (value.put key changed)

/-- Writing a member of a text makes an object with that member only. -/
example : (Value.string "x").put "k" (.boolean true) = .object [("k", .boolean true)] := rfl

end Value

end BroadcastScenes
