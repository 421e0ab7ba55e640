import BroadcastScenes.Hotkey.Action
import BroadcastScenes.Hotkey.Key
import BroadcastScenes.Value.Fields

/-!
# Hotkey bindings

A hotkey binds key combinations to an action. In a scene collection the hotkeys of a source are
one object, with the bindings of each action under the action's name.
-/

namespace BroadcastScenes.Hotkey

structure Binding where
  control : Bool := false
  shift : Bool := false
  command : Bool := false
  alt : Bool := false
  key : String := ""
  deriving DecidableEq, Repr

def Binding.toValue (binding : Binding) : Value :=
  .object [("control", .boolean binding.control), ("shift", .boolean binding.shift),
    ("command", .boolean binding.command), ("alt", .boolean binding.alt),
    ("key", .string binding.key)]

def Binding.ofNode (node : Value) : Binding :=
  let modifiers := node.members.membersAt "modifiers"
  { control := modifiers.flagAt "ctrl"
    shift := modifiers.flagAt "shift"
    command := modifiers.flagAt "meta"
    alt := modifiers.flagAt "alt"
    key := (hostKey? (node.members.stringAt "key")).getD "" }

def bindingsOf (hotkey : Value) : List Value :=
  (hotkey.members.elementsAt "bindings").reverse.map fun node => (Binding.ofNode node).toValue

/-- Write the bindings of each hotkey under its action. A later hotkey with the same action takes
the place of an earlier one. -/
def write (owner : Option String) (hotkeys : List Value) (out : Members) : Members :=
  hotkeys.foldl
    (fun sofar hotkey =>
      sofar.insert (hostAction (hotkey.members.stringAt "actionName") owner)
        (.array (bindingsOf hotkey)))
    out

def ofContainer (container : Members) (owner : Option String) : Members :=
  write owner (container.elementsAt "items") []

end BroadcastScenes.Hotkey
