/-!
# Hotkey actions

The names that actions of hotkeys have in a scene collection. Showing and hiding a scene item is an
action on one source, whose name becomes part of the action's name.
-/

namespace BroadcastScenes.Hotkey

structure HostAction where
  name : String
  namesOwner : Bool := false

def actions : List (String × HostAction) :=
  [("TOGGLE_SOURCE_VISIBILITY_SHOW", ⟨"libobs.show_scene_item.", true⟩),
    ("TOGGLE_SOURCE_VISIBILITY_HIDE", ⟨"libobs.hide_scene_item.", true⟩),
    ("SWITCH_TO_SCENE", ⟨"OBSBasic.SelectScene", false⟩),
    ("TOGGLE_MUTE", ⟨"libobs.mute", false⟩),
    ("TOGGLE_UNMUTE", ⟨"libobs.unmute", false⟩),
    ("PUSH_TO_MUTE", ⟨"libobs.push-to-mute", false⟩),
    ("PUSH_TO_TALK", ⟨"libobs.push-to-talk", false⟩),
    ("GAME_CAPTURE_HOTKEY_START", ⟨"hotkey_start", false⟩),
    ("GAME_CAPTURE_HOTKEY_STOP", ⟨"hotkey_stop", false⟩)]

def hostAction (action : String) (owner : Option String) : String :=
  match actions.lookup action with
  | none => ""
  | some host => if host.namesOwner then host.name ++ owner.getD "" else host.name

example : hostAction "TOGGLE_SOURCE_VISIBILITY_HIDE" (some "Cam") =
    "libobs.hide_scene_item.Cam" := by decide

end BroadcastScenes.Hotkey
