import BroadcastScenes.Platform

/-!
# Kinds of sources

The same source, such as a display capture or a microphone, has a different identifier on each
platform. A kind gathers the identifiers that belong together.
-/

namespace BroadcastScenes.Source

inductive Kind where
  | text
  | display
  | window
  | game
  | videoDevice
  | audioInput
  | audioOutput
  deriving DecidableEq, Repr

namespace Kind

def all : List Kind := [.text, .display, .window, .game, .videoDevice, .audioInput, .audioOutput]

def name : Kind → String
  | .text => "Text"
  | .display => "Display"
  | .window => "Window"
  | .game => "Game"
  | .videoDevice => "VideoDevice"
  | .audioInput => "AudioInput"
  | .audioOutput => "AudioOutput"

/-- The identifiers that a platform has for a kind, the preferred one first. Linux has no game
capture, and two audio systems. -/
def nativeIds : Kind → Platform → List String
  | .text, .windows => ["text_gdiplus"]
  | .text, .macOS => ["text_ft2_source"]
  | .text, .linux => ["text_ft2_source"]
  | .display, .windows => ["monitor_capture"]
  | .display, .macOS => ["display_capture"]
  | .display, .linux => ["xshm_input"]
  | .window, .windows => ["window_capture"]
  | .window, .macOS => ["window_capture"]
  | .window, .linux => ["xcomposite_input"]
  | .game, .windows => ["game_capture"]
  | .game, .macOS => ["syphon-input"]
  | .game, .linux => []
  | .videoDevice, .windows => ["dshow_input"]
  | .videoDevice, .macOS => ["av_capture_input"]
  | .videoDevice, .linux => ["v4l2_input"]
  | .audioInput, .windows => ["wasapi_input_capture"]
  | .audioInput, .macOS => ["coreaudio_input_capture"]
  | .audioInput, .linux => ["pulse_input_capture", "alsa_input_capture"]
  | .audioOutput, .windows => ["wasapi_output_capture"]
  | .audioOutput, .macOS => ["coreaudio_output_capture"]
  | .audioOutput, .linux => ["pulse_output_capture", "jack_output_capture"]

def id? (kind : Kind) (platform : Platform) : Option String := (kind.nativeIds platform).head?

def isNative (kind : Kind) (id : String) (platform : Platform) : Bool :=
  (kind.nativeIds platform).contains id

def ofId? (id : String) : Option Kind :=
  all.find? fun kind => Platform.all.any fun platform => kind.isNative id platform

theorem mem_all (kind : Kind) : kind ∈ all := by cases kind <;> decide

theorem isNative_of_id? {kind : Kind} {platform : Platform} {id : String}
    (preferred : kind.id? platform = some id) : kind.isNative id platform = true :=
  List.contains_iff_mem.mpr (List.mem_of_head? preferred)

/-- No identifier belongs to two kinds, so every native identifier gives back its kind. -/
theorem ofId?_of_isNative {kind : Kind} {id : String} {platform : Platform}
    (native : kind.isNative id platform = true) : ofId? id = some kind := by
  cases kind <;> cases platform <;>
    simp only [isNative, nativeIds, List.contains_cons, List.contains_nil, Bool.or_false,
      Bool.or_eq_true, beq_iff_eq, Bool.false_eq_true] at native
  all_goals first
    | (rcases native with equal | equal <;> subst equal <;> decide)
    | (subst native; decide)

end Kind

def cursorKey : Platform → String
  | .windows => "capture_cursor"
  | .macOS => "show_cursor"
  | .linux => "show_cursor"

end BroadcastScenes.Source
