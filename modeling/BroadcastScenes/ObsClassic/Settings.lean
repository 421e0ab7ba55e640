import BroadcastScenes.FieldCopy
import BroadcastScenes.Source.Setup
import BroadcastScenes.Text.Base64
import BroadcastScenes.Text.Utf8
import BroadcastScenes.Value.Json

/-!
# Sources of OBS Classic

An entry of a scene names its class and holds the settings of that class in a block of its own.
Most of them are copied by tables; this module has the tables and what does not fit into one.
-/

namespace BroadcastScenes.ObsClassic

open Source (Setup cursorKey fileEntry)

inductive EntryClass where
  /-- A reference to an entry that all scenes share. -/
  | shared
  | text
  | monitor
  | image
  | imageSeries
  | window
  | browser
  | device
  | game
  | other
  deriving DecidableEq, Repr

def EntryClass.ofName (name : String) : EntryClass :=
  ([("GlobalSource", .shared), ("TextSource", .text), ("MonitorCaptureSource", .monitor),
    ("BitmapImageSource", .image), ("BitmapTransitionSource", .imageSeries),
    ("WindowCaptureSource", .window), ("CLRBrowserSource", .browser), ("DeviceCapture", .device),
    ("GraphicsCapture", .game)].lookup name).getD .other

def textFields : List FieldCopy :=
  [⟨"text", "text", .text⟩, ⟨"color", "color", .color⟩, ⟨"backgroundColor", "bk_color", .color⟩,
    ⟨"backgroundOpacity", "bk_opacity", .integer⟩, ⟨"vertical", "vertical", .isOne⟩,
    ⟨"textOpacity", "opacity", .integer⟩, ⟨"useOutline", "outline", .isOne⟩,
    ⟨"outlineColor", "outline_color", .color⟩, ⟨"outlineOpacity", "outline_opacity", .integer⟩,
    ⟨"useTextExtents", "extents", .isOne⟩, ⟨"extentsWidth", "extents_cx", .integer⟩,
    ⟨"extentsHeight", "extents_cy", .integer⟩, ⟨"mode", "read_from_file", .isOne⟩,
    ⟨"wrap", "extents_wrap", .isOne⟩, ⟨"file", "file", .path⟩]

def browserFields : List FieldCopy :=
  [⟨"CSS", "css", .text⟩, ⟨"Height", "height", .integer⟩, ⟨"Width", "width", .integer⟩,
    ⟨"Url", "url", .text⟩]

def fontSettings (data : Members) : Members :=
  let traits : FontTraits :=
    { bold := data.isOneAt "bold"
      italic := data.isOneAt "italic"
      underline := data.isOneAt "underline" }
  [("flags", .integer traits.flags), ("size", .integer (data.integerAt "fontSize")),
    ("face", .string (data.textAt "font")), ("style", .string traits.style)]

def alignment (code : Int64) : String :=
  if code = 0 then "left" else if code = 1 then "center" else "right"

def textSettings (data : Members) : Members :=
  ((FieldCopy.run textFields data []).insert "align"
    (.string (alignment (data.integerAt "align")))).insert "font" (.object (fontSettings data))

/-- The files of a series of images. A single file is kept alone, several ones in an array; an
element that is an object is an entry already. -/
def seriesFiles (data : Members) : List Value :=
  match data.find? "bitmap" with
  | some (.array paths) =>
      paths.map fun path => if path.isObject then path else fileEntry path.text
  | some path => [fileEntry path.text]
  | none => [fileEntry ""]

def browserData (encoded : String) : Members :=
  match Text.Base64.decode? (Text.trim encoded.toList) with
  | none => []
  | some bytes =>
      ((Value.parse? (String.ofList (Text.Utf8.decode bytes))).map Value.members).getD []

def monitorSettings (platform : Platform) (data : Members) : Members :=
  let monitor : Members :=
    if platform = .windows then [("monitor", .integer (data.integerAt "monitor"))] else []
  monitor.insert (cursorKey platform) (.boolean (data.isOneAt "captureMouse"))

def windowSettings (data : Members) : Members :=
  [("window", .string (data.textAt "window" ++ ":" ++ data.textAt "windowClass" ++ ":")),
    ("priority", .integer 0)]

def deviceSettings (data : Members) : Members :=
  let measure (key : String) : String :=
    String.ofList (Decimal.integerText (data.integerAt key).toInt)
  [("video_device_id",
      .string (data.textAt "deviceName" ++ ":" ++ data.textAt "deviceID")),
    ("resolution",
      .string (measure "resolutionWidth" ++ "x" ++ measure "resolutionHeight"))]

def gameSettings (data : Members) : Members :=
  [("capture_mode", .string (if data.isOneAt "useHotkey" then "hotkey" else "window")),
    ("window", .string (":" ++ data.textAt "windowClass" ++ ":" ++ data.textAt "executable")),
    ("capture_cursor", .boolean (data.isOneAt "captureMouse"))]

/-- What an entry of a class becomes, unless the platform has no such source. A class that is not
known, and a reference that leads nowhere, keep their place without settings. -/
def setup? (platform : Platform) (entryClass : EntryClass) (data : Members) : Option Setup :=
  let onWindows (settings : Members) : Members := if platform = .windows then settings else []
  match entryClass with
  | .text => Setup.ofKind? .text platform (textSettings data)
  | .monitor => Setup.ofKind? .display platform (monitorSettings platform data)
  | .image => some ⟨"image_source", FieldCopy.run [⟨"path", "file", .path⟩] data []⟩
  | .imageSeries => some ⟨"slideshow", [("files", .array (seriesFiles data))]⟩
  | .window => Setup.ofKind? .window platform (onWindows (windowSettings data))
  | .browser =>
      some ⟨"browser_source",
        FieldCopy.run browserFields (browserData (data.stringAt "sourceSettings")) []⟩
  | .device => Setup.ofKind? .videoDevice platform (onWindows (deviceSettings data))
  | .game => Setup.ofKind? .game platform (onWindows (gameSettings data))
  | .shared => some ⟨"", []⟩
  | .other => some ⟨"", []⟩

end BroadcastScenes.ObsClassic
