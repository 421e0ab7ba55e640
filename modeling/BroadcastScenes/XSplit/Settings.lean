import BroadcastScenes.Appearance
import BroadcastScenes.Decimal.Leading
import BroadcastScenes.Markup.Reader
import BroadcastScenes.Source.Setup
import BroadcastScenes.Text.Entities
import BroadcastScenes.Text.LowerCase
import BroadcastScenes.Text.Slashes
import BroadcastScenes.Value.Fields
import BroadcastScenes.Value.Json

/-!
# Sources of XSplit Broadcaster

An item of a presentation holds its source in its attributes. The number in the attribute `type`
tells what kind of source it is, and the attribute `item` holds most of the rest: a file, an
address, a marked-up tag, or the options of a plugin.
-/

namespace BroadcastScenes.XSplit

open Source (Setup cursorKey fileEntry)

inductive ItemType where
  | media
  | device
  | image
  | capture
  | game
  | page
  | scene
  | other
  deriving DecidableEq, Repr

def ItemType.ofCode (code : Int64) : ItemType :=
  if code = 1 then .media
  else if code = 2 then .device
  else if code = 4 then .image
  else if code = 5 then .capture
  else if code = 7 then .game
  else if code = 8 then .page
  else if code = 11 then .scene
  else .other

/-! ## Media, devices and captures -/

def playlistFiles (playlist : String) : List Value :=
  (playlist.toList.splitOn '|').map fun entry => fileEntry (String.ofList (Text.upTo '*' entry))

/-- A playlist, a network stream, or a media file. An address starts with a scheme; what follows a
backslash in it is not part of it. -/
def mediaSetup (attributes : Members) : Setup :=
  let playlist := attributes.textAt "FilePlaylist"
  if playlist ≠ "" then
    let loop : Members :=
      if attributes.integerAt "OpWhenFinished" = 2 then [("loop", .boolean true)] else []
    ⟨"vlc_source", ("playlist", .array (playlistFiles playlist)) :: loop⟩
  else
    let address := attributes.textAt "item"
    match Text.cutAtRun? "://".toList address.toList with
    | some (scheme, _) =>
        if scheme = "smlndi".toList then ⟨"ndi_source", []⟩
        else
          ⟨"ffmpeg_source",
            [("input", .string (String.ofList (Text.upTo '\\' address.toList))),
              ("is_local_file", .boolean false)]⟩
    | none =>
        ⟨"ffmpeg_source",
          [("local_file", .string (Text.forwardSlashes address)), ("is_local_file", .boolean true)]⟩

def deviceStart : List Char := "\x7b0.0.1.00000000\x7d.".toList

def deviceSettings (audio : String) : Members :=
  match Text.cutAtRun? "\\wave:".toList audio.toList with
  | some (_, device) =>
      [("device_id", .string (String.ofList (Text.lowerCase (deviceStart ++ device))))]
  | none => []

def deviceSetup? (platform : Platform) (attributes : Members) : Option Setup :=
  let audio := attributes.textAt "itemaudio"
  if audio = "" then Setup.ofKind? .videoDevice platform []
  else Setup.ofKind? .audioInput platform (if platform = .windows then deviceSettings audio else [])

def innerAttributes (attributes : Members) : Members :=
  match Markup.read (Text.decodeEntities (attributes.textAt "item")) with
  | .ok (some tag) => tag.attributes
  | _ => []

def windowSettings (options : Members) : Members :=
  let windowClass := if options.textAt "class" = "" then "class" else options.textAt "class"
  let program := String.ofList (Text.afterLast '\\' (options.textAt "module").toList)
  [("window", .string (options.textAt "window" ++ ":" ++ windowClass ++ ":" ++ program)),
    ("priority", .integer 2)]

def captureSetup? (platform : Platform) (attributes : Members) : Option Setup :=
  let options := innerAttributes attributes
  if options.textAt "desktop" ≠ "" then
    Setup.ofKind? .display platform
      [(cursorKey platform, .boolean (attributes.isOneAt "ScrCapShowMouse"))]
  else Setup.ofKind? .window platform (if platform = .windows then windowSettings options else [])

def gameSettings (options : Members) : Members :=
  [("window", .string (options.textAt "wndname" ++ "::" ++ options.textAt "imagename")),
    ("capture_mode", .string "window")]

def gameSetup? (platform : Platform) (attributes : Members) : Option Setup :=
  Setup.ofKind? .game platform
    (if platform = .windows then gameSettings (innerAttributes attributes) else [])

/-! ## Plugins and web pages -/

def slideshowPlugin : String := "html:plugin:imageslideshowplg*"

def titlePlugin : String := "html:plugin:titleplg*"

/-- The options of a plugin: JSON behind the first asterisk, kept with entities and with
backslashes in its paths. Options that cannot be read count as none. -/
def pluginOptions (plugin : String) : Members :=
  match Text.cutAt? '*' plugin.toList with
  | none => []
  | some (_, options) =>
      let text := Text.forwardSlashes
        (Text.collapseSlashes (Text.decodeEntities (String.ofList options)))
      ((Value.parse? text).map Value.members).getD []

def slideTime (delay : Int64) : Int64 :=
  Decimal.clampWord ((Decimal.clampWord (delay.toInt * 1000)).toInt + 700)

def slideshowSettings (options : Members) : Members :=
  [("randomize", .boolean (options.flagAt "random")),
    ("slide_time", .integer (slideTime (options.integerAt "delay"))),
    ("files", .array ((options.elementsAt "images").map fun image => fileEntry image.text))]

def outlineSize? (outline : String) : Option Int64 :=
  [("thinner", 5), ("thin", 10), ("thick", 20), ("thicker", 40)].lookup outline

def hexInteger? (text : List Char) : Option Int64 := do
  let (negative, digits) := Decimal.cutSign text
  if digits.isEmpty then none
  else
    let values ← digits.mapM Json.hexDigit?
    let magnitude : Nat := values.foldl (fun sofar digit => sofar * 16 + digit) 0
    Decimal.exactWord? (if negative then -(magnitude : Int) else magnitude)

def hexColor (text : String) : Int64 :=
  let digits :=
    match text.toList with
    | '#' :: rest => rest
    | rest => rest
  match hexInteger? digits with
  | some rgb => opaqueColor rgb
  | none => opaqueAlpha

def titleSettings (options : Members) : Members :=
  let outline : Members :=
    match outlineSize? (options.stringAt "outline") with
    | some size => [("outline", .boolean true), ("outline_size", .integer size)]
    | none => []
  let vertical := options.stringAt "vertAlign"
  [("text", .string (options.textAt "text"))] ++ outline ++
    [("outline_color", .integer (hexColor (options.stringAt "outlineColor"))),
      ("color", .integer (hexColor (options.stringAt "color"))),
      ("align", .string (options.textAt "textAlign")),
      ("valign", .string (if vertical = "middle" then "center" else vertical)),
      ("opacity", .integer (options.integerAt "alpha")),
      ("font", .object [("face", .string (options.textAt "fontStyle")), ("size", .integer 200)])]

def startsWith (start text : String) : Bool := start.toList.isPrefixOf text.toList

/-- A slideshow, a title, or a web page, whose address ends at an asterisk. Other plugins have no
counterpart. -/
def pageSetup? (platform : Platform) (plugin : String) : Option Setup :=
  if startsWith slideshowPlugin plugin then
    some ⟨"slideshow", slideshowSettings (pluginOptions plugin)⟩
  else if startsWith titlePlugin plugin then
    Setup.ofKind? .text platform (titleSettings (pluginOptions plugin))
  else if startsWith "html" plugin then none
  else some ⟨"browser_source", [("url", .string (String.ofList (Text.upTo '*' plugin.toList)))]⟩

def setup? (platform : Platform) (attributes : Members) : Option Setup :=
  match ItemType.ofCode (attributes.integerAt "type") with
  | .media => some (mediaSetup attributes)
  | .device => deviceSetup? platform attributes
  | .image =>
      some ⟨"image_source", [("file", .string (Text.forwardSlashes (attributes.textAt "item")))]⟩
  | .capture => captureSetup? platform attributes
  | .game => gameSetup? platform attributes
  | .page => pageSetup? platform (attributes.textAt "item")
  | .scene => none
  | .other => none

example : slideTime 5 = 5700 := by decide

example : hexColor "#112233" = 0xFF112233 := by decide +kernel

end BroadcastScenes.XSplit
