import BroadcastScenes.Proofs.AppendingImport
import BroadcastScenes.Proofs.PlacedScenes
import BroadcastScenes.Proofs.SceneText.LinesBehind

/-!
# Scene texts one behind the other

A text that can be read leaves no block open at its end. What stands behind it is therefore read as
on its own, and its blocks are written over those that are there already. An import looks the blocks
up by their keys, so that it does not depend on which of them comes first.
-/

namespace BroadcastScenes.SceneText

/-- A text can be read if its lines leave no block open. -/
theorem read_eq_ok_iff {text : String} {content : Members} :
    read text = .ok content ↔
      (Text.numberedLines text.toList).foldlM BlockStack.step {} = .ok ⟨content, []⟩ := by
  rw [read_eq_readRows, BlockStack.readRows_eq_ok_iff]
  rfl

theorem read_append_of_ok {front back : String} {inFront : Members}
    (readFront : read front = .ok inFront)
    (ends : front.toList = [] ∨ Text.EndsLine front.toList)
    (apart : Text.KeepApart front.toList back.toList) :
    read (front ++ back) = ((read back).map fun inBack =>
      Entries.insertAll inBack inFront).mapError
        (ReadError.later (Text.lines front.toList).length) := by
  rw [read_eq_readRows] at readFront
  rw [read_eq_readRows (front ++ back), read_eq_readRows back, String.toList_append,
    Text.lines_append_of_endsLine ends apart, BlockStack.readRows_append_of_ok readFront]

theorem read_append {front back : String} {inFront inBack : Members}
    (readFront : read front = .ok inFront) (readBack : read back = .ok inBack)
    (ends : Text.EndsLine front.toList) (apart : Text.KeepApart front.toList back.toList) :
    read (front ++ back) = .ok (Entries.insertAll inBack inFront) := by
  rw [read_append_of_ok readFront (.inr ends) apart, readBack]
  rfl

/-- A text behind another one that can be read gives its own blocks, written over those in front, or
its own error, as many lines further down as there are in front. -/
theorem texts_are_read_in_turn {front back : String} {inFront : Members}
    (readFront : read front = .ok inFront)
    (ends : front.toList = [] ∨ Text.EndsLine front.toList)
    (apart : Text.KeepApart front.toList back.toList) :
    (∀ inBack, read back = .ok inBack →
      read (front ++ back) = .ok (Entries.insertAll inBack inFront)) ∧
    (∀ error, read back = .error error →
      read (front ++ back) = .error (error.later (Text.lines front.toList).length)) := by
  have joined := read_append_of_ok readFront ends apart
  constructor
  · intro inBack readBack
    rw [joined, readBack]
    rfl
  · intro error fails
    rw [joined, fails]
    rfl

def oldScene : String := "scenes : \x7b\nOld : \x7b\n\x7d\n\x7d\nglobal sources : \x7b\n\x7d\r"

theorem texts_are_read_in_turn_old_scene :
    read (oldScene ++ "scenes : \x7b\r\nNew : \x7b\r\n\x7d\r\n\x7d") = .ok
      [("scenes", .array [.object [("name", .string "New")]]), ("globals", .array [])] ∧
    read (oldScene ++ "scenes : \x7b\nNew : \x7b\nno value\n") =
      .error (.missingColon 9 "no value") := by
  have old : read oldScene = .ok
      [("scenes", .array [.object [("name", .string "Old")]]), ("globals", .array [])] := by
    rw [read_eq_readRows]
    rfl
  have new : read "scenes : \x7b\r\nNew : \x7b\r\n\x7d\r\n\x7d" = .ok
      [("scenes", .array [.object [("name", .string "New")]])] := by
    rw [read_eq_readRows]
    rfl
  have broken : read "scenes : \x7b\nNew : \x7b\nno value\n" =
      .error (.missingColon 3 "no value") := by
    rw [read_eq_readRows]
    rfl
  exact ⟨(texts_are_read_in_turn old (by decide) fun _ => by decide).1 _ new,
    (texts_are_read_in_turn old (by decide) fun _ => by decide).2 _ broken⟩

end BroadcastScenes.SceneText

namespace BroadcastScenes

/-- An import sees the shared entries and the scenes of a text, wherever they stand in it. -/
theorem ObsClassic.additions_congr {platform : Platform} {present : List String}
    {left right : Members} (shared : left.elementsAt "globals" = right.elementsAt "globals")
    (scenes : left.elementsAt "scenes" = right.elementsAt "scenes") :
    additions platform present left = additions platform present right := by
  rw [additions, additions, shared, scenes]

theorem ObsClassic.importFile_with_input {input : String} {blocks : Members}
    (reading : SceneText.read input = .ok blocks) (request : Request) (collection : Collection) :
    Program.obsClassic.importFile { request with input := input } collection =
      .ok ((Content.sceneText blocks).importInto request collection) :=
  @importFile_of_read { request with input := input } blocks reading collection

/-- The block of shared entries may stand in front of the scenes that refer to them or behind. -/
theorem shared_block_may_stand_behind {shared scenes : String} {entries inScenes : Value}
    (readShared : SceneText.read shared = .ok [("globals", entries)])
    (readScenes : SceneText.read scenes = .ok [("scenes", inScenes)])
    (sharedEnds : Text.EndsLine shared.toList) (scenesEnd : Text.EndsLine scenes.toList)
    (sharedStart : shared.toList.head? ≠ some '\n') (scenesStart : scenes.toList.head? ≠ some '\n')
    (request : Request) (collection : Collection) :
    ∃ result,
      Program.obsClassic.importFile { request with input := shared ++ scenes } collection =
        .ok result ∧
      Program.obsClassic.importFile { request with input := scenes ++ shared } collection =
        .ok result := by
  have sharedFirst : SceneText.read (shared ++ scenes) =
      .ok [("globals", entries), ("scenes", inScenes)] := by
    rw [SceneText.read_append readShared readScenes sharedEnds fun _ => scenesStart]
    simp [Entries.insertAll, Entries.insert]
  have scenesFirst : SceneText.read (scenes ++ shared) =
      .ok [("scenes", inScenes), ("globals", entries)] := by
    rw [SceneText.read_append readScenes readShared scenesEnd fun _ => sharedStart]
    simp [Entries.insertAll, Entries.insert]
  have same : (Content.sceneText [("scenes", inScenes), ("globals", entries)]).importInto
      request collection = (Content.sceneText [("globals", entries),
        ("scenes", inScenes)]).importInto request collection := by
    apply Content.importInto_sceneText_congr
    apply ObsClassic.additions_congr <;> simp [Members.elementsAt, Entries.find?]
  refine ⟨_, ObsClassic.importFile_with_input sharedFirst request collection, ?_⟩
  rw [ObsClassic.importFile_with_input scenesFirst request collection, same]

def sharedCapture : String :=
  "global sources : \x7b\nCam : \x7b\nclass : DeviceCapture\n\x7d\n\x7d\n"

def referringScene : String :=
  "scenes : \x7b\nMain : \x7b\nsources : \x7b\nCam : \x7b\nclass : GlobalSource\n\x7d\n" ++
    "\x7d\r\x7d\r\x7d\r"

theorem shared_block_may_stand_behind_referring_scene :
    let request : Request := { path := ⟨"/cam.xconfig"⟩, input := "" }
    ∃ result,
      Program.obsClassic.importFile
        { request with input := sharedCapture ++ referringScene } {} = .ok result ∧
      Program.obsClassic.importFile
        { request with input := referringScene ++ sharedCapture } {} = .ok result ∧
      result.shownNames = [("Cam", []), ("Main", [some "Cam"])] := by
  intro request
  have capture : SceneText.read sharedCapture = .ok [("globals", .array [.object
      [("class", .string "DeviceCapture"), ("name", .string "Cam")]])] := by
    rw [SceneText.read_eq_ok_iff]
    rfl
  have scene : SceneText.read referringScene = .ok [("scenes", .array [.object
      [("sources", .array [.object [("class", .string "GlobalSource"), ("name", .string "Cam")]]),
        ("name", .string "Main")]])] := by
    rw [SceneText.read_eq_ok_iff]
    rfl
  rcases shared_block_may_stand_behind capture scene (by decide) (by decide) (by decide) (by decide)
    request {} with ⟨result, captureFirst, sceneFirst⟩
  have names : (Program.obsClassic.importFile
      { request with input := referringScene ++ sharedCapture } {}).map Collection.shownNames =
        .ok [("Cam", []), ("Main", [some "Cam"])] := by
    decide +kernel
  rw [sceneFirst] at names
  exact ⟨result, captureFirst, sceneFirst, Except.ok.inj names⟩

end BroadcastScenes
