import BroadcastScenes.ObsClassic.Settings
import BroadcastScenes.Proofs.SceneText.WrittenLines
import BroadcastScenes.XSplit.Settings

/-!
# Written paths

A scene text holds each backslash of a path twice, and a presentation holds it once. In the end both
paths are written with slashes. The pairs that are taken from the left are the backslashes of the
path, so that a run of backslashes becomes as many slashes, wherever it stands.
-/

namespace BroadcastScenes

namespace Text

def doubled (c : Char) : List Char := if c = '\\' then ['\\', '\\'] else [c]

def doubleBackslashes (path : String) : String := String.ofList (path.toList.flatMap doubled)

theorem collapsePairs_doubled_append (c : Char) (rest : List Char) :
    collapsePairs (doubled c ++ rest) = (if c = '\\' then '/' else c) :: collapsePairs rest := by
  by_cases backslash : c = '\\'
  · rw [doubled, if_pos backslash, if_pos backslash]
    rfl
  · rw [doubled, if_neg backslash, if_neg backslash, List.singleton_append, collapsePairs]
    intro _ equal
    exact absurd equal backslash

/-- A path starts as it did when its backslashes are doubled. -/
theorem head?_doubleBackslashes (path : String) :
    (doubleBackslashes path).toList.head? = path.toList.head? := by
  rw [doubleBackslashes, String.toList_ofList]
  cases path.toList with
  | nil => rfl
  | cons first rest =>
      rw [List.flatMap_cons, doubled]
      split
      · rename_i backslash
        rw [backslash]
        rfl
      · rfl

theorem collapsePairs_flatMap_doubled (path : List Char) :
    collapsePairs (path.flatMap doubled) = path.map fun c => if c = '\\' then '/' else c := by
  induction path with
  | nil => rfl
  | cons first rest induction =>
      rw [List.flatMap_cons, collapsePairs_doubled_append, induction, List.map_cons]

theorem collapseSlashes_doubleBackslashes (path : String) :
    collapseSlashes (doubleBackslashes path) = forwardSlashes path := by
  rw [collapseSlashes, doubleBackslashes, String.toList_ofList, collapsePairs_flatMap_doubled]
  rfl

theorem collapseSlashes_forwardSlashes (path : String) :
    collapseSlashes (forwardSlashes path) = forwardSlashes path := by
  have noBackslash : '\\' ∉ (forwardSlashes path).toList := by
    rw [forwardSlashes, String.toList_ofList, List.mem_map]
    rintro ⟨c, _, equal⟩
    split at equal
    · exact absurd equal (by decide)
    · contradiction
  rw [collapseSlashes, SceneText.collapsePairs_of_noPair, String.ofList_toList]
  exact fun pair => noBackslash (pair.subset List.mem_cons_self)

end Text

namespace SceneText

theorem scalar_of_isText {first : Char}
    (isText : Text.isLetter first = true ∨ first = '\\' ∨ first = '/') (rest : List Char) :
    scalar (' ' :: first :: rest) =
      .string (String.ofList (Text.collapsePairs (first :: rest))) := by
  have notSpace : (first == ' ') = false := by
    rcases isText with letter | rfl | rfl
    · rw [beq_eq_false_iff_ne]
      rintro rfl
      exact absurd letter (by decide)
    · rfl
    · rfl
  have marked : (Text.isLetter first || first == '\\' || first == '/') = true := by
    simpa [or_assoc] using isText
  have content : (' ' :: first :: rest).dropWhile (· == ' ') = first :: rest := by
    rw [List.dropWhile_cons_of_pos rfl, List.dropWhile_cons_of_neg (by simp [notSpace])]
  rw [scalar, content]
  dsimp only
  rw [if_pos marked]

end SceneText

open Text (doubleBackslashes forwardSlashes)

/-- What may stand behind the colon of a line for a path: the path between quotes, or without them
if its first character tells that it is a text. -/
inductive IsPathValue (path : String) : List Char → Prop
  | quoted : IsPathValue path (' ' :: '"' :: ((doubleBackslashes path).toList ++ ['"']))
  | bare {first : Char} (starts : path.toList.head? = some first)
      (isText : Text.isLetter first = true ∨ first = '\\' ∨ first = '/') :
      IsPathValue path (' ' :: (doubleBackslashes path).toList)

theorem IsPathValue.scalar_eq {path : String} {written : List Char}
    (isValue : IsPathValue path written) :
    SceneText.scalar written = .string (forwardSlashes path) := by
  have collapsed := Text.collapseSlashes_doubleBackslashes path
  rw [Text.collapseSlashes] at collapsed
  cases isValue with
  | quoted => simp [SceneText.scalar, Text.isLetter, collapsed]
  | @bare first starts isText =>
      have sameStart : (doubleBackslashes path).toList.head? = some first := by
        rw [Text.head?_doubleBackslashes, starts]
      rcases List.head?_eq_some_iff.mp sameStart with ⟨rest, split⟩
      rw [split, SceneText.scalar_of_isText isText, ← split, collapsed]

theorem ObsClassic.setup?_image (platform : Platform) (data : Members) :
    setup? platform .image data =
      some ⟨"image_source", [("file", .string (Text.collapseSlashes (data.textAt "path")))]⟩ := rfl

theorem XSplit.setup?_of_image {attributes : Members}
    (isImage : ItemType.ofCode (attributes.integerAt "type") = .image) (platform : Platform) :
    setup? platform attributes =
      some ⟨"image_source", [("file", .string (forwardSlashes (attributes.textAt "item")))]⟩ := by
  rw [setup?, isImage]

/-- A path comes out the same from a scene text, where its backslashes are doubled, and from a
presentation, where they are not: each of them becomes one slash. The sources of images have the
same file then. -/
theorem doubled_paths_become_plain_paths (path : String) :
    Text.collapseSlashes (doubleBackslashes path) = forwardSlashes path ∧
      ∀ written, IsPathValue path written →
        SceneText.scalar written = .string (forwardSlashes path) ∧
          ∀ (platform : Platform) (data attributes : Members),
            data.find? "path" = some (SceneText.scalar written) →
            attributes.find? "item" = some (.string path) →
            XSplit.ItemType.ofCode (attributes.integerAt "type") = .image →
            ObsClassic.setup? platform .image data = XSplit.setup? platform attributes ∧
              XSplit.setup? platform attributes =
                some ⟨"image_source", [("file", .string (forwardSlashes path))]⟩ := by
  refine ⟨Text.collapseSlashes_doubleBackslashes path, ?_⟩
  intro written isValue
  refine ⟨isValue.scalar_eq, ?_⟩
  intro platform data attributes inData inAttributes isImage
  have dataPath : data.textAt "path" = forwardSlashes path := by
    rw [Members.textAt, inData, isValue.scalar_eq]
    rfl
  have itemPath : attributes.textAt "item" = path := by
    rw [Members.textAt, inAttributes]
    rfl
  -- The value was collapsed when it was read, and the source collapses it once more.
  rw [ObsClassic.setup?_image, XSplit.setup?_of_image isImage, dataPath, itemPath,
    Text.collapseSlashes_forwardSlashes]
  exact ⟨rfl, rfl⟩

def sharePath : String := "\\\\host\\\\\\img\\a.png"

theorem doubled_paths_become_plain_paths_share :
    IsPathValue sharePath (' ' :: (doubleBackslashes sharePath).toList) ∧
      XSplit.ItemType.ofCode
        (Members.integerAt [("type", .integer 4), ("item", .string sharePath)] "type") = .image ∧
      doubleBackslashes sharePath = "\\\\\\\\host\\\\\\\\\\\\img\\\\a.png" ∧
      ObsClassic.setup? .windows .image
          [("path", SceneText.scalar (' ' :: (doubleBackslashes sharePath).toList))] =
        some ⟨"image_source", [("file", .string "//host///img/a.png")]⟩ := by
  have isValue : IsPathValue sharePath (' ' :: (doubleBackslashes sharePath).toList) :=
    .bare rfl (.inr (.inl rfl))
  have same := ((doubled_paths_become_plain_paths sharePath).2 _ isValue).2 .windows
    [("path", SceneText.scalar (' ' :: (doubleBackslashes sharePath).toList))]
    [("type", .integer 4), ("item", .string sharePath)] rfl rfl (by decide)
  refine ⟨isValue, by decide, by decide, same.1.trans (same.2.trans ?_)⟩
  have file : forwardSlashes sharePath = "//host///img/a.png" := by decide
  rw [file]

end BroadcastScenes
