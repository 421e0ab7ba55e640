import BroadcastScenes.Proofs.NestedRecords
import BroadcastScenes.Proofs.ObsClassic.AddedRecords
import BroadcastScenes.Proofs.Streamlabs.Tree
import BroadcastScenes.Proofs.XSplit.AddedRecords

/-!
# How deeply added records nest

The records that a presentation adds nest to a fixed depth, and those that a tree adds less deeply
than the tree. Only a scene text can add records of any depth, because the images of a series are
taken over as they are.
-/

namespace BroadcastScenes

open Value (Fits MembersFit ListedFit fits_object_iff fits_array_iff)

/-! ## Trees -/

namespace Hotkey

theorem Binding.fits_toValue (binding : Binding) : binding.toValue.Fits 1 := by
  have members : ListedFit 0 ["control", "shift", "command", "alt", "key"]
      [("control", .boolean binding.control), ("shift", .boolean binding.shift),
        ("command", .boolean binding.command), ("alt", .boolean binding.alt),
        ("key", .string binding.key)] :=
    (((((ListedFit.nil []).cons (Value.fits_string _ _)).cons (Value.fits_boolean _ _)).cons
      (Value.fits_boolean _ _)).cons (Value.fits_boolean _ _)).cons (Value.fits_boolean _ _)
  exact fits_object_iff.mpr (members.membersFit (by decide))

theorem membersFit_write (room : Nat) (owner : Option String) (hotkeys : List Value)
    {out : Members} (fits : MembersFit (room + 2) out) :
    MembersFit (room + 2) (write owner hotkeys out) := by
  induction hotkeys generalizing out with
  | nil => exact fits
  | cons hotkey rest induction =>
      apply induction
      apply fits.insert
      rw [fits_array_iff]
      intro value member
      rcases List.mem_map.mp member with ⟨node, _, rfl⟩
      exact (Binding.ofNode node).fits_toValue.mono (Nat.le_add_left _ _)

end Hotkey

namespace Streamlabs

theorem fits_filterRecord {room : Nat} {filter : Value} (fits : filter.Fits (room + 1)) :
    (filterRecord filter).Fits (room + 1) :=
  fits_object_iff.mpr (fits.membersFit.insert "id" (Value.fits_string _ _))

theorem partsFit_baseRecord {room : Nat} {node : Members} (fits : MembersFit (room + 4) node)
    (name id : String) : (baseRecord node name id).PartsFit (room + 3) := by
  refine ⟨fits.membersAt "settings", ?_, ?_, ?_⟩
  · intro filters equal
    obtain rfl := Option.some.inj equal
    intro filter member
    rcases List.mem_map.mp member with ⟨own, inNode, rfl⟩
    exact (fits_filterRecord (fits.itemsAt "filters" own inNode)).mono (Nat.le_succ _)
  · intro hotkeys equal
    obtain rfl := Option.some.inj equal
    exact Hotkey.membersFit_write (room + 1) _ _ .nil
  · intro settings equal
    cases equal

theorem membersFit_itemHotkeys (room : Nat) (table : NameTable) (items : List Value)
    {hotkeys : Members} (fits : MembersFit (room + 2) hotkeys) :
    MembersFit (room + 2) (items.foldl (writeItemHotkeys table) hotkeys) := by
  induction items generalizing hotkeys with
  | nil => exact fits
  | cons item rest induction => exact induction (Hotkey.membersFit_write room _ _ fits)

theorem partsFit_sceneRecord {room : Nat} {node : Members} (fits : MembersFit (room + 4) node)
    (table : NameTable) (name : String) : (sceneRecord table node name).PartsFit (room + 3) := by
  have base := partsFit_baseRecord fits name Source.sceneId
  apply Source.Record.PartsFit.withItems
  refine ⟨.nil, base.filters, ?_, ?_⟩
  · intro hotkeys equal
    obtain rfl := Option.some.inj equal
    exact membersFit_itemHotkeys (room + 1) table _ (base.hotkeys _ rfl)
  · intro settings equal
    obtain rfl := Option.some.inj equal
    exact .nil

theorem fits_of_mem_additions {room : Nat} {root : Members} (fits : MembersFit (room + 7) root)
    {inUse : List String} {record : Source.Record}
    (member : record ∈ (additions inUse root).records) : record.toValue.Fits (room + 5) := by
  have nodesFit : ∀ key, ∀ node ∈ (root.itemsAt key).map Value.members,
      MembersFit (room + 4) node := by
    intro key node inNodes
    rcases List.mem_map.mp inNodes with ⟨value, inItems, rfl⟩
    exact (fits.itemsAt key value inItems).membersFit
  rw [additions_eq] at member
  rcases List.mem_append.mp member with isSource | isScene
  · rcases exists_of_mem_of_forall₂ (forall₂_sourceRecords inUse root) isSource with
      ⟨node, inNodes, name, rfl⟩
    have nodeFits := nodesFit "sources" node (by simpa [sourceNodes] using inNodes)
    exact (partsFit_baseRecord nodeFits name _).fits_toValue
  · rcases exists_of_mem_of_forall₂ (forall₂_sceneRecords inUse root) isScene with
      ⟨node, inNodes, name, rfl⟩
    exact (partsFit_sceneRecord (nodesFit "scenes" node inNodes) _ name).fits_toValue

end Streamlabs

/-! ## Sources of presentations -/

namespace Source

theorem fits_fileEntry (path : String) : (fileEntry path).Fits 1 :=
  fits_object_iff.mpr (((ListedFit.nil []).cons (Value.fits_string _ path)).membersFit (by decide))

theorem fits_fileEntries {room : Nat} {files : List Value}
    (entries : ∀ file ∈ files, ∃ path, file = fileEntry path) :
    (Value.array files).Fits (room + 2) := by
  rw [fits_array_iff]
  intro file member
  rcases entries file member with ⟨path, rfl⟩
  exact (fits_fileEntry path).mono (Nat.le_add_left _ _)

theorem Setup.settings_of_ofKind? {kind : Kind} {platform : Platform} {settings : Members}
    {setup : Setup} (found : Setup.ofKind? kind platform settings = some setup) :
    setup.settings = settings := by
  rcases Option.map_eq_some_iff.mp found with ⟨id, _, rfl⟩
  rfl

end Source

namespace XSplit

theorem membersFit_mediaSetup (attributes : Members) :
    MembersFit 3 (mediaSetup attributes).settings := by
  rw [mediaSetup]
  dsimp only
  split
  · have playlist : (Value.array (playlistFiles (attributes.textAt "FilePlaylist"))).Fits 3 := by
      apply Source.fits_fileEntries
      intro file member
      rcases List.mem_map.mp member with ⟨entry, _, rfl⟩
      exact ⟨_, rfl⟩
    have loop : ListedFit 3 ["loop"]
        (if attributes.integerAt "OpWhenFinished" = 2 then [("loop", .boolean true)] else []) := by
      split
      · exact (ListedFit.nil []).cons (Value.fits_boolean _ _)
      · exact .nil _
    exact (loop.cons playlist).membersFit (by decide)
  · split
    · split
      · exact .nil
      · exact (((ListedFit.nil []).cons (Value.fits_boolean _ _)).cons
          (Value.fits_string _ _)).membersFit (by decide)
    · exact (((ListedFit.nil []).cons (Value.fits_boolean _ _)).cons
        (Value.fits_string _ _)).membersFit (by decide)

theorem membersFit_deviceSettings (audio : String) : MembersFit 3 (deviceSettings audio) := by
  rw [deviceSettings]
  split
  · exact MembersFit.single _ (Value.fits_string _ _)
  · exact .nil

theorem membersFit_windowSettings (options : Members) : MembersFit 3 (windowSettings options) :=
  (((ListedFit.nil []).cons (Value.fits_integer _ _)).cons (Value.fits_string _ _)).membersFit
    (by decide)

theorem membersFit_gameSettings (options : Members) : MembersFit 3 (gameSettings options) :=
  (((ListedFit.nil []).cons (Value.fits_string _ _)).cons (Value.fits_string _ _)).membersFit
    (by decide)

theorem membersFit_slideshowSettings (options : Members) :
    MembersFit 3 (slideshowSettings options) := by
  have files : (Value.array ((options.elementsAt "images").map fun image =>
      Source.fileEntry image.text)).Fits 3 := by
    apply Source.fits_fileEntries
    intro file member
    rcases List.mem_map.mp member with ⟨image, _, rfl⟩
    exact ⟨_, rfl⟩
  exact ((((ListedFit.nil []).cons files).cons (Value.fits_integer _ _)).cons
    (Value.fits_boolean _ _)).membersFit (by decide)

theorem membersFit_titleSettings (options : Members) : MembersFit 3 (titleSettings options) := by
  have text : ListedFit 3 ["text"] [("text", .string (options.textAt "text"))] :=
    (ListedFit.nil []).cons (Value.fits_string _ _)
  have font : (Value.object [("face", .string (options.textAt "fontStyle")),
      ("size", .integer 200)]).Fits 3 :=
    fits_object_iff.mpr ((((ListedFit.nil []).cons (Value.fits_integer _ _)).cons
      (Value.fits_string _ _)).membersFit (by decide))
  have others : ListedFit 3
      ["outline_color", "color", "align", "valign", "opacity", "font"] _ :=
    ((((((ListedFit.nil []).cons font).cons
      (Value.fits_integer _ (options.integerAt "alpha"))).cons (Value.fits_string _
        (if options.stringAt "vertAlign" = "middle" then "center"
          else options.stringAt "vertAlign"))).cons
      (Value.fits_string _ (options.textAt "textAlign"))).cons
      (Value.fits_integer _ (hexColor (options.stringAt "color")))).cons
      (Value.fits_integer _ (hexColor (options.stringAt "outlineColor")))
  suffices outline : ListedFit 3 ["outline", "outline_size"] _ from
    ((text.append outline).append others).membersFit (by decide)
  split
  · exact ((ListedFit.nil []).cons (Value.fits_integer _ _)).cons (Value.fits_boolean _ _)
  · exact .nil _

theorem membersFit_setup? {platform : Platform} {attributes : Members} {setup : Source.Setup}
    (found : setup? platform attributes = some setup) : MembersFit 3 setup.settings := by
  unfold setup? at found
  split at found
  · obtain rfl := Option.some.inj found
    exact membersFit_mediaSetup attributes
  · rw [deviceSetup?] at found
    split at found
    · rw [Source.Setup.settings_of_ofKind? found]
      exact .nil
    · rw [Source.Setup.settings_of_ofKind? found]
      split
      · exact membersFit_deviceSettings _
      · exact .nil
  · obtain rfl := Option.some.inj found
    exact MembersFit.single _ (Value.fits_string _ _)
  · rw [captureSetup?] at found
    split at found
    · rw [Source.Setup.settings_of_ofKind? found]
      exact MembersFit.single _ (Value.fits_boolean _ _)
    · rw [Source.Setup.settings_of_ofKind? found]
      split
      · exact membersFit_windowSettings _
      · exact .nil
  · rw [Source.Setup.settings_of_ofKind? found]
    split
    · exact membersFit_gameSettings _
    · exact .nil
  · rw [pageSetup?] at found
    split at found
    · obtain rfl := Option.some.inj found
      exact membersFit_slideshowSettings _
    · split at found
      · rw [Source.Setup.settings_of_ofKind? found]
        exact membersFit_titleSettings _
      · split at found
        · cases found
        · obtain rfl := Option.some.inj found
          exact MembersFit.single _ (Value.fits_string _ _)
  · cases found
  · cases found

theorem fits_of_mem_additions {setting : Setting} {inUse : List String} {root : Markup.Tag}
    {record : Source.Record} (member : record ∈ (additions setting inUse root).records) :
    record.toValue.Fits 5 := by
  apply Source.Record.PartsFit.fits_toValue
  rcases exists_of_mem_additions member with ⟨name, items, rfl⟩ | ⟨attributes, name, rfl⟩
  · exact (Source.Record.partsFit_scene 3 name).withItems items
  · apply Source.Record.partsFit_of_settings _ rfl rfl rfl
    rw [sourceRecord]
    cases found : setup? setting.platform attributes with
    | none => exact .nil
    | some setup => exact membersFit_setup? found

end XSplit

/-! ## Scene texts -/

theorem FieldCopy.membersFit_run {room : Nat} (table : List FieldCopy) (input : Members)
    {out : Members} (fits : MembersFit room out) : MembersFit room (run table input out) := by
  induction table generalizing out with
  | nil => exact fits
  | cons copy rest induction =>
      apply induction
      apply fits.insert
      rcases copy with ⟨source, target, conversion⟩
      cases conversion with
      | text => exact Value.fits_string _ _
      | path => exact Value.fits_string _ _
      | integer => exact Value.fits_integer _ _
      | double => exact Value.fits_double _ _
      | flag => exact Value.fits_boolean _ _
      | isOne => exact Value.fits_boolean _ _
      | color => exact Value.fits_integer _ _

namespace ObsClassic

theorem membersFit_fontSettings {room : Nat} (data : Members) :
    MembersFit room (fontSettings data) :=
  (((((ListedFit.nil []).cons (Value.fits_string _ _)).cons (Value.fits_string _ _)).cons
    (Value.fits_integer _ _)).cons (Value.fits_integer _ _)).membersFit (by decide)

theorem fits_seriesFiles {room : Nat} {data : Members} (fits : MembersFit (room + 3) data) :
    ∀ file ∈ seriesFiles data, file.Fits (room + 2) := by
  have entry : ∀ path, (Source.fileEntry path).Fits (room + 2) := fun path =>
    (Source.fits_fileEntry path).mono (Nat.le_add_left _ _)
  rw [seriesFiles]
  split
  · rename_i paths found
    intro file member
    rcases List.mem_map.mp member with ⟨path, inPaths, rfl⟩
    split
    · exact fits_array_iff.mp (fits.find? found) path inPaths
    · exact entry _
  · intro file member
    rw [List.mem_singleton.mp member]
    exact entry _
  · intro file member
    rw [List.mem_singleton.mp member]
    exact entry _

theorem membersFit_setup? {room : Nat} {platform : Platform} {entryClass : EntryClass}
    {data : Members} (fits : MembersFit (room + 3) data) {setup : Source.Setup}
    (found : setup? platform entryClass data = some setup) :
    MembersFit (room + 3) setup.settings := by
  cases entryClass with
  | shared =>
      obtain rfl := Option.some.inj found
      exact .nil
  | other =>
      obtain rfl := Option.some.inj found
      exact .nil
  | text =>
      rw [Source.Setup.settings_of_ofKind? found]
      exact ((FieldCopy.membersFit_run _ _ .nil).insert "align" (Value.fits_string _ _)).insert
        "font" (fits_object_iff.mpr (membersFit_fontSettings data))
  | monitor =>
      rw [Source.Setup.settings_of_ofKind? found, monitorSettings]
      split
      · exact (MembersFit.single _ (Value.fits_integer _ _)).insert _
          (Value.fits_boolean _ _)
      · exact Value.MembersFit.nil.insert _ (Value.fits_boolean _ _)
  | image =>
      obtain rfl := Option.some.inj found
      exact FieldCopy.membersFit_run _ _ .nil
  | imageSeries =>
      obtain rfl := Option.some.inj found
      exact MembersFit.single _ (fits_array_iff.mpr (fits_seriesFiles fits))
  | browser =>
      obtain rfl := Option.some.inj found
      exact FieldCopy.membersFit_run _ _ .nil
  | window =>
      rw [Source.Setup.settings_of_ofKind? found]
      split
      · exact (((ListedFit.nil []).cons (Value.fits_integer _ _)).cons
          (Value.fits_string _ _)).membersFit (by decide)
      · exact .nil
  | device =>
      rw [Source.Setup.settings_of_ofKind? found]
      split
      · exact (((ListedFit.nil []).cons (Value.fits_string _ _)).cons
          (Value.fits_string _ _)).membersFit (by decide)
      · exact .nil
  | game =>
      rw [Source.Setup.settings_of_ofKind? found]
      split
      · exact ((((ListedFit.nil []).cons (Value.fits_boolean _ _)).cons
          (Value.fits_string _ _)).cons (Value.fits_string _ _)).membersFit (by decide)
      · exact .nil

theorem fits_of_mem_entries {room : Nat} {blocks : Members} (fits : MembersFit (room + 3) blocks) :
    ∀ entry ∈ entries blocks, entry.Fits (room + 2) := by
  intro entry member
  rcases List.mem_append.mp member with isShared | inScene
  · exact fits.elementsAt "globals" entry isShared
  · rcases List.mem_flatMap.mp inScene with ⟨scene, inScenes, inSources⟩
    have sceneFits := (fits.elementsAt "scenes" scene inScenes).membersFit
    exact (sceneFits.elementsAt "sources" entry inSources).mono (Nat.le_add_right _ _)

theorem fits_of_mem_additions {room : Nat} {platform : Platform} {blocks : Members}
    (fits : MembersFit (room + 6) blocks) {present : List String} {record : Source.Record}
    (member : record ∈ (additions platform present blocks).records) :
    record.toValue.Fits (room + 5) := by
  have source : ∀ entry ∈ entries blocks, ∀ setup name,
      ownSetup? platform entry.members = some setup →
        (entryRecord setup name).toValue.Fits (room + 5) := by
    intro entry inEntries setup name found
    have data := (fits_of_mem_entries fits entry inEntries).membersFit.membersAt "data"
    apply Source.Record.PartsFit.fits_toValue
    exact Source.Record.partsFit_of_settings (membersFit_setup? data found) rfl rfl rfl
  have scene : ∀ name items, Stacked items →
      ((Source.Record.scene name).withItems items).toValue.Fits (room + 5) := by
    intro name items _
    exact ((Source.Record.partsFit_scene (room + 3) name).withItems items).fits_toValue
  have all := @forall_mem_additions (fun record => record.toValue.Fits (room + 5)) platform blocks
    source scene present
  exact all record member

end ObsClassic

end BroadcastScenes
