import BroadcastScenes.Decimal.Word
import BroadcastScenes.Proofs.Streamlabs.ImportedTree
import BroadcastScenes.Proofs.XSplit.FirstUses

/-!
# Clamped times

The delay of a sound and the time of a slide are sums of a product and a second number. Both are
clamped twice: the product first, and the sum after it. This gives the clamped exact time, unless
the product is out of range and the second number leads back towards the range. Then the sum starts
from the end of the range instead of from the product.
-/

namespace BroadcastScenes

namespace Decimal

theorem toInt_clampWord (number : Int) :
    (clampWord number).toInt = max (-wordBound) (min number (wordBound - 1)) := by
  have bound : wordBound = 0x8000000000000000 := rfl
  rw [clampWord]
  split
  · rename_i below
    have lowest : Int64.minValue.toInt = -wordBound := rfl
    omega
  · split
    · rename_i above
      have highest : Int64.maxValue.toInt = wordBound - 1 := rfl
      omega
    · have same : (Int64.ofInt number).toInt = number :=
        Int64.toInt_ofInt_of_le (by omega) (by omega)
      omega

/-- The number is the clamped exact sum, or what is left of the sum if the product is clamped. -/
structure IsClampedSum (product addend : Int) (sum : Int64) : Prop where
  exact_iff : sum = clampWord (product + addend) ↔
    ¬(wordBound ≤ product ∧ addend < 0) ∧ ¬(product < -wordBound ∧ 0 < addend)
  fromHighest : wordBound ≤ product → addend < 0 → sum.toInt = wordBound - 1 + addend
  fromLowest : product < -wordBound → 0 < addend → sum.toInt = -wordBound + addend

theorem isClampedSum (product : Int) {addend : Int} (notBelow : -wordBound ≤ addend)
    (below : addend < wordBound) :
    IsClampedSum product addend (clampWord ((clampWord product).toInt + addend)) := by
  have bound : wordBound = 0x8000000000000000 := rfl
  constructor
  · rw [← Int64.toInt_inj, toInt_clampWord, toInt_clampWord, toInt_clampWord]
    omega
  · intro above negative
    rw [toInt_clampWord, toInt_clampWord]
    omega
  · intro underneath positive
    rw [toInt_clampWord, toInt_clampWord]
    omega

theorem isClampedSum_word (product : Int) (addend : Int64) :
    IsClampedSum product addend.toInt (clampWord ((clampWord product).toInt + addend.toInt)) :=
  isClampedSum product (Int64.le_toInt addend) (Int64.toInt_lt addend)

end Decimal

open Decimal (IsClampedSum)
open Program (streamlabs xsplitBroadcaster)

namespace Streamlabs

def HasSync (node : Members) (record : Value) : Prop :=
  ∃ sync, record.member? "sync" = some (.integer sync) ∧
    IsClampedSum (((node.membersAt "syncOffset").integerAt "sec").toInt * 1000000000)
      ((node.membersAt "syncOffset").integerAt "nsec").toInt sync

theorem hasSync_baseRecord (platform : Platform) (node : Members) (name id : String) :
    HasSync node (adaptRecord platform (baseRecord node name id).toValue) := by
  refine ⟨syncOffset (node.membersAt "syncOffset"), ?_, Decimal.isClampedSum_word _ _⟩
  exact find?_adaptRecord (by decide) (by decide) platform _

theorem hasSync_sceneRecord (table : NameTable) (node : Members) (name : String) :
    HasSync node (sceneRecord table node name).toValue :=
  ⟨syncOffset (node.membersAt "syncOffset"), rfl, Decimal.isClampedSum_word _ _⟩

theorem forall₂_hasSync (request : Request) (collection : Collection) (root : Members) :
    List.Forall₂ HasSync (nodes root)
      (collection.newRecords ((Content.tree root).importInto request collection)) := by
  rw [newRecords_tree]
  apply List.rel_append
  · rw [List.forall₂_map_right_iff]
    apply (forall₂_sourceRecords collection.recordNames root).imp
    rintro node _ ⟨name, rfl⟩
    exact hasSync_baseRecord _ node name _
  · rw [List.forall₂_map_right_iff]
    apply (forall₂_sceneRecords collection.recordNames root).imp
    rintro node _ ⟨name, rfl⟩
    exact hasSync_sceneRecord _ node name

end Streamlabs

namespace XSplit

def IsSlideshow (tag : Markup.Tag) : Prop :=
  ItemType.ofCode (tag.attributes.integerAt "type") = .page ∧
    startsWith slideshowPlugin (tag.attributes.textAt "item") = true

def HasSlideTime (tag : Markup.Tag) (record : Value) : Prop :=
  ∃ time, (record.members.membersAt "settings").find? "slide_time" = some (.integer time) ∧
    IsClampedSum (((pluginOptions (tag.attributes.textAt "item")).integerAt "delay").toInt * 1000)
      700 time

theorem hasSlideTime_sourceRecord (platform : Platform) {tag : Markup.Tag}
    (isSlideshow : IsSlideshow tag) (name : String) :
    HasSlideTime tag (sourceRecord platform tag.attributes name).toValue := by
  have setup : setup? platform tag.attributes =
      some ⟨"slideshow", slideshowSettings (pluginOptions (tag.attributes.textAt "item"))⟩ := by
    rw [setup?, isSlideshow.1]
    exact if_pos isSlideshow.2
  refine ⟨slideTime ((pluginOptions (tag.attributes.textAt "item")).integerAt "delay"), ?_,
    Decimal.isClampedSum _ (by decide) (by decide)⟩
  rw [sourceRecord, setup]
  rfl

end XSplit

/-- Every record of a tree has the delay of its node, and every slideshow of a presentation the time
of its options, as clamped sums. Each of these times is the clamped exact time, unless its product
is out of range and the second number has the other sign. -/
theorem times_are_clamped_twice (request : Request) (collection : Collection) :
    (∀ root, Value.parse? request.input = some root → Streamlabs.isRoot root = true →
      ∃ result, streamlabs.importFile request collection = .ok result ∧
        List.Forall₂ Streamlabs.HasSync (Streamlabs.nodes root.members)
          (collection.newRecords result)) ∧
    (∀ root, Markup.read request.input = .ok (some root) →
      ∃ result, xsplitBroadcaster.importFile request collection = .ok result ∧
        ∃ scenes sources : List Value, result.records = collection.records ++ scenes ++ sources ∧
          scenes.length = (root.childrenOfKind "placement").length ∧
          List.Forall₂
            (fun use record => XSplit.IsSlideshow use.1 → XSplit.HasSlideTime use.1 record)
            (XSplit.firstUses (XSplit.placementIds root)
              ((XSplit.placedTags root).zip (scenes.flatMap XSplit.namesIn))) sources) := by
  constructor
  · intro root parsed isRoot
    exact ⟨_, Streamlabs.importFile_of_isRoot parsed isRoot collection,
      Streamlabs.forall₂_hasSync request collection root.members⟩
  · intro root reading
    refine ⟨(Content.presentation root).importInto request collection, ?_, ?_⟩
    · rw [Program.importFile, XSplit.importFile, reading]
      rfl
    · rcases XSplit.addsPresentation_importInto request collection root with
        ⟨scenes, sources, records, places, uses⟩
      refine ⟨scenes, sources, records, places.length_eq.symm, uses.imp ?_⟩
      rintro use _ ⟨name, _, rfl⟩ isSlideshow
      exact XSplit.hasSlideTime_sourceRecord _ isSlideshow name

def longDelayRequest : Request where
  path := ⟨"/delays.json"⟩
  input := "\x7b\"nodeType\":\"RootNode\",\"sources\":\x7b\"items\":[\x7b\"name\":\"Mic\"," ++
    "\"syncOffset\":\x7b\"sec\":9223372037,\"nsec\":-500000000\x7d\x7d]\x7d," ++
    "\"scenes\":\x7b\"items\":[\x7b\"name\":\"Main\"," ++
    "\"syncOffset\":\x7b\"sec\":-9223372037,\"nsec\":500000000\x7d\x7d]\x7d\x7d"

def longSlideRequest : Request where
  path := ⟨"/slides.bpres"⟩
  input := "<configuration>\n<placement name=\"Main\">\n<item type=\"8\" name=\"Slides\" " ++
    "item=\"html:plugin:imageslideshowplg*\x7b&quot;delay&quot;:-9223372036854776\x7d\"/>\n" ++
    "</placement>\n</configuration>"

theorem times_are_clamped_twice_long_times :
    (∃ root, Value.parse? longDelayRequest.input = some root ∧ Streamlabs.isRoot root = true ∧
      ∃ result, streamlabs.importFile longDelayRequest {} = .ok result ∧
        ((Collection.newRecords {} result).map fun record =>
          record.members.integerAt "sync") = [9223372036354775807, -9223372036354775808] ∧
        List.Forall₂ Streamlabs.HasSync (Streamlabs.nodes root.members)
          (Collection.newRecords {} result)) ∧
    ∃ root, Markup.read longSlideRequest.input = .ok (some root) ∧
      ∃ result, xsplitBroadcaster.importFile longSlideRequest {} = .ok result ∧
        (result.records.map fun record =>
          (record.members.membersAt "settings").integerAt "slide_time") =
            [0, -9223372036854775108] ∧
        ∃ scenes sources : List Value, result.records = [] ++ scenes ++ sources ∧
          scenes.length = (root.childrenOfKind "placement").length ∧
          List.Forall₂
            (fun use record => XSplit.IsSlideshow use.1 → XSplit.HasSlideTime use.1 record)
            (XSplit.firstUses (XSplit.placementIds root)
              ((XSplit.placedTags root).zip (scenes.flatMap XSplit.namesIn))) sources := by
  constructor
  · have reading : (Value.parse? longDelayRequest.input).map (fun root =>
        (Streamlabs.isRoot root, (Collection.newRecords {}
          ((Content.tree root.members).importInto longDelayRequest {})).map fun record =>
            record.members.integerAt "sync")) =
        some (true, [9223372036354775807, -9223372036354775808]) := by
      decide +kernel
    rcases Option.map_eq_some_iff.mp reading with ⟨root, parsed, both⟩
    have isRoot : Streamlabs.isRoot root = true := congrArg Prod.fst both
    rcases (times_are_clamped_twice longDelayRequest {}).1 root parsed isRoot with
      ⟨result, imported, syncs⟩
    cases imported.symm.trans (Streamlabs.importFile_of_isRoot parsed isRoot {})
    exact ⟨root, parsed, isRoot, _, imported, congrArg Prod.snd both, syncs⟩
  · have times : (XSplit.importFile longSlideRequest {}).map (fun result =>
        result.records.map fun record =>
          (record.members.membersAt "settings").integerAt "slide_time") =
        .ok [0, -9223372036854775108] := by
      decide +kernel
    rcases exists_of_map_eq_ok times with ⟨result, imported, resultTimes⟩
    rcases XSplit.exists_read_of_importFile_eq_ok imported with ⟨root, reading⟩
    rcases (times_are_clamped_twice longSlideRequest {}).2 root reading with
      ⟨_, sameImported, slideTimes⟩
    cases Except.ok.inj (imported.symm.trans sameImported)
    exact ⟨root, reading, result, imported, resultTimes, slideTimes⟩

end BroadcastScenes
