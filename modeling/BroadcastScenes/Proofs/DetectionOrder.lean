import BroadcastScenes.Proofs.Json.FirstCharacters
import BroadcastScenes.Proofs.RecognizedFiles
import BroadcastScenes.Proofs.Text.JoinedLines
import Mathlib.Data.List.Perm.Subperm

/-!
# The order of detection

An importer tries its programs one after the other, and the first that recognizes a text counts.
Which one that is hardly depends on the order, since texts of different programs start with
different characters. Only a tree that has records of its own is recognized twice, because it is a
collection as well.
-/

namespace BroadcastScenes

/-! ## First characters -/

namespace Program

def canStart (program : Program) (c : Char) : Bool :=
  match program with
  | .obsStudio | .streamlabs => Json.isBlank c || Json.opensValue c
  | .xsplitBroadcaster => c == '<'
  | .obsClassic => c == 's'

theorem eq_of_canStart {first second : Program} {c : Char} (keepsNoJson : ¬first.KeepsJson)
    (starts : first.canStart c = true) (startsToo : second.canStart c = true) :
    second = first := by
  cases first with
  | obsStudio => exact absurd (.inl rfl) keepsNoJson
  | streamlabs => exact absurd (.inr rfl) keepsNoJson
  | xsplitBroadcaster =>
      cases eq_of_beq starts
      revert startsToo
      cases second <;> decide
  | obsClassic =>
      cases eq_of_beq starts
      revert startsToo
      cases second <;> decide

end Program

theorem Value.exists_head_of_parse? {text : String} {value : Value}
    (parsed : parse? text = some value) :
    ∃ c, text.toList.head? = some c ∧ (Json.isBlank c || Json.opensValue c) = true := by
  cases head : text.toList.head? with
  | none =>
      rw [List.head?_eq_none_iff, String.toList_eq_nil_iff] at head
      have nothing : parse? "" = none := by decide +kernel
      rw [head, nothing] at parsed
      cases parsed
  | some c =>
      refine ⟨c, rfl, ?_⟩
      by_contra starts
      rw [Bool.not_eq_true, Bool.or_eq_false_iff] at starts
      rw [parse?_eq_none_of_head? head starts.1 starts.2] at parsed
      cases parsed

theorem XSplit.head?_of_recognizes {input : String} (recognized : recognizes input = true) :
    input.toList.head? = some '<' := by
  rw [recognizes] at recognized
  split at recognized
  · rename_i found search
    have starts : Markup.StartsTag found :=
      Markup.startsTag_of_isPrefixOf (by decide) recognized
    rcases exists_startsTag_of_find? search starts with ⟨first, rest, split, c, more, rfl, _⟩
    exact Text.head?_of_lines split rfl
  · cases recognized

theorem ObsClassic.head?_of_recognizes {input : String} (recognized : recognizes input = true) :
    input.toList.head? = some 's' := by
  rcases List.isPrefixOf_iff_prefix.mp recognized with ⟨rest, characters⟩
  rw [← characters]
  rfl

namespace Program

theorem exists_canStart_of_recognizes {program : Program} {input : String}
    (recognized : program.recognizes input = true) :
    ∃ c, input.toList.head? = some c ∧ program.canStart c = true := by
  cases program with
  | obsStudio =>
      rcases ObsStudio.exists_document_of_recognizes recognized with ⟨document, parsed, _⟩
      exact Value.exists_head_of_parse? parsed
  | xsplitBroadcaster => exact ⟨'<', XSplit.head?_of_recognizes recognized, rfl⟩
  | streamlabs =>
      rcases Streamlabs.exists_root_of_recognizes recognized with ⟨root, parsed, _⟩
      exact Value.exists_head_of_parse? parsed
  | obsClassic => exact ⟨'s', ObsClassic.head?_of_recognizes recognized, rfl⟩

theorem eq_or_keepsJson_of_recognizes {first second : Program} {input : String}
    (recognized : first.recognizes input = true)
    (recognizedToo : second.recognizes input = true) :
    first = second ∨ (first.KeepsJson ∧ second.KeepsJson) := by
  rcases exists_canStart_of_recognizes recognized with ⟨c, head, starts⟩
  rcases exists_canStart_of_recognizes recognizedToo with ⟨other, sameHead, startsToo⟩
  rw [head] at sameHead
  cases sameHead
  by_cases keepsJson : first.KeepsJson
  · by_cases keepsJsonToo : second.KeepsJson
    · exact .inr ⟨keepsJson, keepsJsonToo⟩
    · exact .inl (eq_of_canStart keepsJsonToo startsToo starts)
  · exact .inl (eq_of_canStart keepsJson starts startsToo).symm

/-- One program at most recognizes a text, or all that keep JSON do and no others. -/
theorem recognizes_unique_or_iff_keepsJson (input : String) :
    (∀ first second : Program, first.recognizes input = true →
      second.recognizes input = true → first = second) ∨
    ∀ program : Program, program.recognizes input = true ↔ program.KeepsJson := by
  by_cases both : obsStudio.recognizes input = true ∧ streamlabs.recognizes input = true
  · right
    intro program
    constructor
    · intro recognized
      rcases eq_or_keepsJson_of_recognizes both.1 recognized with same | ⟨_, keepsJson⟩
      · exact .inl same.symm
      · exact keepsJson
    · rintro (rfl | rfl)
      · exact both.1
      · exact both.2
  · left
    intro first second recognized recognizedToo
    rcases eq_or_keepsJson_of_recognizes recognized recognizedToo with
      same | ⟨rfl | rfl, rfl | rfl⟩
    · exact same
    · rfl
    · exact absurd ⟨recognized, recognizedToo⟩ both
    · exact absurd ⟨recognizedToo, recognized⟩ both
    · rfl

end Program

/-! ## Orders -/

theorem filter_eq_of_sublist {kind : Type} {test : kind → Bool}
    {kept list : List kind} (nodup : list.Nodup) (sublist : kept.Sublist list)
    (passes : ∀ entry, test entry = true ↔ entry ∈ kept) : list.filter test = kept := by
  have keptPass : kept.filter test = kept :=
    List.filter_eq_self.mpr fun entry member => (passes entry).mpr member
  have isSublist : kept.Sublist (list.filter test) := keptPass ▸ sublist.filter test
  have subset : list.filter test ⊆ kept := by
    intro entry member
    exact (passes entry).mp (List.mem_filter.mp member).2
  have short : (list.filter test).length ≤ kept.length :=
    (List.subperm_of_subset (nodup.filter test) subset).length_le
  exact (isSublist.eq_of_length_le short).symm

theorem pair_sublist_or {kind : Type} {first second : kind} {list : List kind}
    (member : first ∈ list) (memberToo : second ∈ list) (apart : first ≠ second) :
    [first, second].Sublist list ∨ [second, first].Sublist list := by
  induction list with
  | nil => cases member
  | cons head tail induction =>
      rcases List.mem_cons.mp member with rfl | later
      · have secondLater : second ∈ tail := List.mem_of_ne_of_mem apart.symm memberToo
        exact .inl ((List.singleton_sublist.mpr secondLater).cons_cons _)
      · rcases List.mem_cons.mp memberToo with rfl | secondLater
        · exact .inr ((List.singleton_sublist.mpr later).cons_cons _)
        · exact (induction later secondLater).imp (.cons _) (.cons _)

namespace Importer

def TriesAll (importer : Importer) : Prop := importer.programs.Perm Program.all

def TriesCollectionsFirst (importer : Importer) : Prop :=
  [Program.obsStudio, .streamlabs].Sublist importer.programs

instance (importer : Importer) : Decidable importer.TriesAll :=
  inferInstanceAs (Decidable (importer.programs.Perm Program.all))

instance (importer : Importer) : Decidable importer.TriesCollectionsFirst :=
  inferInstanceAs (Decidable ([Program.obsStudio, .streamlabs].Sublist importer.programs))

variable {importer : Importer} {input : String}

theorem TriesAll.mem (triesAll : importer.TriesAll) (program : Program) :
    program ∈ importer.programs :=
  triesAll.mem_iff.mpr program.mem_all

/-- The programs that recognize a text need only be put in their order. -/
theorem detectInput?_eq_head? (triesAll : importer.TriesAll) {kept : List Program}
    (sublist : kept.Sublist importer.programs)
    (recognize : ∀ program : Program, program.recognizes input = true ↔ program ∈ kept) :
    importer.detectInput? input = kept.head? := by
  have nodup : importer.programs.Nodup := triesAll.nodup_iff.mpr (by decide)
  rw [detectInput?, ← List.head?_filter, filter_eq_of_sublist nodup sublist recognize]

theorem detectInput?_eq_some_iff (triesAll : importer.TriesAll)
    (unique : ∀ first second : Program, first.recognizes input = true →
      second.recognizes input = true → first = second) {program : Program} :
    importer.detectInput? input = some program ↔ program.recognizes input = true := by
  constructor
  · exact recognizes_of_detectInput?
  · intro recognized
    have sublist : [program].Sublist importer.programs :=
      List.singleton_sublist.mpr (triesAll.mem program)
    refine detectInput?_eq_head? triesAll sublist fun other => ?_
    constructor
    · intro recognizedToo
      exact List.mem_singleton.mpr (unique other program recognizedToo recognized)
    · intro member
      rw [List.mem_singleton.mp member]
      exact recognized

theorem detectInput?_of_keepsJson (triesAll : importer.TriesAll)
    (recognize : ∀ program : Program, program.recognizes input = true ↔ program.KeepsJson) :
    importer.detectInput? input =
      some (if importer.TriesCollectionsFirst then .obsStudio else .streamlabs) := by
  split
  · rename_i collectionsFirst
    exact detectInput?_eq_head? triesAll collectionsFirst fun program => by
      rw [recognize, Program.KeepsJson, List.mem_pair]
  · rename_i treesFirst
    have sublist : [Program.streamlabs, .obsStudio].Sublist importer.programs :=
      (pair_sublist_or (triesAll.mem _) (triesAll.mem _) (by decide)).resolve_left treesFirst
    exact detectInput?_eq_head? triesAll sublist fun program => by
      rw [recognize, Program.KeepsJson, List.mem_pair, or_comm]

end Importer

def treeWithRecords : String := "\x7b\"nodeType\":\"RootNode\",\"sources\":[]\x7d"

theorem recognizes_treeWithRecords (program : Program) :
    program.recognizes treeWithRecords = true ↔ program.KeepsJson := by
  cases program <;> decide +kernel

theorem Importer.detectInput?_treeWithRecords {importer : Importer}
    (triesAll : importer.TriesAll) :
    importer.detectInput? treeWithRecords = some .obsStudio ↔
      importer.TriesCollectionsFirst := by
  rw [detectInput?_of_keepsJson triesAll recognizes_treeWithRecords]
  split
  · rename_i collectionsFirst
    exact iff_of_true rfl collectionsFirst
  · rename_i treesFirst
    exact iff_of_false (by decide) treesFirst

/-- One program at most recognizes a text, unless OBS Studio and Streamlabs do and no others. So it
is these two that count: importers that try every program detect the same in every text if they put
the two in the same order, whatever they do with the others, and only then. -/
theorem detection_depends_on_one_pair :
    (∀ input, (∀ first second : Program, first.recognizes input = true →
        second.recognizes input = true → first = second) ∨
      ∀ program : Program, program.recognizes input = true ↔
        program = .obsStudio ∨ program = .streamlabs) ∧
    ∀ first second : Importer, first.TriesAll → second.TriesAll →
      ((∀ input, first.detectInput? input = second.detectInput? input) ↔
        (first.TriesCollectionsFirst ↔ second.TriesCollectionsFirst)) := by
  refine ⟨Program.recognizes_unique_or_iff_keepsJson, fun first second firstAll secondAll => ?_⟩
  constructor
  · intro same
    rw [← Importer.detectInput?_treeWithRecords firstAll,
      ← Importer.detectInput?_treeWithRecords secondAll, same]
  · intro agree input
    rcases Program.recognizes_unique_or_iff_keepsJson input with unique | recognize
    · apply Option.ext
      intro program
      rw [Importer.detectInput?_eq_some_iff firstAll unique,
        Importer.detectInput?_eq_some_iff secondAll unique]
    · rw [Importer.detectInput?_of_keepsJson firstAll recognize,
        Importer.detectInput?_of_keepsJson secondAll recognize]
      simp only [agree]

/-- Scene texts may come first and presentations last, but collections not after trees. -/
theorem detection_depends_on_one_pair_reordered :
    let usual : Importer := {}
    let reordered : Importer :=
      { programs := [.obsClassic, .obsStudio, .streamlabs, .xsplitBroadcaster] }
    let treesFirst : Importer :=
      { programs := [.streamlabs, .obsStudio, .xsplitBroadcaster, .obsClassic] }
    (∀ input, usual.detectInput? input = reordered.detectInput? input) ∧
    ¬∀ input, usual.detectInput? input = treesFirst.detectInput? input := by
  intro usual reordered treesFirst
  constructor
  · exact (detection_depends_on_one_pair.2 usual reordered (by decide) (by decide)).mpr (by decide)
  · exact (detection_depends_on_one_pair.2 usual treesFirst (by decide) (by decide)).not.mpr
      (by decide)

end BroadcastScenes
