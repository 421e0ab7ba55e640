import BroadcastScenes.Proofs.CollectionRecords
import BroadcastScenes.Proofs.SetupIdentifiers
import BroadcastScenes.Proofs.WrittenEntries
import Mathlib.Data.List.Forall2

/-!
# Adapted records

A record is adapted to a platform if it has a native identifier there, or if nothing is native for
it: its kind is not known, or the platform has no such source. Adapting leaves adapted records as
they are and makes every other record an adapted one, so to adapt a collection twice is to adapt it
once. Whatever it does stays within two members of a record.
-/

namespace BroadcastScenes

open Source (Kind)

def recordId (record : Value) : String := record.members.stringAt "id"

/-- Where the platform has a source of the record's kind, the record's identifier is native. -/
def IsAdapted (platform : Platform) (record : Value) : Prop :=
  ∀ kind, Kind.ofId? (recordId record) = some kind → (kind.id? platform).isSome = true →
    kind.isNative (recordId record) platform = true

inductive Adapts (platform : Platform) : Value → Value → Prop
  | kept {record : Value} (isAdapted : IsAdapted platform record) :
      Adapts platform record record
  /-- The record came from another platform. The members that are written keep their places or come
  last, and all others stay as they are. -/
  | changed {kind : Kind} {before after : Members}
      (known : Kind.ofId? (before.stringAt "id") = some kind)
      (foreign : kind.isNative (before.stringAt "id") platform = false)
      (native : kind.isNative (after.stringAt "id") platform = true)
      (others : Entries.without ["id", "settings"] after =
        Entries.without ["id", "settings"] before)
      (order : Entries.keys before <+: Entries.keys after) :
      Adapts platform (.object before) (.object after)

/-- Either there is nothing to do, or the record has a known kind and gets the platform's identifier
for it. -/
theorem adaptRecord_cases (platform : Platform) (record : Value) :
    (IsAdapted platform record ∧ adaptRecord platform record = record) ∨
    ∃ kind native, Kind.ofId? (recordId record) = some kind ∧
      kind.isNative (recordId record) platform = false ∧ kind.id? platform = some native ∧
      adaptRecord platform record = .object (adaptSettings kind (recordId record) platform
        (record.members.insert "id" (.string native))) := by
  simp only [IsAdapted, recordId]
  cases known : Kind.ofId? (record.members.stringAt "id") with
  | none => exact .inl ⟨by simp, adaptRecord_of_ofId?_eq_none platform known⟩
  | some kind =>
      cases isNative : kind.isNative (record.members.stringAt "id") platform with
      | true =>
          left
          refine ⟨?_, by simp [adaptRecord, known, replacementId?, isNative]⟩
          intro other sameKind _
          exact Option.some.inj sameKind ▸ isNative
      | false =>
          cases preferred : kind.id? platform with
          | none =>
              left
              refine ⟨?_, by simp [adaptRecord, known, replacementId?, isNative, preferred]⟩
              intro other sameKind found
              rw [← Option.some.inj sameKind, preferred] at found
              cases found
          | some native =>
              right
              exact ⟨kind, native, rfl, isNative, preferred,
                by simp [adaptRecord, known, replacementId?, isNative, preferred]⟩

theorem IsAdapted.adaptRecord_eq {platform : Platform} {record : Value}
    (isAdapted : IsAdapted platform record) : adaptRecord platform record = record := by
  rcases adaptRecord_cases platform record with ⟨_, same⟩ | ⟨kind, native, known, foreign, found, _⟩
  · exact same
  · have isNative := isAdapted kind known (Option.isSome_of_eq_some found)
    rw [foreign] at isNative
    cases isNative

/-! ## What adapting writes -/

theorem adaptSettings_cases (kind : Kind) (id : String) (platform : Platform) (record : Members) :
    adaptSettings kind id platform record = record ∨
      ∃ settings, adaptSettings kind id platform record = record.insert "settings" settings := by
  cases kind with
  | text => exact .inl rfl
  | _ => exact .inr ⟨_, rfl⟩

theorem without_adaptSettings (kind : Kind) (id : String) (platform : Platform)
    (record : Members) :
    Entries.without ["id", "settings"] (adaptSettings kind id platform record) =
      Entries.without ["id", "settings"] record := by
  rcases adaptSettings_cases kind id platform record with same | ⟨settings, written⟩
  · rw [same]
  · rw [written, Entries.without_insert (by simp)]

theorem keys_isPrefix_adaptSettings (kind : Kind) (id : String) (platform : Platform)
    (record : Members) :
    Entries.keys record <+: Entries.keys (adaptSettings kind id platform record) := by
  rcases adaptSettings_cases kind id platform record with same | ⟨settings, written⟩
  · exact same.symm ▸ List.prefix_rfl
  · rw [written]
    exact Entries.keys_isPrefix_insert _ _ _

theorem stringAt_id_adaptSettings (kind : Kind) (id native : String) (platform : Platform)
    (record : Members) :
    (adaptSettings kind id platform (record.insert "id" (.string native))).stringAt "id" =
      native := by
  rw [Members.stringAt, find?_adaptSettings (by simp), Entries.find?_insert_self]
  rfl

theorem adapts_adaptRecord (platform : Platform) (record : Value) :
    Adapts platform record (adaptRecord platform record) := by
  rcases adaptRecord_cases platform record with
    ⟨isAdapted, same⟩ | ⟨kind, native, known, foreign, preferred, changed⟩
  · rw [same]
    exact .kept isAdapted
  · -- a value without members has no identifier, and so no kind
    have isObject : record = .object record.members := by
      cases record <;> first | rfl | cases known
    rw [changed]
    have adapts : Adapts platform (.object record.members) (.object (adaptSettings kind
        (recordId record) platform (record.members.insert "id" (.string native)))) := by
      apply Adapts.changed known foreign
      · rw [stringAt_id_adaptSettings]
        exact Kind.isNative_of_id? preferred
      · rw [without_adaptSettings, Entries.without_insert (by simp)]
      · exact (Entries.keys_isPrefix_insert _ _ _).trans (keys_isPrefix_adaptSettings _ _ _ _)
    rwa [← isObject] at adapts

theorem Adapts.isAdapted {platform : Platform} {before after : Value}
    (adapts : Adapts platform before after) : IsAdapted platform after := by
  cases adapts with
  | kept isAdapted => exact isAdapted
  | changed known foreign native others order =>
      intro kind isKind _
      exact Source.isNativeId_of_isNative native kind isKind

theorem adaptRecord_adaptRecord (platform : Platform) (record : Value) :
    adaptRecord platform (adaptRecord platform record) = adaptRecord platform record :=
  (adapts_adaptRecord platform record).isAdapted.adaptRecord_eq

/-! ## Collections -/

theorem Collection.adapt_adapt (platform : Platform) (collection : Collection) :
    (collection.adapt platform).adapt platform = collection.adapt platform := by
  rw [adapt, records_adapt, List.map_map]
  have once : adaptRecord platform ∘ adaptRecord platform = adaptRecord platform :=
    funext (adaptRecord_adaptRecord platform)
  rw [once, adapt, withRecords, withRecords, Entries.insert_insert_self]

/-- The later collection is the earlier one with its records adapted, and with nothing else done. -/
structure Collection.AdaptsTo (platform : Platform) (earlier later : Collection) : Prop where
  settled : later.adapt platform = later
  allAdapted : ∀ record ∈ later.records, IsAdapted platform record
  inPlace : List.Forall₂ (Adapts platform) earlier.records later.records
  kept : later.root.find? "sources" = some (.array later.records)
  others : Entries.without ["sources"] later.root = Entries.without ["sources"] earlier.root
  order : Entries.keys later.root = Entries.keys earlier.root

/-- To adapt a collection again changes nothing. All its records are adapted then, in their old
order, each has changed only if it was not adapted before, and the document keeps its other
members. -/
theorem adapting_settles_records (platform : Platform) (collection : Collection)
    (records : List Value)
    (hasRecords : collection.root.find? "sources" = some (.array records)) :
    collection.AdaptsTo platform (collection.adapt platform) where
  settled := collection.adapt_adapt platform
  allAdapted := by
    rw [Collection.records_adapt, List.forall_mem_map]
    intro record _
    exact (adapts_adaptRecord platform record).isAdapted
  inPlace := by
    rw [Collection.records_adapt, List.forall₂_map_right_iff, List.forall₂_same]
    intro record _
    exact adapts_adaptRecord platform record
  kept := by
    rw [Collection.records_adapt]
    exact Entries.find?_insert_self _ _ _
  others := Entries.without_insert List.mem_cons_self _ _
  order := Entries.keys_insert_of_find? hasRecords _

def recordsFromElsewhere : List Value :=
  [.string "Camera",
    .object [("id", .string "window_capture"), ("name", .string "Editor")],
    .object [("settings", .object [("capture_cursor", .integer 1), ("monitor", .integer 0)]),
      ("id", .string "monitor_capture")],
    .object [("id", .string "game_capture"), ("settings", .object [("window", .string "Game")])],
    .object [("id", .string "alsa_input_capture")],
    .object [("id", .string "text_gdiplus"), ("settings", .array [])]]

theorem adapting_settles_records_from_elsewhere :
    let collection : Collection := ⟨[("name", .string "Evening"),
      ("sources", .array recordsFromElsewhere), ("modules", .object [])]⟩
    collection.root.find? "sources" = some (.array recordsFromElsewhere) ∧
      (collection.adapt .linux).records.map recordId = ["", "xcomposite_input", "xshm_input",
        "game_capture", "alsa_input_capture", "text_ft2_source"] ∧
      collection.AdaptsTo .linux (collection.adapt .linux) := by
  intro collection
  refine ⟨rfl, by decide, ?_⟩
  exact adapting_settles_records .linux collection recordsFromElsewhere rfl

end BroadcastScenes
