import BroadcastScenes.Proofs.AdaptedRecords
import BroadcastScenes.Proofs.DistinctKeys

/-!
# Captures on other platforms

Titles and display captures keep their settings on another platform. The pointer flag of a display
capture is read under the key that belongs to its old identifier, and written under the key of the
platform. Each platform's key goes with its identifier, so the flag is found again on the way back.
Nothing takes it away from the old key.
-/

namespace BroadcastScenes

open Source (Kind cursorKey)

def SameApart (keys : List String) (earlier later : Members) : Prop :=
  Entries.without keys later = Entries.without keys earlier

theorem SameApart.insert {keys : List String} {earlier later : Members}
    (same : SameApart keys earlier later) {key : String} (isLeft : key ∈ keys) (value : Value) :
    SameApart keys earlier (later.insert key value) :=
  (Entries.without_insert isLeft value later).trans same

def IsPreferred (kind : Kind) (platform : Platform) (record : Value) : Prop :=
  kind.id? platform = some (recordId record)

theorem IsPreferred.ofId? {kind : Kind} {platform : Platform} {record : Value}
    (preferred : IsPreferred kind platform record) : Kind.ofId? (recordId record) = some kind :=
  Kind.ofId?_of_isNative (Kind.isNative_of_id? preferred)

theorem IsPreferred.find?_id {kind : Kind} {platform : Platform} {record : Value}
    (preferred : IsPreferred kind platform record) :
    record.members.find? "id" = some (.string (recordId record)) := by
  have known := preferred.ofId?
  rw [recordId, Members.stringAt] at known ⊢
  cases found : Entries.find? "id" record.members with
  | none =>
      rw [found] at known
      cases known
  | some value =>
      rw [found] at known
      cases value with
      | string text => rfl
      | _ => cases known

theorem IsPreferred.eq_object {kind : Kind} {platform : Platform} {record : Value}
    (preferred : IsPreferred kind platform record) : record = .object record.members := by
  have found := preferred.find?_id
  cases record with
  | object members => rfl
  | _ => cases found

/-- Titles and display captures have one identifier on each platform. -/
theorem isPreferred_of_isNative {kind : Kind} (keepsSettings : kind = .text ∨ kind = .display)
    {platform : Platform} {record : Value}
    (native : kind.isNative (recordId record) platform = true) :
    IsPreferred kind platform record := by
  have member := List.contains_iff_mem.mp native
  rcases keepsSettings with rfl | rfl <;> cases platform <;>
    exact congrArg some (List.mem_singleton.mp member).symm

/-! ## Titles -/

theorem IsPreferred.adaptRecord_text {here : Platform} {record : Value}
    (isTitle : IsPreferred .text here record) (there : Platform) :
    ∃ native, Kind.text.id? there = some native ∧
      adaptRecord there record = .object (record.members.insert "id" (.string native)) := by
  rcases adaptRecord_cases there record with
    ⟨isAdapted, same⟩ | ⟨kind, native, known, _, preferred, changed⟩
  · have native := isAdapted .text isTitle.ofId? (by cases there <;> rfl)
    refine ⟨recordId record, isPreferred_of_isNative (.inl rfl) native, ?_⟩
    rw [same, Entries.insert_of_find? isTitle.find?_id]
    exact isTitle.eq_object
  · rcases Option.some.inj (isTitle.ofId?.symm.trans known) with rfl
    exact ⟨native, preferred, changed⟩

theorem isPreferred_insert_id {kind : Kind} {platform : Platform} {native : String}
    (preferred : kind.id? platform = some native) (members : Members) :
    IsPreferred kind platform (.object (members.insert "id" (.string native))) := by
  have id : recordId (.object (members.insert "id" (.string native))) = native := by
    rw [recordId, Value.members, Members.stringAt, Entries.find?_insert_self]
    rfl
  rwa [IsPreferred, id]

/-! ## Display captures -/

theorem cursorKeyOfId_of_isNative {id : String} {platform : Platform}
    (native : Kind.display.isNative id platform = true) :
    cursorKeyOfId id = cursorKey platform := by
  cases platform <;> rcases List.mem_singleton.mp (List.contains_iff_mem.mp native) with rfl <;> rfl

theorem membersAt_of_find? {members inner : Members} {key : String}
    (found : members.find? key = some (.object inner)) : members.membersAt key = inner := by
  rw [Members.membersAt, Members.objectAt?, found]
  rfl

def displayRecord (record : Value) (id : String) (settings : Members) : Value :=
  .object ((record.members.insert "id" (.string id)).insert "settings" (.object settings))

theorem adaptRecord_display {platform : Platform} {record : Value} {settings : Members}
    (isDisplay : Kind.ofId? (recordId record) = some .display)
    (foreign : Kind.display.isNative (recordId record) platform = false)
    (hasSettings : record.members.find? "settings" = some (.object settings)) :
    ∃ native, Kind.display.id? platform = some native ∧
      adaptRecord platform record =
        displayRecord record native (adaptCursor (recordId record) platform settings) := by
  rcases adaptRecord_cases platform record with
    ⟨isAdapted, _⟩ | ⟨kind, native, known, _, preferred, changed⟩
  · have native := isAdapted .display isDisplay (by cases platform <;> rfl)
    rw [foreign] at native
    cases native
  · rcases Option.some.inj (isDisplay.symm.trans known) with rfl
    have kept : Entries.find? "settings" (record.members.insert "id" (.string native)) =
        some (.object settings) := by
      rw [Entries.find?_insert_of_ne (by decide), hasSettings]
    refine ⟨native, preferred, ?_⟩
    rw [changed, adaptSettings, membersAt_of_find? kept]
    rfl

section displayRecord

variable (record : Value) (id : String) (settings : Members)

theorem find?_settings_displayRecord :
    (displayRecord record id settings).members.find? "settings" = some (.object settings) :=
  Entries.find?_insert_self _ _ _

theorem recordId_displayRecord : recordId (displayRecord record id settings) = id := by
  rw [recordId, displayRecord, Value.members, Members.stringAt,
    Entries.find?_insert_of_ne (by decide), Entries.find?_insert_self]
  rfl

theorem sameApart_displayRecord :
    SameApart ["id", "settings"] record.members (displayRecord record id settings).members :=
  SameApart.insert (SameApart.insert rfl (by simp) _) (by simp) _

end displayRecord

structure ShowsPointer (platform : Platform) (shown : Bool) (settings : Members)
    (record : Value) : Prop where
  isDisplay : IsPreferred .display platform record
  hasSettings : record.members.find? "settings" = some (.object settings)
  flag : settings.find? (cursorKey platform) = some (.boolean shown)

theorem showsPointer_displayRecord {platform : Platform} {native : String}
    (preferred : Kind.display.id? platform = some native) (record : Value) {shown : Bool}
    {settings : Members} (flag : settings.find? (cursorKey platform) = some (.boolean shown)) :
    ShowsPointer platform shown settings (displayRecord record native settings) where
  isDisplay := by rwa [IsPreferred, recordId_displayRecord]
  hasSettings := find?_settings_displayRecord _ _ _
  flag := flag

theorem ShowsPointer.adaptRecord_eq {here : Platform} {shown : Bool} {settings : Members}
    {record : Value} (shows : ShowsPointer here shown settings record) (there : Platform) :
    ∃ native, Kind.display.id? there = some native ∧
      adaptRecord there record =
        displayRecord record native (settings.insert (cursorKey there) (.boolean shown)) := by
  have isDisplay := shows.isDisplay
  have ownKey := cursorKeyOfId_of_isNative (Kind.isNative_of_id? isDisplay)
  cases native : Kind.display.isNative (recordId record) there with
  | true =>
      have preferred := isPreferred_of_isNative (.inr rfl) native
      have same : cursorKey there = cursorKey here :=
        (cursorKeyOfId_of_isNative native).symm.trans ownKey
      have isAdapted : IsAdapted there record := fun kind known _ =>
        Option.some.inj (isDisplay.ofId?.symm.trans known) ▸ native
      refine ⟨recordId record, preferred, ?_⟩
      rw [isAdapted.adaptRecord_eq, displayRecord, same, Entries.insert_of_find? shows.flag,
        Entries.insert_of_find? isDisplay.find?_id, Entries.insert_of_find? shows.hasSettings]
      exact isDisplay.eq_object
  | false =>
      rcases adaptRecord_display isDisplay.ofId? native shows.hasSettings with
        ⟨id, preferred, changed⟩
      refine ⟨id, preferred, ?_⟩
      rw [changed, adaptCursor, ownKey, shows.flag]
      rfl

/-! ## There and back -/

/-- A display capture here, what it is there, and what it is when it comes back. -/
structure CarriesPointer (here there : Platform) (shown : Bool) (settings : Members)
    (record abroad back : Value) : Prop where
  showsAbroad : ShowsPointer there shown (settings.insert (cursorKey there) (.boolean shown)) abroad
  showsBack : ShowsPointer here shown (settings.insert (cursorKey there) (.boolean shown)) back
  otherSettings : SameApart [cursorKey here, cursorKey there] settings
    (settings.insert (cursorKey there) (.boolean shown))
  othersAbroad : SameApart ["id", "settings"] record.members abroad.members
  othersBack : SameApart ["id", "settings"] record.members back.members

structure CarriesTitle (there : Platform) (record abroad back : Value) : Prop where
  isTitle : IsPreferred .text there abroad
  settingsAbroad : abroad.members.find? "settings" = record.members.find? "settings"
  othersAbroad : SameApart ["id"] record.members abroad.members
  restored : back = record

theorem ShowsPointer.carriesPointer {here : Platform} {shown : Bool} {settings : Members}
    {record : Value} (shows : ShowsPointer here shown settings record) (there : Platform) :
    CarriesPointer here there shown settings record (adaptRecord there record)
      (adaptRecord here (adaptRecord there record)) := by
  rcases shows.adaptRecord_eq there with ⟨idThere, preferredThere, abroad⟩
  have flagThere := Entries.find?_insert_self (cursorKey there) (.boolean shown) settings
  have showsThere := showsPointer_displayRecord preferredThere record flagThere
  rw [← abroad] at showsThere
  rcases showsThere.adaptRecord_eq here with ⟨idHere, preferredHere, back⟩
  -- the flag is still under its own key, so that nothing is written on the way back
  have flagHere : Entries.find? (cursorKey here)
      (settings.insert (cursorKey there) (.boolean shown)) = some (.boolean shown) := by
    rw [Entries.find?_insert]
    split
    · rfl
    · exact shows.flag
  rw [Entries.insert_of_find? flagHere] at back
  have othersAbroad : SameApart ["id", "settings"] record.members
      (adaptRecord there record).members := abroad ▸ sameApart_displayRecord _ _ _
  refine ⟨showsThere, ?_, SameApart.insert rfl (by simp) _, othersAbroad, ?_⟩
  · rw [back]
    exact showsPointer_displayRecord preferredHere _ flagHere
  · rw [back]
    exact (sameApart_displayRecord _ _ _).trans othersAbroad

theorem IsPreferred.carriesTitle {here : Platform} {record : Value}
    (isTitle : IsPreferred .text here record) (there : Platform) :
    CarriesTitle there record (adaptRecord there record)
      (adaptRecord here (adaptRecord there record)) := by
  rcases isTitle.adaptRecord_text there with ⟨idThere, preferredThere, abroad⟩
  have titleThere := isPreferred_insert_id preferredThere record.members
  rw [← abroad] at titleThere
  rcases titleThere.adaptRecord_text here with ⟨idHere, preferredHere, back⟩
  rcases Option.some.inj (isTitle.symm.trans preferredHere) with rfl
  refine ⟨titleThere, ?_, ?_, ?_⟩
  · rw [abroad]
    exact Entries.find?_insert_of_ne (by decide) _ _
  · rw [abroad]
    exact SameApart.insert rfl (by simp) _
  · rw [back, abroad, Value.members, Entries.insert_insert_self,
      Entries.insert_of_find? isTitle.find?_id]
    exact isTitle.eq_object.symm

/-- A display capture that is adapted to another platform and back shows the pointer there and here
as it did before, and has changed in nothing else. A title comes back as it was. -/
theorem captures_come_back (here there : Platform) (collection : Collection) (place : Nat)
    (record : Value) (placed : collection.records[place]? = some record) :
    ∃ abroad back, (collection.adapt there).records[place]? = some abroad ∧
      ((collection.adapt there).adapt here).records[place]? = some back ∧
      (∀ shown settings, ShowsPointer here shown settings record →
        CarriesPointer here there shown settings record abroad back) ∧
      (IsPreferred .text here record → CarriesTitle there record abroad back) := by
  refine ⟨adaptRecord there record, adaptRecord here (adaptRecord there record), ?_, ?_, ?_, ?_⟩
  · rw [Collection.records_adapt, List.getElem?_map, placed]
    rfl
  · rw [Collection.records_adapt, Collection.records_adapt, List.map_map, List.getElem?_map, placed]
    rfl
  · exact fun shown settings shows => shows.carriesPointer there
  · exact fun isTitle => isTitle.carriesTitle there

def windowsCaptures : Collection :=
  ⟨[("sources", .array [
    .object [("name", .string "Title"), ("id", .string "text_gdiplus")],
    .object [("settings", .object [("show_cursor", .string "no"), ("monitor", .integer 1),
        ("capture_cursor", .boolean true)]),
      ("id", .string "monitor_capture"), ("volume", .double 0.5)]])]⟩

theorem captures_come_back_from_linux :
    let title : Value := .object [("name", .string "Title"), ("id", .string "text_gdiplus")]
    let settings : Members := [("show_cursor", .boolean true), ("monitor", .integer 1),
      ("capture_cursor", .boolean true)]
    ((windowsCaptures.adapt .linux).adapt .windows).records[0]? = some title ∧
      ∃ abroad back, (windowsCaptures.adapt .linux).records[1]? = some abroad ∧
        ((windowsCaptures.adapt .linux).adapt .windows).records[1]? = some back ∧
        ShowsPointer .linux true settings abroad ∧ ShowsPointer .windows true settings back := by
  intro title settings
  constructor
  · rcases captures_come_back .windows .linux windowsCaptures 0 title rfl with
      ⟨abroad, back, _, placed, _, carries⟩
    rw [placed, (carries rfl).restored]
  · rcases captures_come_back .windows .linux windowsCaptures 1 _ rfl with
      ⟨abroad, back, placedAbroad, placedBack, carries, _⟩
    have shows := carries true _ ⟨rfl, rfl, rfl⟩
    exact ⟨abroad, back, placedAbroad, placedBack, shows.showsAbroad, shows.showsBack⟩

/-! ## Old flags -/

theorem exists_flag? {value : Value} (notObject : value.isObject = false)
    (notArray : value.isArray = false) : ∃ shown, value.flag? = some shown := by
  cases value with
  | object members => cases notObject
  | array elements => cases notArray
  | _ => exact ⟨_, rfl⟩

/-- The record is a display capture whose pointer flag is not where the platform looks for it. The
flag may be a boolean, a number or a text. -/
structure HasForeignFlag (platform : Platform) (settings : Members) (flag record : Value) :
    Prop where
  isDisplay : Kind.ofId? (recordId record) = some .display
  otherKey : cursorKeyOfId (recordId record) ≠ cursorKey platform
  hasSettings : record.members.find? "settings" = some (.object settings)
  hasFlag : settings.find? (cursorKeyOfId (recordId record)) = some flag
  notObject : flag.isObject = false
  notArray : flag.isArray = false

/-- An adapted display capture is shown with its pointer flag under the platform's key, and has it
under the old key as well. -/
structure KeepsOldFlag (platform : Platform) (settings : Members) (flag record adapted : Value)
    (shown : Bool) (settingsAfter : Members) : Prop where
  shows : ShowsPointer platform shown settingsAfter adapted
  oldFlag : settingsAfter.find? (cursorKeyOfId (recordId record)) = some flag
  otherSettings : SameApart [cursorKey platform] settings settingsAfter
  others : SameApart ["id", "settings"] record.members adapted.members

theorem HasForeignFlag.keepsOldFlag {platform : Platform} {settings : Members}
    {flag record : Value} (foreign : HasForeignFlag platform settings flag record) {shown : Bool}
    (means : flag.flag? = some shown) :
    KeepsOldFlag platform settings flag record (adaptRecord platform record) shown
      (settings.insert (cursorKey platform) (.boolean shown)) := by
  have notNative : Kind.display.isNative (recordId record) platform = false :=
    Bool.eq_false_iff.mpr fun native => foreign.otherKey (cursorKeyOfId_of_isNative native)
  rcases adaptRecord_display foreign.isDisplay notNative foreign.hasSettings with
    ⟨id, preferred, adapted⟩
  have written : adaptCursor (recordId record) platform settings =
      settings.insert (cursorKey platform) (.boolean shown) := by
    rw [adaptCursor, foreign.hasFlag, Option.bind_some, means]
  rw [adapted, written]
  refine ⟨?_, ?_, SameApart.insert rfl (by simp) _, sameApart_displayRecord _ _ _⟩
  · exact showsPointer_displayRecord preferred record (Entries.find?_insert_self _ _ _)
  · rw [Entries.find?_insert_of_ne foreign.otherKey, foreign.hasFlag]

/-- A display capture that is adapted to a platform with another key gets its pointer flag under
that key, and all its other settings stay. One of them is the flag under the old key: it is copied,
and there is no case in which it is moved. -/
theorem pointer_flags_stay_behind (platform : Platform) (collection : Collection) (place : Nat)
    (settings : Members) (flag record : Value)
    (placed : collection.records[place]? = some record)
    (foreign : HasForeignFlag platform settings flag record) :
    ∃ shown settingsAfter adapted, flag.flag? = some shown ∧
      (collection.adapt platform).records[place]? = some adapted ∧
      KeepsOldFlag platform settings flag record adapted shown settingsAfter := by
  rcases exists_flag? foreign.notObject foreign.notArray with ⟨shown, means⟩
  refine ⟨shown, _, adaptRecord platform record, means, ?_, foreign.keepsOldFlag means⟩
  rw [Collection.records_adapt, List.getElem?_map, placed]
  rfl

theorem pointer_flags_stay_behind_number :
    let settings : Members := [("capture_cursor", .integer 0), ("show_cursor", .boolean true)]
    let record : Value :=
      .object [("id", .string "monitor_capture"), ("settings", .object settings)]
    let collection : Collection := ⟨[("sources", .array [record])]⟩
    HasForeignFlag .macOS settings (.integer 0) record ∧
      ∃ shown settingsAfter adapted, (Value.integer 0).flag? = some shown ∧
        (collection.adapt .macOS).records[0]? = some adapted ∧
        KeepsOldFlag .macOS settings (.integer 0) record adapted shown settingsAfter := by
  intro settings record collection
  have foreign : HasForeignFlag .macOS settings (.integer 0) record :=
    ⟨by decide, by decide, rfl, rfl, rfl, rfl⟩
  exact ⟨foreign, pointer_flags_stay_behind .macOS collection 0 settings (.integer 0) record rfl
    foreign⟩

end BroadcastScenes
