import BroadcastScenes.Proofs.WrittenEntries

/-!
# Distinct keys

Writing an entry keeps the keys of all entries pairwise different, and brings in no value but its
own. Entries whose keys are different already are what writing them in turn leaves.
-/

namespace BroadcastScenes.Entries

theorem nodup_keys_insert {entries : Entries α} (distinct : (keys entries).Nodup) (key : String)
    (value : α) : (keys (insert key value entries)).Nodup := by
  rw [keys_insert]
  split
  · exact distinct
  · rename_i absent
    rw [List.nodup_append]
    refine ⟨distinct, by simp, ?_⟩
    intro present presentMember added addedMember equal
    rw [List.mem_singleton.mp addedMember] at equal
    exact absent (equal ▸ presentMember)

theorem nodup_keys_insertAll (additions : Entries α) {entries : Entries α}
    (distinct : (keys entries).Nodup) : (keys (insertAll additions entries)).Nodup := by
  induction additions generalizing entries with
  | nil => exact distinct
  | cons head tail induction => exact induction (nodup_keys_insert distinct head.1 head.2)

theorem nodup_keys_ofList (additions : Entries α) : (keys (ofList additions)).Nodup :=
  nodup_keys_insertAll additions List.nodup_nil

theorem mem_of_mem_insert {key : String} {value : α} {entries : Entries α} {entry : String × α}
    (member : entry ∈ insert key value entries) : entry = (key, value) ∨ entry ∈ entries := by
  induction entries with
  | nil => exact .inl (List.mem_singleton.mp member)
  | cons head tail induction =>
      rw [insert] at member
      split at member
      · rcases List.mem_cons.mp member with equal | inTail
        · exact .inl equal
        · exact .inr (List.mem_cons_of_mem _ inTail)
      · rcases List.mem_cons.mp member with equal | inRest
        · exact .inr (equal ▸ List.mem_cons_self)
        · rcases induction inRest with equal | inTail
          · exact .inl equal
          · exact .inr (List.mem_cons_of_mem _ inTail)

theorem mem_of_mem_insertAll {additions entries : Entries α} {entry : String × α}
    (member : entry ∈ insertAll additions entries) : entry ∈ additions ∨ entry ∈ entries := by
  induction additions generalizing entries with
  | nil => exact .inr member
  | cons head tail induction =>
      rcases induction member with inTail | inserted
      · exact .inl (List.mem_cons_of_mem _ inTail)
      · rcases mem_of_mem_insert inserted with equal | inEntries
        · exact .inl (equal ▸ List.mem_cons_self)
        · exact .inr inEntries

theorem mem_of_mem_ofList {additions : Entries α} {entry : String × α}
    (member : entry ∈ ofList additions) : entry ∈ additions := by
  rcases mem_of_mem_insertAll member with inAdditions | inNil
  · exact inAdditions
  · cases inNil

theorem insertAll_of_nodup {additions entries : Entries α}
    (distinct : (keys (entries ++ additions)).Nodup) :
    insertAll additions entries = entries ++ additions := by
  induction additions generalizing entries with
  | nil => rw [List.append_nil]; rfl
  | cons head tail induction =>
      have absent : head.1 ∉ keys entries := by
        intro present
        rw [keys, List.map_append] at distinct
        exact (List.nodup_append.mp distinct).2.2 _ present _ List.mem_cons_self rfl
      have step : entries ++ head :: tail = entries ++ [head] ++ tail := by simp
      rw [step] at distinct ⊢
      rw [← induction distinct, ← insert_of_not_mem absent head.2]
      rfl

theorem ofList_of_nodup {entries : Entries α} (distinct : (keys entries).Nodup) :
    ofList entries = entries :=
  insertAll_of_nodup distinct

theorem mem_of_find?_eq_some {key : String} {value : α} {entries : Entries α}
    (found : find? key entries = some value) : (key, value) ∈ entries := by
  induction entries with
  | nil => cases found
  | cons head tail induction =>
      rw [find?] at found
      split at found
      · rename_i equal
        obtain rfl := Option.some.inj found
        rw [← equal]
        exact List.mem_cons_self
      · exact List.mem_cons_of_mem _ (induction found)

theorem find?_of_mem {key : String} {value : α} {entries : Entries α}
    (distinct : (keys entries).Nodup) (member : (key, value) ∈ entries) :
    find? key entries = some value := by
  induction entries with
  | nil => cases member
  | cons head tail induction =>
      rcases List.nodup_cons.mp distinct with ⟨notInTail, tailDistinct⟩
      rcases List.mem_cons.mp member with rfl | inTail
      · simp [find?]
      · have different : head.1 ≠ key := by
          rintro rfl
          exact notInTail (List.mem_map.mpr ⟨_, inTail, rfl⟩)
        rw [find?, if_neg different]
        exact induction tailDistinct inTail

theorem insert_insert_of_mem {key other : String} {entries : Entries α}
    (present : key ∈ keys entries) (different : other ≠ key) (value : α) (more : α) :
    insert key value (insert other more entries) =
      insert other more (insert key value entries) := by
  induction entries with
  | nil => cases present
  | cons head tail induction =>
      by_cases isKey : head.1 = key
      · simp [insert, isKey, Ne.symm different]
      · have inTail : key ∈ keys tail := (List.mem_cons.mp present).resolve_left (Ne.symm isKey)
        by_cases isOther : head.1 = other
        · simp [insert, isOther, different]
        · simp [insert, isKey, isOther, induction inTail]

theorem insert_insertAll_of_not_mem {key : String} {additions entries : Entries α}
    (absent : key ∉ keys additions) (present : key ∈ keys entries) (value : α) :
    insert key value (insertAll additions entries) =
      insertAll additions (insert key value entries) := by
  induction additions generalizing entries with
  | nil => rfl
  | cons head tail induction =>
      simp only [keys, List.map_cons, List.mem_cons, not_or] at absent
      have stillPresent : key ∈ keys (insert head.1 head.2 entries) :=
        (keys_isPrefix_insert head.1 head.2 entries).subset present
      have later := induction absent.2 stillPresent
      rw [insert_insert_of_mem present (Ne.symm absent.1)] at later
      exact later

theorem insertAll_insert {additions : Entries α} (distinct : (keys additions).Nodup) (key : String)
    (value : α) (entries : Entries α) :
    insertAll (insert key value additions) entries =
      insert key value (insertAll additions entries) := by
  induction additions generalizing entries with
  | nil => rfl
  | cons head tail induction =>
      rcases List.nodup_cons.mp distinct with ⟨notInTail, tailDistinct⟩
      by_cases equal : head.1 = key
      · subst equal
        have placed : head.1 ∈ keys (insert head.1 head.2 entries) := by
          rw [← isSome_find?_iff, find?_insert_self]
          rfl
        have rewritten := insert_insertAll_of_not_mem notInTail placed value
        rw [insert_insert_self] at rewritten
        rw [insert, if_pos rfl]
        exact rewritten.symm
      · rw [insert, if_neg equal]
        exact induction tailDistinct (insert head.1 head.2 entries)

end BroadcastScenes.Entries
