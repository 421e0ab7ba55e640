import BroadcastScenes.Entries

/-!
# Written entries

After entries have been written in turn, each key has the value that was written under it last. That
is the first value for the key when what was written is read from its end.
-/

namespace BroadcastScenes.Entries

theorem find?_append (key : String) (front back : Entries α) :
    find? key (front ++ back) = (find? key front).or (find? key back) := by
  induction front with
  | nil => rfl
  | cons head tail induction =>
      by_cases equal : head.1 = key
      · simp [find?, equal]
      · simpa [find?, equal] using induction

def mapValues (change : α → β) (entries : Entries α) : Entries β :=
  entries.map fun entry => (entry.1, change entry.2)

theorem mapValues_append (change : α → β) (front back : Entries α) :
    mapValues change (front ++ back) = mapValues change front ++ mapValues change back :=
  List.map_append

theorem mapValues_reverse (change : α → β) (entries : Entries α) :
    mapValues change entries.reverse = (mapValues change entries).reverse :=
  List.map_reverse

theorem find?_mapValues (key : String) (change : α → β) (entries : Entries α) :
    find? key (mapValues change entries) = (find? key entries).map change := by
  induction entries with
  | nil => rfl
  | cons head tail induction =>
      by_cases equal : head.1 = key
      · simp [mapValues, find?, equal]
      · simpa [mapValues, find?, equal] using induction

theorem find?_insert (key other : String) (value : α) (entries : Entries α) :
    find? key (insert other value entries) =
      if other = key then some value else find? key entries := by
  by_cases equal : other = key
  · rw [if_pos equal, ← equal, find?_insert_self]
  · rw [if_neg equal, find?_insert_of_ne (Ne.symm equal)]

theorem insert_insert_self (key : String) (first second : α) (entries : Entries α) :
    insert key second (insert key first entries) = insert key second entries := by
  induction entries with
  | nil => simp [insert]
  | cons head tail induction =>
      by_cases equal : head.1 = key
      · simp [insert, equal]
      · simp [insert, equal, induction]

theorem insert_of_find? {key : String} {value : α} {entries : Entries α}
    (found : find? key entries = some value) : insert key value entries = entries := by
  induction entries with
  | nil => cases found
  | cons head tail induction =>
      rw [find?] at found
      split at found
      · rename_i equal
        obtain rfl := Option.some.inj found
        simp [insert, ← equal]
      · rename_i different
        simp [insert, different, induction found]

theorem keys_isPrefix_insert (key : String) (value : α) (entries : Entries α) :
    keys entries <+: keys (insert key value entries) := by
  rw [keys_insert]
  split
  · exact List.prefix_rfl
  · exact List.prefix_append _ _

theorem insertAll_append (first second entries : Entries α) :
    insertAll (first ++ second) entries = insertAll second (insertAll first entries) :=
  List.foldl_append

theorem find?_insertAll (key : String) (additions entries : Entries α) :
    find? key (insertAll additions entries) =
      (find? key additions.reverse).or (find? key entries) := by
  induction additions generalizing entries with
  | nil => rfl
  | cons head tail induction =>
      have rest := induction (insert head.1 head.2 entries)
      rw [insertAll, List.foldl_cons, ← insertAll, rest, find?_insert, List.reverse_cons,
        find?_append, Option.or_assoc]
      congr 1
      by_cases equal : head.1 = key <;> simp [find?, equal]

theorem find?_ofList (key : String) (additions : Entries α) :
    find? key (ofList additions) = find? key additions.reverse := by
  rw [ofList, find?_insertAll]
  exact Option.or_none

theorem keys_mapValues (change : α → β) (entries : Entries α) :
    keys (mapValues change entries) = keys entries := by
  rw [keys, mapValues, List.map_map]
  rfl

theorem mapValues_insert (change : α → β) (key : String) (value : α) (entries : Entries α) :
    mapValues change (insert key value entries) =
      insert key (change value) (mapValues change entries) := by
  induction entries with
  | nil => rfl
  | cons head tail induction =>
      by_cases equal : head.1 = key
      · simp [mapValues, insert, equal]
      · simpa [mapValues, insert, equal] using induction

theorem mapValues_insertAll (change : α → β) (additions entries : Entries α) :
    mapValues change (insertAll additions entries) =
      insertAll (mapValues change additions) (mapValues change entries) := by
  induction additions generalizing entries with
  | nil => rfl
  | cons head tail induction =>
      have later := induction (insert head.1 head.2 entries)
      rw [mapValues_insert] at later
      exact later

theorem mapValues_ofList (change : α → β) (additions : Entries α) :
    mapValues change (ofList additions) = ofList (mapValues change additions) :=
  mapValues_insertAll change additions []

theorem isSome_find?_iff (key : String) (entries : Entries α) :
    (find? key entries).isSome ↔ key ∈ keys entries := by
  induction entries with
  | nil => simp [find?, keys]
  | cons head tail induction =>
      simp only [keys, List.map_cons, List.mem_cons] at induction ⊢
      by_cases equal : head.1 = key
      · simp [find?, equal]
      · simp [find?, equal, Ne.symm equal, induction]

theorem exists_find?_of_mem {key : String} {value : α} {entries : Entries α}
    (member : (key, value) ∈ entries) : ∃ found, find? key entries = some found := by
  apply Option.isSome_iff_exists.mp
  rw [isSome_find?_iff]
  exact List.mem_map_of_mem (f := Prod.fst) member

theorem insert_append_of_not_mem {key : String} {front : Entries α} (absent : key ∉ keys front)
    (value : α) (back : Entries α) :
    insert key value (front ++ back) = front ++ insert key value back := by
  induction front with
  | nil => rfl
  | cons head tail induction =>
      simp only [keys, List.map_cons, List.mem_cons, not_or] at absent
      simp [insert, Ne.symm absent.1, induction absent.2]

theorem insert_of_not_mem {key : String} {entries : Entries α} (absent : key ∉ keys entries)
    (value : α) : insert key value entries = entries ++ [(key, value)] := by
  have inserted := insert_append_of_not_mem absent value []
  rwa [List.append_nil] at inserted

theorem find?_append_of_not_mem {key : String} {front : Entries α} (absent : key ∉ keys front)
    (back : Entries α) : find? key (front ++ back) = find? key back := by
  have missing : find? key front = none := by
    rwa [← isSome_find?_iff, Option.not_isSome_iff_eq_none] at absent
  rw [find?_append, missing, Option.none_or]

/-! ## Entries that are not written -/

def without (left : List String) (entries : Entries α) : Entries α :=
  entries.filter fun entry => !left.contains entry.1

theorem keys_without (left : List String) (entries : Entries α) :
    keys (without left entries) = (keys entries).filter fun key => !left.contains key := by
  rw [keys, keys, without, List.filter_map]
  rfl

theorem without_insert {left : List String} {key : String} (isLeft : key ∈ left) (value : α)
    (entries : Entries α) : without left (insert key value entries) = without left entries := by
  induction entries with
  | nil => simp [without, insert, isLeft]
  | cons head tail induction =>
      by_cases equal : head.1 = key
      · simp [without, insert, equal, isLeft]
      · rw [insert, if_neg equal]
        simp only [without, List.filter_cons] at induction ⊢
        rw [induction]

theorem keys_insert_of_find? {key : String} {old : α} {entries : Entries α}
    (found : find? key entries = some old) (value : α) :
    keys (insert key value entries) = keys entries := by
  have present : key ∈ keys entries := by
    rw [← isSome_find?_iff, found]
    rfl
  rw [keys_insert, if_pos present]

end BroadcastScenes.Entries
