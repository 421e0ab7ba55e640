/-!
# Bytes of a text

Where a text is cut can be counted in the bytes of its UTF-8 form. Such a cut falls between two
characters, or the text has none there.
-/

namespace BroadcastScenes.Text

def bytes (text : List Char) : List UInt8 := text.flatMap String.utf8EncodeChar

/-- The characters that the first so many bytes of a text encode. There are none if the text has
fewer bytes than that, or if a character would be cut through. -/
def takeBytes? : Nat → List Char → Option (List Char)
  | 0, _ => some []
  | _ + 1, [] => none
  | count + 1, c :: rest =>
      if c.utf8Size ≤ count + 1 then (takeBytes? (count + 1 - c.utf8Size) rest).map (c :: ·)
      else none

example : takeBytes? 3 "1é.".toList = some ['1', 'é'] := by decide

example : takeBytes? 2 "1é.".toList = none := by decide

@[simp] theorem bytes_nil : bytes [] = [] := rfl

theorem bytes_cons (c : Char) (rest : List Char) :
    bytes (c :: rest) = String.utf8EncodeChar c ++ bytes rest := rfl

theorem bytes_append (front back : List Char) : bytes (front ++ back) = bytes front ++ bytes back :=
  List.flatMap_append

theorem length_bytes_cons (c : Char) (rest : List Char) :
    (bytes (c :: rest)).length = c.utf8Size + (bytes rest).length := by
  rw [bytes_cons, List.length_append, String.length_utf8EncodeChar]

/-- What can be taken is what stands in front of a cut between two characters. -/
theorem takeBytes?_eq_some_iff {count : Nat} {text front : List Char} :
    takeBytes? count text = some front ↔ front <+: text ∧ (bytes front).length = count := by
  constructor
  · intro taken
    induction text generalizing count front with
    | nil =>
        cases count with
        | zero =>
            cases taken
            exact ⟨List.prefix_rfl, rfl⟩
        | succ count => cases taken
    | cons c rest induction =>
        cases count with
        | zero =>
            cases taken
            exact ⟨List.nil_prefix, rfl⟩
        | succ count =>
            rw [takeBytes?] at taken
            split at taken
            · rename_i fits
              rcases Option.map_eq_some_iff.mp taken with ⟨more, takenMore, rfl⟩
              rcases induction takenMore with ⟨isFront, length⟩
              refine ⟨(List.prefix_cons_inj c).mpr isFront, ?_⟩
              rw [length_bytes_cons, length]
              omega
            · cases taken
  · rintro ⟨⟨back, rfl⟩, rfl⟩
    induction front with
    | nil => rw [bytes_nil, List.length_nil, takeBytes?]
    | cons c rest induction =>
        have positive := c.utf8Size_pos
        have size := length_bytes_cons c rest
        obtain ⟨count, length⟩ := Nat.exists_eq_succ_of_ne_zero
          (by omega : (bytes (c :: rest)).length ≠ 0)
        have left : count + 1 - c.utf8Size = (bytes rest).length := by omega
        rw [length, List.cons_append, takeBytes?, if_pos (by omega), left, induction]
        rfl

theorem le_length_of_takeBytes? {count : Nat} {text front : List Char}
    (taken : takeBytes? count text = some front) : count ≤ (bytes text).length := by
  rcases takeBytes?_eq_some_iff.mp taken with ⟨⟨back, rfl⟩, rfl⟩
  rw [bytes_append, List.length_append]
  exact Nat.le_add_right _ _

theorem isValid_of_takeBytes? {count : Nat} {text front : List Char}
    (taken : takeBytes? count text = some front) :
    String.Pos.Raw.IsValid (String.ofList text) ⟨count⟩ := by
  rcases takeBytes?_eq_some_iff.mp taken with ⟨⟨back, rfl⟩, rfl⟩
  have size : (String.ofList front).utf8ByteSize = (bytes front).length := by
    rw [← String.size_toByteArray, String.toByteArray_ofList, List.utf8Encode,
      List.size_toByteArray, bytes]
  rw [String.Pos.Raw.isValid_iff_exists_append]
  exact ⟨String.ofList front, String.ofList back, String.ofList_append,
    String.Pos.Raw.ext size.symm⟩

/-! ## Characters of ASCII -/

def IsAscii (text : List Char) : Prop := ∀ c ∈ text, c.toNat < 128

theorem bytes_cons_of_ascii {c : Char} (ascii : c.toNat < 128) (rest : List Char) :
    bytes (c :: rest) = c.toUInt8 :: bytes rest := by
  have small : c.val ≤ 127 := UInt32.le_iff_toNat_le.mpr (Nat.le_of_lt_succ ascii)
  rw [bytes_cons, String.utf8EncodeChar_eq_singleton (Char.utf8Size_eq_one_iff.mpr small)]
  rfl

theorem exists_bytes_cons_of_not_ascii {c : Char} (notAscii : 128 ≤ c.toNat) (rest : List Char) :
    ∃ first more, bytes (c :: rest) = first :: more ∧ 128 ≤ first.toNat := by
  have large : ¬ c.val.toNat ≤ 127 := Nat.not_le_of_gt notAscii
  rw [bytes_cons, String.utf8EncodeChar]
  simp only [if_neg large]
  split
  · refine ⟨_, _, rfl, ?_⟩
    rw [UInt8.toNat_ofNat']
    omega
  · split
    · refine ⟨_, _, rfl, ?_⟩
      rw [UInt8.toNat_ofNat']
      omega
    · refine ⟨_, _, rfl, ?_⟩
      rw [UInt8.toNat_ofNat']
      omega

theorem IsAscii.length_bytes {text : List Char} (isAscii : IsAscii text) :
    (bytes text).length = text.length := by
  induction text with
  | nil => rfl
  | cons c rest induction =>
      have more := induction fun other member => isAscii other (List.mem_cons_of_mem _ member)
      rw [bytes_cons_of_ascii (isAscii c List.mem_cons_self), List.length_cons, more,
        List.length_cons]

theorem toNat_toUInt8_of_ascii {c : Char} (ascii : c.toNat < 128) : c.toUInt8.toNat = c.toNat :=
  Nat.mod_eq_of_lt (Nat.lt_trans ascii (by decide))

theorem head?_bytes_eq_iff (mark : Char) (markAscii : mark.toNat < 128) (text : List Char) :
    (bytes text).head? = some mark.toUInt8 ↔ text.head? = some mark := by
  cases text with
  | nil => simp
  | cons c rest =>
      rcases Nat.lt_or_ge c.toNat 128 with ascii | notAscii
      · rw [bytes_cons_of_ascii ascii, List.head?_cons, List.head?_cons, Option.some_inj,
          Option.some_inj, ← UInt8.toNat_inj, toNat_toUInt8_of_ascii ascii,
          toNat_toUInt8_of_ascii markAscii, Char.toNat_inj]
      · rcases exists_bytes_cons_of_not_ascii notAscii rest with ⟨first, more, split, large⟩
        have markByte := toNat_toUInt8_of_ascii markAscii
        rw [split, List.head?_cons, List.head?_cons, Option.some_inj, Option.some_inj]
        constructor
        · rintro rfl
          omega
        · rintro rfl
          omega

end BroadcastScenes.Text
