import BroadcastScenes.Proofs.DistinctKeys
import BroadcastScenes.Proofs.Json.WrittenValues

/-!
# Compact texts

The compact text of a value is read back as the value with its doubles read again, as long as the
value does not nest deeper than a reader allows. Values that are deeper have a text too, but no
reader takes it.
-/

namespace BroadcastScenes.Json

/-! ## Arrays -/

theorem takes_array {text rest : List Char} {written : List Written}
    (noBlanks : skipBlanks text = text) (takes : Takes (takeArray? text) written rest) :
    Takes (takeValue? ('[' :: text)) (.array written) rest := by
  rw [← noBlanks] at takes
  rcases takes with ⟨shorter, taken⟩
  have within := length_skipBlanks_le text
  refine ⟨by rw [List.length_cons]; omega, ?_⟩
  rw [takeValue?, taken]
  rfl

theorem takes_moreElements_end (rest : List Char) :
    Takes (takeMoreElements? (skipBlanks (']' :: rest))) [] rest := by
  rw [skipBlanks_cons rfl]
  exact ⟨Nat.lt_succ_self _, by rw [takeMoreElements?]⟩

theorem takes_moreElements_comma {text rest : List Char} {written : List Written}
    (noBlanks : skipBlanks text = text) (takes : Takes (takeElements? text) written rest) :
    Takes (takeMoreElements? (skipBlanks (',' :: text))) written rest := by
  rw [skipBlanks_cons rfl]
  rw [← noBlanks] at takes
  rcases takes with ⟨shorter, taken⟩
  have within := length_skipBlanks_le text
  refine ⟨by rw [List.length_cons]; omega, ?_⟩
  rw [takeMoreElements?, taken]
  rfl

theorem takes_elements {text afterFirst rest : List Char} {first : Written} {more : List Written}
    (takes : Takes (takeValue? text) first afterFirst)
    (takesMore : Takes (takeMoreElements? (skipBlanks afterFirst)) more rest) :
    Takes (takeElements? text) (first :: more) rest := by
  rcases takes with ⟨shorter, taken⟩
  rcases takesMore with ⟨shorterMore, takenMore⟩
  have within := length_skipBlanks_le afterFirst
  refine ⟨by omega, ?_⟩
  rw [takeElements?, taken]
  simp only [Option.bind_eq_bind, Option.bind_some, takenMore]
  rfl

theorem exists_head_elements {first : Json} (isWritable : first.IsWritable) (more : List Json) :
    ∃ head tail, compactElements (first :: more) = head :: tail ∧ isBlank head = false ∧
      head ≠ ']' := by
  rcases isWritable.exists_head with ⟨head, tail, text, notBlank, notEnd⟩
  cases more with
  | nil => exact ⟨head, tail, text, notBlank, notEnd⟩
  | cons second others =>
      refine ⟨head, tail ++ ',' :: compactElements (second :: others), ?_, notBlank, notEnd⟩
      rw [compactElements, text, List.cons_append]

theorem skipBlanks_elements {first : Json} (isWritable : first.IsWritable) (more : List Json)
    (rest : List Char) :
    skipBlanks (compactElements (first :: more) ++ rest) =
      compactElements (first :: more) ++ rest := by
  rcases exists_head_elements isWritable more with ⟨head, tail, text, notBlank, _⟩
  rw [text, List.cons_append]
  exact skipBlanks_cons notBlank _

theorem elementsMeaning?_cons {room firstDepth moreDepth : Nat} {written : Written}
    {others : List Written} {first : Json} {more : List Json}
    (means : written.meaning? room = if firstDepth ≤ room then some first else none)
    (othersMean : elementsMeaning? room others = if moreDepth ≤ room then some more else none) :
    elementsMeaning? room (written :: others) =
      if max firstDepth moreDepth ≤ room then some (first :: more) else none := by
  rw [elementsMeaning?, means, othersMean]
  by_cases fits : firstDepth ≤ room
  · by_cases othersFit : moreDepth ≤ room
    · rw [if_pos fits, if_pos othersFit, if_pos (max_le fits othersFit)]
      rfl
    · rw [if_pos fits, if_neg othersFit,
        if_neg fun both => othersFit ((le_max_right _ _).trans both)]
      rfl
  · rw [if_neg fits, if_neg fun both => fits ((le_max_left _ _).trans both)]
    rfl

theorem exists_takes_elements {elements : List Json}
    (writable : ∀ element ∈ elements, element.IsWritable)
    (readsBack : ∀ element ∈ elements, element.ReadsBack) (notEmpty : elements ≠ [])
    (rest : List Char) :
    ∃ written, Takes (takeElements? (compactElements elements ++ ']' :: rest)) written rest ∧
      ∀ room, elementsMeaning? room written =
        if depthOfElements elements ≤ room then some (rereadElements elements) else none := by
  induction elements with
  | nil => exact absurd rfl notEmpty
  | cons first more induction =>
      have firstReads := readsBack first List.mem_cons_self
      cases more with
      | nil =>
          rcases firstReads (']' :: rest) (endsNumber_end rest) with ⟨written, takes, means⟩
          refine ⟨[written], takes_elements takes (takes_moreElements_end rest), ?_⟩
          intro room
          exact elementsMeaning?_cons (means room) (if_pos (Nat.zero_le _)).symm
      | cons second others =>
          rcases induction (fun element member => writable element (List.mem_cons_of_mem _ member))
            (fun element member => readsBack element (List.mem_cons_of_mem _ member))
            (List.cons_ne_nil _ _) with ⟨othersWritten, othersTaken, othersMean⟩
          have secondWritable := writable second (List.mem_cons_of_mem _ List.mem_cons_self)
          have behind := takes_moreElements_comma
            (skipBlanks_elements secondWritable others (']' :: rest)) othersTaken
          rcases firstReads _ (endsNumber_comma _) with ⟨written, takes, means⟩
          refine ⟨written :: othersWritten, ?_, ?_⟩
          · rw [compactElements, List.append_assoc, List.cons_append]
            exact takes_elements takes behind
          · intro room
            exact elementsMeaning?_cons (means room) (othersMean room)

theorem meaning?_container {α : Type} {room depth : Nat} {meaning? : Nat → Option α} {parts : α}
    (means : ∀ room, meaning? room = if depth ≤ room then some parts else none)
    (container : α → Json) :
    (if room = 0 then none else (meaning? (room - 1)).map container) =
      if depth + 1 ≤ room then some (container parts) else none := by
  rw [means]
  by_cases fits : depth + 1 ≤ room
  · rw [if_neg (by omega), if_pos (by omega), if_pos fits]
    rfl
  · rw [if_neg fits]
    split
    · rfl
    · rw [if_neg (by omega)]
      rfl

theorem readsBack_array {elements : List Json}
    (writable : ∀ element ∈ elements, element.IsWritable)
    (readsBack : ∀ element ∈ elements, element.ReadsBack) : (Json.array elements).ReadsBack := by
  intro rest _
  have text : (Json.array elements).compactText ++ rest =
      '[' :: (compactElements elements ++ ']' :: rest) := by simp [compactText]
  rw [text]
  cases elements with
  | nil =>
      have taken : Takes (takeArray? (']' :: rest)) [] rest :=
        ⟨Nat.lt_succ_self _, by rw [takeArray?]⟩
      refine ⟨.array [], takes_array (skipBlanks_cons rfl rest) taken, ?_⟩
      intro room
      exact meaning?_container (fun _ => (if_pos (Nat.zero_le _)).symm) Json.array
  | cons first more =>
      have firstWritable := writable first List.mem_cons_self
      rcases exists_takes_elements writable readsBack (List.cons_ne_nil _ _) rest with
        ⟨written, takes, means⟩
      have taken : Takes (takeArray? (compactElements (first :: more) ++ ']' :: rest)) written
          rest := by
        rcases exists_head_elements firstWritable more with ⟨head, tail, headText, _, notEnd⟩
        rw [headText, List.cons_append] at takes ⊢
        rw [takeArray?]
        · exact takes
        · intro behind equal
          exact absurd (List.cons.inj equal).1 notEnd
      refine ⟨.array written,
        takes_array (skipBlanks_elements firstWritable more (']' :: rest)) taken, ?_⟩
      intro room
      exact meaning?_container means Json.array

/-! ## Objects -/

theorem takes_object {text rest : List Char} {written : List (Option String × Written)}
    (noBlanks : skipBlanks text = text) (takes : Takes (takeObject? text) written rest) :
    Takes (takeValue? ('\x7b' :: text)) (.object written) rest := by
  rw [← noBlanks] at takes
  rcases takes with ⟨shorter, taken⟩
  have within := length_skipBlanks_le text
  refine ⟨by rw [List.length_cons]; omega, ?_⟩
  rw [takeValue?, taken]
  rfl

theorem takes_moreMembers_end (rest : List Char) :
    Takes (takeMoreMembers? (skipBlanks ('\x7d' :: rest))) [] rest := by
  rw [skipBlanks_cons rfl]
  exact ⟨Nat.lt_succ_self _, by rw [takeMoreMembers?]⟩

theorem takes_moreMembers_comma {text rest : List Char}
    {written : List (Option String × Written)} (noBlanks : skipBlanks text = text)
    (takes : Takes (takeMembers? text) written rest) :
    Takes (takeMoreMembers? (skipBlanks (',' :: text))) written rest := by
  rw [skipBlanks_cons rfl]
  rw [← noBlanks] at takes
  rcases takes with ⟨shorter, taken⟩
  have within := length_skipBlanks_le text
  refine ⟨by rw [List.length_cons]; omega, ?_⟩
  rw [takeMoreMembers?, taken]
  rfl

theorem takes_key (key : String) (rest : List Char) :
    Takes (takeKey? (quoted key ++ ':' :: rest)) (some key) rest := by
  have split : quoted key ++ ':' :: rest =
      '"' :: (key.toList.flatMap escapedText ++ '"' :: ':' :: rest) := by simp [quoted]
  rcases takes_string key (':' :: rest) with ⟨shorter, taken⟩
  rw [split]
  have colon : skipBlanks (':' :: rest) = ':' :: rest := skipBlanks_cons (by decide) rest
  refine ⟨by simp; omega, ?_⟩
  rw [takeKey?, taken]
  simp only [Option.bind_eq_bind, Option.bind_some]
  split
  · rename_i found separator
    rw [colon] at separator
    obtain rfl := (List.cons.inj separator).2
    rfl
  · rename_i none
    exact absurd colon (none rest)

theorem takes_members {text afterKey afterFirst rest : List Char} {key : String} {first : Written}
    {more : List (Option String × Written)} (takesKey : Takes (takeKey? text) (some key) afterKey)
    (takes : Takes (takeValue? (skipBlanks afterKey)) first afterFirst)
    (takesMore : Takes (takeMoreMembers? (skipBlanks afterFirst)) more rest) :
    Takes (takeMembers? text) ((some key, first) :: more) rest := by
  rcases takesKey with ⟨shorterKey, takenKey⟩
  rcases takes with ⟨shorter, taken⟩
  rcases takesMore with ⟨shorterMore, takenMore⟩
  have within := length_skipBlanks_le afterKey
  have withinFirst := length_skipBlanks_le afterFirst
  refine ⟨by omega, ?_⟩
  rw [takeMembers?, takenKey]
  simp only [Option.bind_eq_bind, Option.bind_some, taken, takenMore]
  rfl

theorem exists_members_eq_cons (member : String × Json) (more : List (String × Json)) :
    ∃ tail, compactMembers (member :: more) = '"' :: tail := by
  cases more with
  | nil => exact ⟨_, rfl⟩
  | cons second others => exact ⟨_, rfl⟩

theorem skipBlanks_members (member : String × Json) (more : List (String × Json))
    (rest : List Char) :
    skipBlanks (compactMembers (member :: more) ++ rest) =
      compactMembers (member :: more) ++ rest := by
  rcases exists_members_eq_cons member more with ⟨tail, text⟩
  rw [text, List.cons_append]
  exact skipBlanks_cons rfl _

theorem membersMeaning?_cons {room firstDepth moreDepth : Nat} {key : String} {written : Written}
    {others : List (Option String × Written)} {first : Json} {more : List (String × Json)}
    (means : written.meaning? room = if firstDepth ≤ room then some first else none)
    (othersMean : membersMeaning? room others = if moreDepth ≤ room then some more else none) :
    membersMeaning? room ((some key, written) :: others) =
      if max firstDepth moreDepth ≤ room then some ((key, first) :: more) else none := by
  rw [membersMeaning?, means, othersMean]
  by_cases fits : firstDepth ≤ room
  · by_cases othersFit : moreDepth ≤ room
    · rw [if_pos fits, if_pos othersFit, if_pos (max_le fits othersFit)]
      rfl
    · rw [if_pos fits, if_neg othersFit,
        if_neg fun both => othersFit ((le_max_right _ _).trans both)]
      rfl
  · rw [if_neg fits, if_neg fun both => fits ((le_max_left _ _).trans both)]
    rfl

theorem exists_takes_member (key : String) {first : Json} (isWritable : first.IsWritable)
    (readsBack : first.ReadsBack) {behind rest : List Char}
    {more : List (Option String × Written)} (ends : EndsNumber behind)
    (takesMore : Takes (takeMoreMembers? (skipBlanks behind)) more rest) :
    ∃ written : Written,
      Takes (takeMembers? (quoted key ++ ':' :: (first.compactText ++ behind)))
        ((some key, written) :: more) rest ∧
      ∀ room, written.meaning? room =
        if first.depth ≤ room then some first.reread else none := by
  rcases readsBack behind ends with ⟨written, takes, means⟩
  have noBlanks : skipBlanks (first.compactText ++ behind) = first.compactText ++ behind := by
    rcases isWritable.exists_head with ⟨head, tail, text, notBlank, _⟩
    rw [text, List.cons_append]
    exact skipBlanks_cons notBlank _
  rw [← noBlanks] at takes
  exact ⟨written, takes_members (takes_key key _) takes takesMore, means⟩

theorem exists_takes_members {members : List (String × Json)}
    (writable : ∀ member ∈ members, member.2.IsWritable)
    (readsBack : ∀ member ∈ members, member.2.ReadsBack) (notEmpty : members ≠ [])
    (rest : List Char) :
    ∃ written, Takes (takeMembers? (compactMembers members ++ '\x7d' :: rest)) written rest ∧
      ∀ room, membersMeaning? room written =
        if depthOfMembers members ≤ room then some (rereadMembers members) else none := by
  induction members with
  | nil => exact absurd rfl notEmpty
  | cons member more induction =>
      rcases member with ⟨key, first⟩
      have firstWritable := writable (key, first) List.mem_cons_self
      have firstReads := readsBack (key, first) List.mem_cons_self
      cases more with
      | nil =>
          rcases exists_takes_member key firstWritable firstReads
            (endsNumber_cons rfl (by decide) ⟨by decide, by decide⟩ rest)
            (takes_moreMembers_end rest) with ⟨written, takes, means⟩
          have noneMean : ∀ room, membersMeaning? room [] =
              if depthOfMembers [] ≤ room then some [] else none :=
            fun _ => (if_pos (Nat.zero_le _)).symm
          refine ⟨_, ?_, fun room => membersMeaning?_cons (means room) (noneMean room)⟩
          rw [compactMembers, List.append_assoc, List.cons_append]
          exact takes
      | cons second others =>
          rcases induction (fun member inRest => writable member (List.mem_cons_of_mem _ inRest))
            (fun member inRest => readsBack member (List.mem_cons_of_mem _ inRest))
            (List.cons_ne_nil _ _) with ⟨othersWritten, othersTaken, othersMean⟩
          have behind := takes_moreMembers_comma
            (skipBlanks_members second others ('\x7d' :: rest)) othersTaken
          rcases exists_takes_member key firstWritable firstReads
            (endsNumber_comma _) behind with ⟨written, takes, means⟩
          refine ⟨_, ?_, fun room => membersMeaning?_cons (means room) (othersMean room)⟩
          rw [compactMembers, List.append_assoc, List.cons_append, List.append_assoc,
            List.cons_append]
          exact takes

theorem readsBack_object {members : List (String × Json)}
    (distinct : (Entries.keys members).Nodup)
    (writable : ∀ member ∈ members, member.2.IsWritable)
    (readsBack : ∀ member ∈ members, member.2.ReadsBack) : (Json.object members).ReadsBack := by
  intro rest _
  have text : (Json.object members).compactText ++ rest =
      '\x7b' :: (compactMembers members ++ '\x7d' :: rest) := by simp [compactText]
  have kept : Entries.ofList (rereadMembers members) = rereadMembers members :=
    Entries.ofList_of_nodup (keys_rereadMembers members ▸ distinct)
  rw [text]
  cases members with
  | nil =>
      have taken : Takes (takeObject? ('\x7d' :: rest)) [] rest :=
        ⟨Nat.lt_succ_self _, by rw [takeObject?]⟩
      refine ⟨.object [], takes_object (skipBlanks_cons rfl rest) taken, ?_⟩
      intro room
      exact meaning?_container (fun _ => (if_pos (Nat.zero_le _)).symm)
        fun members => Json.object (Entries.ofList members)
  | cons member more =>
      rcases exists_takes_members writable readsBack (List.cons_ne_nil _ _) rest with
        ⟨written, takes, means⟩
      have taken : Takes (takeObject? (compactMembers (member :: more) ++ '\x7d' :: rest)) written
          rest := by
        rcases exists_members_eq_cons member more with ⟨tail, startText⟩
        rw [startText, List.cons_append] at takes ⊢
        rw [takeObject?]
        · exact takes
        · intro behind equal
          exact absurd (List.cons.inj equal).1 (by decide)
      refine ⟨.object written,
        takes_object (skipBlanks_members member more ('\x7d' :: rest)) taken, ?_⟩
      intro room
      have meaning : (Written.object written).meaning? room =
          if depthOfMembers (member :: more) + 1 ≤ room then
            some (.object (Entries.ofList (rereadMembers (member :: more)))) else none :=
        meaning?_container means fun members => Json.object (Entries.ofList members)
      rw [kept] at meaning
      exact meaning

theorem IsWritable.readsBack {value : Json} (isWritable : value.IsWritable) : value.ReadsBack := by
  induction isWritable with
  | null =>
      apply readsBack_word .null rfl (by decide) (by decide) _ (fun _ => rfl) rfl
      exact fun rest => ⟨_, rfl⟩
  | boolean flag =>
      cases flag with
      | true =>
          apply readsBack_word (.boolean true) rfl (by decide) (by decide) _ (fun _ => rfl) rfl
          exact fun rest => ⟨_, rfl⟩
      | false =>
          apply readsBack_word (.boolean false) rfl (by decide) (by decide) _ (fun _ => rfl) rfl
          exact fun rest => ⟨_, rfl⟩
  | integer integer =>
      rcases Literal.exists_integerText integer with ⟨literal, isWellFormed, text, means⟩
      exact readsBack_literal isWellFormed text means rfl
  | double isFinite =>
      rcases Literal.exists_readAgain isFinite with ⟨literal, isWellFormed, text, means⟩
      exact readsBack_literal isWellFormed text means rfl
  | string text =>
      apply readsBack_word (.string (some text)) rfl (by decide) (by decide) _ (fun _ => rfl) rfl
      intro rest
      change Takes (takeScalar? ('"' :: (text.toList.flatMap escapedText ++ ['"'] ++ rest))) _ rest
      rw [List.append_assoc]
      exact (takes_string text rest).map Written.string (Nat.le_succ _)
  | array inner induction => exact readsBack_array inner induction
  | object distinct inner induction => exact readsBack_object distinct inner induction

/-- The compact text of a value that can be written is read as this value, read again, unless it
nests too deeply. -/
theorem read?_compact {value : Json} (isWritable : value.IsWritable) :
    read? value.compact = if value.depth ≤ maxDepth then some value.reread else none := by
  rcases isWritable.readsBack [] endsNumber_nil with ⟨written, ⟨shorter, taken⟩, means⟩
  rcases isWritable.exists_head with ⟨head, tail, text, notBlank, _⟩
  have noBlanks : skipBlanks value.compact.toList = value.compactText ++ [] := by
    rw [compact, String.toList_ofList, List.append_nil, text]
    exact skipBlanks_cons notBlank tail
  rw [read?, written?, noBlanks, taken]
  exact means maxDepth

/-! ## What texts mean -/

theorem Literal.isWritable_of_meaning? {literal : Literal} {value : Json}
    (means : literal.meaning? = some value) : value.IsWritable ∧ value.depth = 0 := by
  have double : ∀ number : Float,
      (if (Decimal.Binary.ofFloat number).isFinite then some (Json.double number) else none) =
        some value → value.IsWritable ∧ value.depth = 0 := by
    intro number equal
    split at equal
    · rename_i isFinite
      obtain rfl := Option.some.inj equal
      exact ⟨.double isFinite, rfl⟩
    · cases equal
  rw [meaning?] at means
  split at means
  · exact double _ means
  · split at means
    · exact double _ means
    · split at means
      · obtain rfl := Option.some.inj means
        exact ⟨.integer _, rfl⟩
      · exact double _ means

mutual

/-- Whatever a text means can be written again, and nests no deeper than there was room for. -/
theorem isWritable_of_meaning? (written : Written) {room : Nat} {value : Json}
    (means : written.meaning? room = some value) : value.IsWritable ∧ value.depth ≤ room := by
  cases written with
  | null =>
      obtain rfl := Option.some.inj means
      exact ⟨.null, Nat.zero_le _⟩
  | boolean flag =>
      obtain rfl := Option.some.inj means
      exact ⟨.boolean flag, Nat.zero_le _⟩
  | number literal =>
      rcases Literal.isWritable_of_meaning? means with ⟨isWritable, flat⟩
      exact ⟨isWritable, flat ▸ Nat.zero_le _⟩
  | string text =>
      rcases Option.map_eq_some_iff.mp means with ⟨found, _, rfl⟩
      exact ⟨.string found, Nat.zero_le _⟩
  | array elements =>
      rw [Written.meaning?] at means
      split at means
      · cases means
      · rcases Option.map_eq_some_iff.mp means with ⟨values, elementsMean, rfl⟩
        rcases isWritable_of_elementsMeaning? elements elementsMean with ⟨inner, shallow⟩
        refine ⟨.array inner, ?_⟩
        rw [depth]
        omega
  | object members =>
      rw [Written.meaning?] at means
      split at means
      · cases means
      · rcases Option.map_eq_some_iff.mp means with ⟨values, membersMean, rfl⟩
        rcases isWritable_of_membersMeaning? members membersMean with ⟨inner, shallow⟩
        refine ⟨.object (Entries.nodup_keys_ofList values) fun member kept =>
          inner member (Entries.mem_of_mem_ofList kept), ?_⟩
        have keptShallow : depthOfMembers (Entries.ofList values) ≤ room - 1 :=
          depthOfMembers_le_iff.mpr fun member kept =>
            depthOfMembers_le_iff.mp shallow member (Entries.mem_of_mem_ofList kept)
        rw [depth]
        omega

theorem isWritable_of_elementsMeaning? (elements : List Written) {room : Nat} {values : List Json}
    (mean : elementsMeaning? room elements = some values) :
    (∀ value ∈ values, value.IsWritable) ∧ depthOfElements values ≤ room := by
  cases elements with
  | nil =>
      obtain rfl := Option.some.inj mean
      exact ⟨List.forall_mem_nil _, Nat.zero_le _⟩
  | cons first rest =>
      rw [elementsMeaning?] at mean
      simp only [Option.bind_eq_bind, Option.bind_eq_some_iff] at mean
      rcases mean with ⟨value, firstMeans, others, restMean, equal⟩
      obtain rfl := Option.some.inj equal
      rcases isWritable_of_meaning? first firstMeans with ⟨isWritable, shallow⟩
      rcases isWritable_of_elementsMeaning? rest restMean with ⟨othersWritable, othersShallow⟩
      exact ⟨List.forall_mem_cons.mpr ⟨isWritable, othersWritable⟩,
        Nat.max_le.mpr ⟨shallow, othersShallow⟩⟩

theorem isWritable_of_membersMeaning? (members : List (Option String × Written)) {room : Nat}
    {values : List (String × Json)} (mean : membersMeaning? room members = some values) :
    (∀ member ∈ values, member.2.IsWritable) ∧ depthOfMembers values ≤ room := by
  cases members with
  | nil =>
      obtain rfl := Option.some.inj mean
      exact ⟨List.forall_mem_nil _, Nat.zero_le _⟩
  | cons first rest =>
      rcases first with ⟨key, written⟩
      rw [membersMeaning?] at mean
      simp only [Option.bind_eq_bind, Option.bind_eq_some_iff] at mean
      rcases mean with ⟨name, _, value, firstMeans, others, restMean, equal⟩
      obtain rfl := Option.some.inj equal
      rcases isWritable_of_meaning? written firstMeans with ⟨isWritable, shallow⟩
      rcases isWritable_of_membersMeaning? rest restMean with ⟨othersWritable, othersShallow⟩
      exact ⟨List.forall_mem_cons.mpr ⟨isWritable, othersWritable⟩,
        Nat.max_le.mpr ⟨shallow, othersShallow⟩⟩

end

theorem isWritable_of_read? {text : String} {value : Json} (read : read? text = some value) :
    value.IsWritable ∧ value.depth ≤ maxDepth := by
  rcases Option.bind_eq_some_iff.mp read with ⟨written, _, means⟩
  exact isWritable_of_meaning? written means

end BroadcastScenes.Json
