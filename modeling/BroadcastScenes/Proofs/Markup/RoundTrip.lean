import BroadcastScenes.Proofs.Markup.WrittenLines

/-!
# Reading undoes writing of tags

The lines inside a tag are read up to the line that closes it, whatever follows that line. From this
the outermost tag of a written text is read back.
-/

namespace BroadcastScenes.Markup

open Text (NumberedLine numberFrom)

/-! ## Runs of tags -/

theorem readTags_of_stop {stop : NumberedLine} (stops : opening? stop = .ok none)
    (after : List NumberedLine) :
    ∃ within, readTags (stop :: after) = .ok ⟨[], after, within⟩ := by
  rw [readTags, stops]
  exact ⟨_, rfl⟩

theorem readTags_of_childless {line : NumberedLine} {kind : String} {attributes : Members}
    (opens : opening? line = .ok (some ⟨kind, attributes, true⟩))
    {lines rest : List NumberedLine} {tags : List Tag} {within : rest.length ≤ lines.length}
    (behind : readTags lines = .ok ⟨tags, rest, within⟩) :
    ∃ wider, readTags (line :: lines) = .ok ⟨.mk kind attributes [] :: tags, rest, wider⟩ := by
  refine ⟨by simp; omega, ?_⟩
  rw [readTags, opens]
  simp [bind, Except.bind, behind, Opening.tag]

theorem readTags_of_parent {line : NumberedLine} {kind : String} {attributes : Members}
    (opens : opening? line = .ok (some ⟨kind, attributes, false⟩))
    {lines between rest : List NumberedLine} {children tags : List Tag}
    {withinInside : between.length ≤ lines.length} {within : rest.length ≤ between.length}
    (inside : readTags lines = .ok ⟨children, between, withinInside⟩)
    (behind : readTags between = .ok ⟨tags, rest, within⟩) :
    ∃ wider,
      readTags (line :: lines) = .ok ⟨.mk kind attributes children :: tags, rest, wider⟩ := by
  refine ⟨by simp; omega, ?_⟩
  rw [readTags, opens]
  simp [bind, Except.bind, inside, behind, Opening.tag]

/-- Tags are read up to a line that opens none. Where that line stands in the text, and what is
behind it, makes no difference. -/
theorem readTags_written {forest : Forest} {rows : List (List Char)}
    (writes : Writes Heading.OpensWith forest rows) (first : Nat) {stop : NumberedLine}
    (stops : opening? stop = .ok none) (after : List NumberedLine) :
    ∃ within,
      readTags (numberFrom first rows ++ stop :: after) = .ok ⟨forest.tags, after, within⟩ := by
  induction writes generalizing first stop after with
  | nil => exact readTags_of_stop stops after
  | block isIndent isClosingIndent _ _ inChildren inRest =>
      rw [numberFrom, Text.numberFrom_append, numberFrom, List.cons_append, List.append_assoc,
        List.cons_append]
      rcases inRest _ stops after with ⟨_, behind⟩
      rcases inChildren _ (opening?_closingLine _ isClosingIndent _) _ with ⟨_, inside⟩
      exact readTags_of_parent (opening?_openingLine _ isIndent first) inside behind
  | single isIndent isAllowed _ inRest =>
      rw [numberFrom, List.cons_append]
      rcases inRest _ stops after with ⟨_, behind⟩
      exact readTags_of_childless (opening?_onlyLine _ isAllowed isIndent first) behind

/-! ## Documents -/

theorem not_isPrefix_declaration {heading : Heading}
    (notDeclaration : ¬ "?xml".toList <+: heading.kind.text.toList) {ending : List Char}
    (isEnding : IsEnding ending) {indent : List Char} (isIndent : Text.IsIndent indent) :
    ¬ "<?xml".toList <+: indent ++ heading.line ending := by
  intro begins
  rcases exists_behind_kind heading.attributes isEnding with ⟨c, rest, behind, notKind⟩
  cases indent with
  | nil =>
      have kindBegins : "?xml".toList <+: heading.kind.text.toList ++ c :: rest := by
        rw [← behind]
        exact (List.cons_prefix_cons.mp begins).2
      have absent : c ∉ "?xml".toList := by
        intro member
        have kindChars : "?xml".toList.all isKindChar = true := by decide
        rw [List.all_eq_true.mp kindChars c member] at notKind
        cases notKind
      exact notDeclaration (Text.isPrefix_of_isPrefix_append_cons absent kindBegins)
  | cons head tail =>
      have headIsBracket : '<' = head := (List.cons_prefix_cons.mp begins).1
      rcases isIndent head List.mem_cons_self with rfl | rfl <;> cases headIsBracket

theorem skipDeclaration_append {declaration : List (List Char)}
    (isDeclaration : IsDeclaration declaration) {row : List Char}
    (notDeclaration : ¬ "<?xml".toList <+: row) (rows : List (List Char)) :
    ∃ first, skipDeclaration (numberFrom 1 (declaration ++ row :: rows)) =
      numberFrom first (row :: rows) := by
  rcases isDeclaration with rfl | ⟨line, rfl, begins⟩
  · refine ⟨1, if_neg ?_⟩
    rwa [List.isPrefixOf_iff_prefix]
  · refine ⟨2, if_pos ?_⟩
    rwa [List.isPrefixOf_iff_prefix]

theorem read_eq_of_isWrittenAs {document : Document} {text : String}
    (written : document.IsWrittenAs Heading.OpensWith text) :
    read text = .ok (some document.tag) := by
  rcases document with ⟨root, children, notDeclaration⟩
  rcases written with ⟨declaration, rows, isDeclaration, writes, joins⟩
  rw [read, Text.numberedLines, joins.lines_eq]
  cases writes with
  | @block _ _ _ inner _ indent _ isIndent isClosingIndent inside behind =>
      cases behind
      have notFirst : ¬ "<?xml".toList <+: indent ++ root.openingLine :=
        not_isPrefix_declaration notDeclaration isEnding_bracket isIndent
      rcases skipDeclaration_append isDeclaration notFirst _ with ⟨first, skipped⟩
      rcases readTags_written inside (first + 1)
        (opening?_closingLine root isClosingIndent (first + 1 + inner.length)) []
        with ⟨_, insideRead⟩
      rw [skipped, numberFrom, Text.numberFrom_append]
      simp [numberFrom, opening?_openingLine root isIndent, insideRead, bind, Except.bind,
        Opening.tag, Document.tag, Heading.tag]
  | @single _ _ _ indent spelling isIndent isAllowed behind =>
      cases behind
      have notFirst : ¬ "<?xml".toList <+: indent ++ root.onlyLine spelling :=
        not_isPrefix_declaration notDeclaration (isEnding_ending root spelling) isIndent
      rcases skipDeclaration_append isDeclaration notFirst [] with ⟨first, skipped⟩
      rw [skipped, numberFrom]
      simp [opening?_onlyLine root isAllowed isIndent, bind, Except.bind, Opening.tag,
        Document.tag, Heading.tag, Forest.tags]

/-- Every document can be written, and it is read back from every text that writes it, unless a tag
with nothing inside is spelled like a closing line. -/
theorem written_tags_are_read_back (document : Document) :
    document.IsWrittenAs Heading.OpensWith document.render ∧
      ∀ text, document.IsWrittenAs Heading.OpensWith text →
        read text = .ok (some document.tag) :=
  ⟨isWrittenAs_render _ document, fun _ written => read_eq_of_isWrittenAs written⟩

def placementHeading : Heading where
  kind := .mk "placement"
  attributes :=
    [⟨.ofName, .mk "a > b </placement>"⟩, ⟨.mk "", .mk "/>"⟩, ⟨.mk "/ \"", .mk "1920"⟩]

def itemHeading : Heading := .mk (.mk "item") []

def bareHeading : Heading := .mk (.mk "") []

def placementDocument : Document where
  root := placementHeading
  children := .cons itemHeading .nil <| .cons itemHeading .nil <| .cons itemHeading .nil <|
    .cons bareHeading .nil .nil

def placementText : String :=
  "<?xml version=\"1.0\"?>\r\n" ++
    "<placement name=\"a > b </placement>\" =\"/>\" / \"=\"1920\">\n" ++
    "  <item/>\r\t<item />\n  <item>text <x></item>\n<>\n </>\n</placement>"

theorem written_tags_are_read_back_placement :
    placementDocument.IsWrittenAs Heading.OpensWith placementText ∧
      read placementText = .ok (some placementDocument.tag) := by
  have written : placementDocument.IsWrittenAs Heading.OpensWith placementText := by
    have flush := Text.isIndent_nil
    have space : Text.IsIndent [' '] := by decide
    have spaces : Text.IsIndent [' ', ' '] := by decide
    have tab : Text.IsIndent ['\t'] := by decide
    have slashOpens : itemHeading.OpensWith .slash := by decide
    have spacedSlashOpens : itemHeading.OpensWith .spacedSlash := by decide
    have closedOpens : itemHeading.OpensWith (.closed "text <x>" (by decide)) := by decide
    refine ⟨["<?xml version=\"1.0\"?>".toList], _, .inr ⟨_, rfl, by decide⟩,
      .block flush flush (.single spaces slashOpens <| .single tab spacedSlashOpens <|
        .single spaces closedOpens <| .block flush space .nil .nil) .nil, ?_⟩
    exact Text.joins_iff.mpr (by decide +kernel)
  exact ⟨written, (written_tags_are_read_back placementDocument).2 _ written⟩

def bareDocument : Document where
  root := bareHeading
  children := .nil

/-- That spelling cannot be allowed for a tag without kind and attributes. -/
theorem bare_slash_is_not_read :
    bareDocument.IsWrittenAs (fun _ _ => True) "</>" ∧
      read "</>" = .ok none ∧ read "</>" ≠ .ok (some bareDocument.tag) := by
  have nothing : read "</>" = .ok none := by cbv
  have writes : Writes (fun _ _ => True) (.cons bareDocument.root .nil .nil)
      [[] ++ bareDocument.root.onlyLine .slash] := .single Text.isIndent_nil trivial .nil
  refine ⟨⟨[], _, .inl rfl, writes, Text.joins_iff.mpr (by decide)⟩, nothing, ?_⟩
  rw [nothing]
  simp

end BroadcastScenes.Markup
