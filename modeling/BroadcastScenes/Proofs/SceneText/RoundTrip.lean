import BroadcastScenes.Proofs.SceneText.Rendering
import BroadcastScenes.Proofs.SceneText.WrittenLines
import BroadcastScenes.Proofs.WrittenEntries

/-!
# Reading what has been written

A document is read back from every text that writes it. With a stack of open blocks this is seen one
line after the other: the lines of an object add its members to the innermost block and leave
everything below as it is.
-/

namespace BroadcastScenes.SceneText

/-! ## Collecting values -/

theorem collect_of_not_mem {key : String} {members : Members}
    (absent : key ∉ Entries.keys members) (value : Value) :
    collect key value members = members ++ [(key, value)] := by
  have missing := Entries.find?_append_of_not_mem absent []
  rw [List.append_nil] at missing
  rw [collect, missing]
  exact Entries.insert_of_not_mem absent value

theorem collect_second {key : String} {members : Members}
    (absent : key ∉ Entries.keys members) (first second : Scalar) :
    collect key second.toValue (members ++ [(key, first.toValue)]) =
      members ++ [(key, .array [first.toValue, second.toValue])] := by
  rw [collect, Entries.find?_append_of_not_mem absent]
  cases first <;>
    simp [Entries.find?, Entries.insert, Entries.insert_append_of_not_mem absent, Scalar.toValue]

theorem collect_array {key : String} {members : Members}
    (absent : key ∉ Entries.keys members) (values : List Value) (value : Value) :
    collect key value (members ++ [(key, .array values)]) =
      members ++ [(key, .array (values ++ [value]))] := by
  rw [collect, Entries.find?_append_of_not_mem absent]
  simp [Entries.find?, Entries.insert, Entries.insert_append_of_not_mem absent]

/-! ## Laid out lines -/

theorem LaidOut.exists_append {front back : List Line} {rows : List (List Char)}
    (laidOut : LaidOut (front ++ back) rows) :
    ∃ frontRows backRows, rows = frontRows ++ backRows ∧ LaidOut front frontRows ∧
      LaidOut back backRows := by
  generalize whole : front ++ back = lines at laidOut
  induction laidOut generalizing front with
  | done =>
      rcases List.append_eq_nil_iff.mp whole with ⟨rfl, rfl⟩
      exact ⟨[], [], rfl, .done, .done⟩
  | @blank lines rows row isBlank rest induction =>
      rcases induction whole with ⟨frontRows, backRows, rfl, frontLaidOut, backLaidOut⟩
      exact ⟨row :: frontRows, backRows, rfl, .blank isBlank frontLaidOut, backLaidOut⟩
  | @line lines rows line indent isIndent allowed rest induction =>
      cases front with
      | nil =>
          rw [List.nil_append] at whole
          exact ⟨[], _, rfl, .done, whole ▸ .line isIndent allowed rest⟩
      | cons head tail =>
          rcases List.cons.inj whole with ⟨rfl, split⟩
          rcases induction split with ⟨frontRows, backRows, rfl, frontLaidOut, backLaidOut⟩
          exact ⟨_ :: frontRows, backRows, rfl, .line isIndent allowed frontLaidOut, backLaidOut⟩

namespace BlockStack

def Leads (stack : BlockStack) (lines : List Line) (next : BlockStack) : Prop :=
  ∀ rows, LaidOut lines rows → ∀ first,
    (Text.numberFrom first rows).foldlM step stack = .ok next

theorem leads_nil (stack : BlockStack) : stack.Leads [] stack := by
  intro rows laidOut
  induction rows with
  | nil => exact leadsTo_nil stack
  | cons row rows induction =>
      cases laidOut with
      | blank isBlank rest => exact LeadsTo.cons (step_of_isBlank isBlank stack) (induction rest)

theorem leads_line {stack next : BlockStack} {line : Line}
    (steps : ∀ number indent, Text.IsIndent indent → (line.indentable = false → indent = []) →
      stack.step ⟨number, indent ++ line.content⟩ = .ok next) : stack.Leads [line] next := by
  intro rows laidOut
  induction rows with
  | nil => cases laidOut
  | cons row rows induction =>
      cases laidOut with
      | blank isBlank rest => exact LeadsTo.cons (step_of_isBlank isBlank stack) (induction rest)
      | line isIndent allowed rest =>
          exact LeadsTo.cons (fun number => steps number _ isIndent allowed)
            (leads_nil next rows rest)

theorem Leads.append {stack middle next : BlockStack} {front back : List Line}
    (first : stack.Leads front middle) (second : middle.Leads back next) :
    stack.Leads (front ++ back) next := by
  intro rows laidOut
  rcases laidOut.exists_append with ⟨frontRows, backRows, rfl, frontLaidOut, backLaidOut⟩
  exact LeadsTo.append (first _ frontLaidOut) (second _ backLaidOut)

/-- From its header to the line that closes it a block leaves what is below it alone, and then it is
kept there. -/
theorem Leads.block {stack : BlockStack} {header : Line} {lines : List Line} {key : String}
    {empty full : Block} (opened : stack.Leads [header] (stack.push key empty))
    (inside : (stack.push key empty).Leads lines (stack.push key full)) :
    stack.Leads (blockLines header lines) (stack.keep key full.toValue) := by
  have closed : (stack.push key full).Leads [closingLine] (stack.keep key full.toValue) :=
    leads_line fun number indent _ _ => step_closing stack key number indent full
  exact opened.append (inside.append closed)

/-! ## Objects and lists of objects -/

section

variable (below : BlockStack) (key : String)

theorem leads_item (members : Members) (item : ItemKey) (value : Scalar) :
    (below.push key (.object members)).Leads [itemLine item value]
      (below.push key (.object (collect item.text value.toValue members))) :=
  leads_line fun number _ isIndent _ => step_item below key number isIndent members item value

theorem keep_object {members : Members} {item : String} (absent : item ∉ Entries.keys members)
    (value : Value) :
    (below.push key (.object members)).keep item value =
      below.push key (.object (members ++ [(item, value)])) := by
  rw [← Entries.insert_of_not_mem absent]
  rfl

theorem keep_list (values : List Value) {members : Members}
    (absent : "name" ∉ Entries.keys members) (name : String) :
    (below.push key (.list values)).keep name (.object members) =
      below.push key (.list (values ++ [.object (members ++ [("name", .string name)])])) := by
  rw [← Entries.insert_of_not_mem absent]
  rfl

theorem leads_header_object (members : Members) (item : ObjectKey) :
    (below.push key (.object members)).Leads [headerLine item.text]
      ((below.push key (.object members)).push item.text (.object [])) := by
  apply leads_line
  intro number indent isIndent _
  rw [step_header_object below key number isIndent members item.toBlockKey,
    openedInObject_of_not_isListKey item.notList, String.ofList_toList]

theorem leads_header_sources (members : Members) :
    (below.push key (.object members)).Leads [headerLine "sources"]
      ((below.push key (.object members)).push "sources" (.list [])) :=
  leads_line fun number _ isIndent _ =>
    step_header_object below key number isIndent members sourcesKey

theorem leads_header_list (values : List Value) (name : BlockKey) :
    (below.push key (.list values)).Leads [headerLine name.text]
      ((below.push key (.list values)).push name.text (.object [])) :=
  leads_line fun number _ isIndent _ =>
    step_header_list below key number isIndent values name

theorem leads_more_values {members : Members} (item : ItemKey)
    (absent : item.text ∉ Entries.keys members) (more : List Scalar) (values : List Value) :
    (below.push key (.object (members ++ [(item.text, .array values)]))).Leads
      (more.map (itemLine item))
      (below.push key (.object (members ++
        [(item.text, .array (values ++ more.map Scalar.toValue))]))) := by
  induction more generalizing values with
  | nil => simpa using leads_nil _
  | cons head tail induction =>
      have first := leads_item below key (members ++ [(item.text, .array values)]) item head
      rw [collect_array absent] at first
      simpa using first.append (induction (values ++ [head.toValue]))

theorem leads_values {members : Members} (item : ItemKey)
    (absent : item.text ∉ Entries.keys members) (first second : Scalar) (more : List Scalar) :
    (below.push key (.object members)).Leads ((first :: second :: more).map (itemLine item))
      (below.push key (.object (members ++
        [(item.text, .array ((first :: second :: more).map Scalar.toValue))]))) := by
  have one := leads_item below key members item first
  have two := leads_item below key (members ++ [(item.text, first.toValue)]) item second
  rw [collect_of_not_mem absent] at one
  rw [collect_second absent] at two
  exact one.append (two.append (leads_more_values below key item absent more _))

theorem Leads.member {front back : List Line} {members more : Members} {entry : String × Value}
    (first : (below.push key (.object members)).Leads front
      (below.push key (.object (members ++ [entry]))))
    (later : (below.push key (.object (members ++ [entry]))).Leads back
      (below.push key (.object (members ++ [entry] ++ more)))) :
    (below.push key (.object members)).Leads (front ++ back)
      (below.push key (.object (members ++ entry :: more))) := by
  rw [List.append_assoc] at later
  exact first.append later

end

theorem fresh_rest {body : Body} {members : Members} {item : String} {value : Value}
    (absent : item ∉ body.keys) (fresh : ∀ key ∈ item :: body.keys, key ∉ Entries.keys members) :
    ∀ key ∈ body.keys, key ∉ Entries.keys (members ++ [(item, value)]) := by
  intro key member
  rw [Entries.keys, List.map_append, List.mem_append, not_or]
  refine ⟨fresh key (List.mem_cons_of_mem _ member), ?_⟩
  intro equal
  rw [List.map_singleton, List.mem_singleton] at equal
  subst equal
  exact absent member

-- The members that have been read stand in front of those of the body. Each constructor adds its
-- member behind them, and the rest of the body follows.
mutual

theorem leads_body (below : BlockStack) (key : String) (members : Members) :
    (body : Body) → body.Distinct → (∀ key ∈ body.keys, key ∉ Entries.keys members) →
    (below.push key (.object members)).Leads body.lines
      (below.push key (.object (members ++ body.members)))
  | .nil, _, _ => by
      simpa [Body.lines, Body.members] using leads_nil _
  | .value item value rest, distinct, fresh => by
      have one := leads_item below key members item value
      rw [collect_of_not_mem (fresh _ List.mem_cons_self)] at one
      exact one.member below key
        (leads_body below key _ rest distinct.2 (fresh_rest distinct.1 fresh))
  | .values item first second more rest, distinct, fresh => by
      have all := leads_values below key item (fresh _ List.mem_cons_self) first second more
      exact all.member below key
        (leads_body below key _ rest distinct.2 (fresh_rest distinct.1 fresh))
  | .object item inner rest, distinct, fresh => by
      have block := (leads_header_object below key members item).block
        (leads_body (below.push key (.object members)) item.text [] inner distinct.2.1
          fun _ _ => List.not_mem_nil)
      rw [keep_object below key (fresh _ List.mem_cons_self)] at block
      exact block.member below key
        (leads_body below key _ rest distinct.2.2 (fresh_rest distinct.1 fresh))
  | .sources objects rest, distinct, fresh => by
      have block := (leads_header_sources below key members).block
        (leads_objects (below.push key (.object members)) "sources" [] objects distinct.2.1)
      rw [keep_object below key (fresh _ List.mem_cons_self)] at block
      exact block.member below key
        (leads_body below key _ rest distinct.2.2 (fresh_rest distinct.1 fresh))

theorem leads_objects (below : BlockStack) (key : String) (values : List Value) :
    (objects : Objects) → objects.Distinct →
    (below.push key (.list values)).Leads objects.lines
      (below.push key (.list (values ++ objects.values)))
  | .nil, _ => by
      simpa [Objects.lines, Objects.values] using leads_nil _
  | .cons name body rest, distinct => by
      have block := (leads_header_list below key values name).block
        (leads_body (below.push key (.list values)) name.text [] body distinct.2.1
          fun _ _ => List.not_mem_nil)
      have later := leads_objects below key (values ++
        [.object (body.members ++ [("name", .string name.text)])]) rest distinct.2.2
      rw [List.nil_append, Block.toValue, keep_list below key values distinct.1] at block
      rw [List.append_assoc] at later
      exact block.append later

end

/-! ## Documents -/

theorem topKey_header (block : TopBlock) {indent : List Char} (isIndent : Text.IsIndent indent)
    (allowed : block.header.indentable = false → indent = []) :
    topKey (indent ++ block.header.content) = block.key := by
  cases block with
  | shared objects =>
      rw [allowed rfl]
      have trimmed : Text.trimEnd sharedHeader = sharedHeader := by decide
      exact if_pos trimmed
  | scenes objects =>
      have trimmed : Text.trimEnd (indent ++ (headerLine "scenes").content) =
          indent ++ (headerLine "scenes").content := by
        have split : indent ++ (headerLine "scenes").content =
            (indent ++ "scenes".toList ++ [' ', ':', ' ']) ++ ['\x7b'] := by
          simp [headerLine, headerEnd]
        rw [split, Text.trimEnd_append_singleton Text.isBlank_openingBrace]
      have different : indent ++ (headerLine "scenes").content ≠ sharedHeader := by
        intro equal
        have dropped := congrArg Text.dropIndent equal
        rw [Text.dropIndent_append isIndent] at dropped
        exact absurd dropped (by decide)
      exact if_neg fun equal => different (trimmed.symm.trans equal)

theorem leads_header_top (members : Members) (block : TopBlock) :
    Leads ⟨members, []⟩ [block.header] (push ⟨members, []⟩ block.key (.list [])) := by
  apply leads_line
  intro number indent isIndent allowed
  have key := topKey_header block isIndent allowed
  cases block with
  | shared objects =>
      have steps := step_header_top number isIndent members sharedKey
      exact key ▸ steps
  | scenes objects =>
      have steps := step_header_top number isIndent members scenesKey
      exact key ▸ steps

theorem leads_topBlock (members : Members) (block : TopBlock)
    (absent : block.key ∉ Entries.keys members) (distinct : block.objects.Distinct) :
    Leads ⟨members, []⟩ block.lines
      ⟨members ++ [(block.key, .array block.objects.values)], []⟩ := by
  have whole := (leads_header_top members block).block
    (leads_objects ⟨members, []⟩ block.key [] block.objects distinct)
  rw [← Entries.insert_of_not_mem absent]
  exact whole

theorem leads_blocks (members : Members) (blocks : List TopBlock)
    (nodup : (Entries.keys members ++ blocks.map TopBlock.key).Nodup)
    (distinct : ∀ block ∈ blocks, block.objects.Distinct) :
    Leads ⟨members, []⟩ (blocks.flatMap TopBlock.lines)
      ⟨members ++ blocks.map fun block => (block.key, .array block.objects.values), []⟩ := by
  induction blocks generalizing members with
  | nil => simpa using leads_nil _
  | cons block rest induction =>
      have absent : block.key ∉ Entries.keys members := by
        intro member
        exact (List.nodup_append.mp nodup).2.2 _ member _ List.mem_cons_self rfl
      have first := leads_topBlock members block absent (distinct block List.mem_cons_self)
      have later := induction (members ++ [(block.key, .array block.objects.values)])
        (by simpa [Entries.keys] using nodup)
        fun other member => distinct other (List.mem_cons_of_mem _ member)
      rw [List.append_assoc] at later
      exact first.append later

end BlockStack

theorem read_eq_of_isWrittenAs {document : Document} (distinct : document.Distinct)
    {text : String} (written : document.IsWrittenAs text) : read text = .ok document.members := by
  rcases written with ⟨rows, laidOut, joins⟩
  have leads := BlockStack.leads_blocks [] document.blocks document.nodup
    distinct rows laidOut 1
  rw [read, Text.numberedLines, joins.lines_eq, ← BlockStack.run_eq_readBlocks, BlockStack.run,
    leads]
  rfl

/-- Every document in which keys do not repeat can be written, and it is read back from every text
that writes it, whatever the layout and the line terminators are. -/
theorem reading_undoes_writing (document : Document) (distinct : document.Distinct) :
    document.IsWrittenAs document.render ∧
      ∀ text, document.IsWrittenAs text → read text = .ok document.members :=
  ⟨isWrittenAs_render document, fun _ written => read_eq_of_isWrittenAs distinct written⟩

def nestedDocument : Document where
  blocks :=
    [.scenes (.cons (.mk "A : \x7b")
      (.value (.mk "n") (.integer Int64.minValue)
        (.values (.mk "\x7d") (.quoted (.mk "\x7d\" : \x7b")) (.integer 7) []
          (.object (.mk (.mk "a:b"))
            (.value (.mk "" Text.isOneLine_empty) (.quoted (.mk "\\")) .nil)
            (.sources (.cons (.mk "\x7d") .nil .nil) .nil))))
      .nil),
    .shared .nil]

def nestedText : String :=
  "scenes : \x7b\n A : \x7b : \x7b\r\n\n\tn : -9223372036854775808\r" ++
    " \x7d : \"\x7d\" : \x7b\"\n\x7d : 7\r\na:b : \x7b\r   : \"\\\"\n\x7d\n" ++
    "sources : \x7b\n  \x7d : \x7b\n  \x7d\n\x7d\n \x7d\n\x7d\n" ++
    "global sources : \x7b\n\x7d"

theorem reading_undoes_writing_nested :
    nestedDocument.Distinct ∧ nestedDocument.IsWrittenAs nestedText ∧
      read nestedText = .ok nestedDocument.members := by
  have distinct : nestedDocument.Distinct := by
    simp [Document.Distinct, nestedDocument, TopBlock.objects, Objects.Distinct, Body.Distinct,
      Body.keys, Body.members, Entries.keys]
  have written : nestedDocument.IsWrittenAs nestedText := by
    have flush := Text.isIndent_nil
    have space : Text.IsIndent [' '] := by decide
    have spaces : Text.IsIndent [' ', ' '] := by decide
    have tab : Text.IsIndent ['\t'] := by decide
    refine Exists.intro ?rows (And.intro ?laidOut (Text.joins_iff.mpr ?joins))
    case laidOut =>
      refine .line flush ?_ <| .line space ?_ <| @LaidOut.blank _ _ [] rfl <| .line tab ?_ <|
        .line space ?_ <| .line flush ?_ <| .line flush ?_ <| .line spaces ?_ <|
        .line flush ?_ <| .line flush ?_ <| .line spaces ?_ <| .line spaces ?_ <|
        .line flush ?_ <| .line space ?_ <| .line flush ?_ <| .line flush ?_ <|
        .line flush ?_ .done <;> decide
    case joins => decide +kernel
  exact ⟨distinct, written, (reading_undoes_writing nestedDocument distinct).2 _ written⟩

end BroadcastScenes.SceneText
