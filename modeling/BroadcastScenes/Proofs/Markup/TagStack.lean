import BroadcastScenes.Markup.Reader
import Mathlib.Control.Monad.Basic

/-!
# Tags in one pass

A marked-up text can be read line by line with a stack of the tags that are open. A line that opens
a tag puts it on the stack, unless nothing can be inside it, and any other line takes the innermost
tag off. This gives the same tree as reading a tag within a tag, and the same error at the same
line. The tree has the tags of the lines that were read, in their order, and what stands behind its
end is not read.
-/

namespace BroadcastScenes

namespace Markup

open Text (NumberedLine)

def opensTag (line : List Char) : Bool :=
  let body := Text.dropIndent line
  ['<'].isPrefixOf body && !(['<', '/'].isPrefixOf body)

def lineOpening? (line : List Char) : Option Opening :=
  let body := (Text.dropIndent line).tail
  (readAttributes? [] (body.dropWhile isKindChar)).map fun (attributes, rest) =>
    ⟨String.ofList (body.takeWhile isKindChar), attributes, closesItself rest⟩

structure OpenTag where
  opening : Opening
  children : List Tag := []

namespace OpenTag

def close (tag : OpenTag) : Tag := tag.opening.tag tag.children

def addAll (children : List Tag) (tag : OpenTag) : OpenTag :=
  { tag with children := tag.children ++ children }

theorem addAll_addAll (first second : List Tag) (tag : OpenTag) :
    (tag.addAll first).addAll second = tag.addAll (first ++ second) := by
  simp [addAll]

end OpenTag

/-- What has been read of a text: the outermost tag once it is complete, and until then the tags
that are open, the innermost first. -/
inductive TagStack where
  | complete (root : Tag)
  | reading (innermost : OpenTag) (outer : List OpenTag)

namespace TagStack

def keep (tag : Tag) : List OpenTag → TagStack
  | [] => complete tag
  | around :: outer => reading (around.addAll [tag]) outer

def push (opening : Opening) (outer : List OpenTag) : TagStack :=
  if opening.childless then keep (opening.tag []) outer else reading ⟨opening, []⟩ outer

def pushLine (line : NumberedLine) (outer : List OpenTag) : Except ReadError TagStack :=
  match lineOpening? line.text with
  | none => .error (.malformedAttribute line.number (String.ofList line.text))
  | some opening => .ok (push opening outer)

def step (innermost : OpenTag) (outer : List OpenTag) (line : NumberedLine) :
    Except ReadError TagStack :=
  if opensTag line.text then pushLine line (innermost :: outer)
  else .ok (keep innermost.close outer)

def closeAll (innermost : OpenTag) : List OpenTag → Tag
  | [] => innermost.close
  | around :: outer => closeAll (around.addAll [innermost.close]) outer

/-- Read lines until the root is complete or no line is left. The result is the root and the lines
that have not been read. -/
def run : TagStack → List NumberedLine → Except ReadError (Tag × List NumberedLine)
  | complete root, lines => .ok (root, lines)
  | reading innermost outer, [] => .ok (closeAll innermost outer, [])
  | reading innermost outer, line :: rest => step innermost outer line >>= fun next => run next rest

def readLines : List NumberedLine → Except ReadError (Option (Tag × List NumberedLine))
  | [] => .ok none
  | line :: rest =>
      if opensTag line.text then
        pushLine line [] >>= fun stack => (run stack rest).map some
      else .ok none

def read (text : String) : Except ReadError (Option Tag) :=
  (readLines (skipDeclaration (Text.numberedLines text.toList))).map (Option.map Prod.fst)

end TagStack

/-! ## Both ways of reading agree -/

theorem opening?_of_opensTag {line : NumberedLine} (opens : opensTag line.text = true) :
    opening? line =
      match lineOpening? line.text with
      | none => .error (.malformedAttribute line.number (String.ofList line.text))
      | some opening => .ok (some opening) := by
  rw [opensTag, Bool.and_eq_true, Bool.not_eq_true'] at opens
  rcases opens with ⟨bracket, noSlash⟩
  rw [opening?, lineOpening?]
  split
  · rename_i closing
    rw [closing] at noSlash
    cases noSlash
  · rename_i body _ text
    rw [text, List.tail_cons]
    cases readAttributes? [] (body.dropWhile isKindChar) <;> rfl
  · rename_i noBracket
    rcases List.isPrefixOf_iff_prefix.mp bracket with ⟨body, text⟩
    exact absurd text.symm (noBracket body)

theorem opening?_of_not_opensTag {line : NumberedLine} (other : opensTag line.text = false) :
    opening? line = .ok none := by
  rw [opening?]
  split
  · rfl
  · rename_i body noSlash text
    rw [opensTag, text, Bool.and_eq_false_iff, Bool.not_eq_false'] at other
    rcases other with noBracket | closing
    · simp at noBracket
    · rcases List.isPrefixOf_iff_prefix.mp closing with ⟨rest, equal⟩
      cases equal
      exact absurd rfl (noSlash rest)
  · rfl

namespace TagStack

def resume (innermost : OpenTag) (outer : List OpenTag) {lines : List NumberedLine}
    (reading : Except ReadError (Passed (List Tag) lines)) :
    Except ReadError (Tag × List NumberedLine) :=
  reading >>= fun tags => run (keep (innermost.addAll tags.value).close outer) tags.rest

theorem resume_bind_cons (innermost : OpenTag) (outer : List OpenTag) (first : Tag)
    {lines longer : List NumberedLine} (reading : Except ReadError (Passed (List Tag) lines))
    (growing : ∀ more : Passed (List Tag) lines, more.rest.length ≤ longer.length) :
    resume innermost outer
        (reading >>= fun more => .ok ⟨first :: more.value, more.rest, growing more⟩) =
      resume (innermost.addAll [first]) outer reading := by
  cases reading with
  | error error => rfl
  | ok more =>
      change run (keep (innermost.addAll (first :: more.value)).close outer) more.rest =
        run (keep ((innermost.addAll [first]).addAll more.value).close outer) more.rest
      rw [OpenTag.addAll_addAll]
      rfl

/-- With a tag open, the lines up to its end are the tags in it, and behind its end it is kept in
the tag around it. What follows an inner tag is read on its own, so the induction is on the number
of lines. -/
theorem run_reading (innermost : OpenTag) (outer : List OpenTag) (lines : List NumberedLine) :
    run (reading innermost outer) lines = resume innermost outer (readTags lines) := by
  cases lines with
  | nil =>
      rw [readTags]
      cases outer <;> simp [run, keep, closeAll, resume, OpenTag.addAll, bind, Except.bind]
  | cons line rest =>
      rw [run, step, readTags]
      cases opens : opensTag line.text with
      | false =>
          rw [opening?_of_not_opensTag opens]
          simp [resume, bind, Except.bind, OpenTag.addAll]
      | true =>
          rw [opening?_of_opensTag opens, if_pos rfl, pushLine]
          cases lineOpening? line.text with
          | none => rfl
          | some opening =>
              change run (push opening (innermost :: outer)) rest = resume innermost outer
                (if opening.childless then _ else _)
              rw [push]
              cases childless : opening.childless with
              | true =>
                  rw [if_pos rfl, if_pos rfl, resume_bind_cons]
                  exact run_reading (innermost.addAll [opening.tag []]) outer rest
              | false =>
                  rw [if_neg Bool.false_ne_true, if_neg Bool.false_ne_true,
                    run_reading ⟨opening, []⟩ (innermost :: outer) rest]
                  cases readTags rest with
                  | error error => rfl
                  | ok inside =>
                      have := inside.within
                      have later := run_reading (innermost.addAll [opening.tag inside.value]) outer
                        inside.rest
                      exact later.trans (resume_bind_cons _ _ _ _ _).symm
termination_by lines.length

theorem map_run_push (opening : Opening) (lines : List NumberedLine) :
    (run (push opening []) lines).map Prod.fst =
      if opening.childless then .ok (opening.tag [])
      else (readTags lines).map fun inside => opening.tag inside.value := by
  rw [push]
  cases opening.childless with
  | true =>
      rw [if_pos rfl, if_pos rfl, keep, run]
      rfl
  | false =>
      rw [if_neg Bool.false_ne_true, if_neg Bool.false_ne_true, run_reading]
      cases readTags lines with
      | error error => rfl
      | ok inside =>
          change (run (complete (opening.tag inside.value)) inside.rest).map Prod.fst = _
          rw [run]
          rfl

theorem read_eq (text : String) : Markup.read text = read text := by
  rw [Markup.read, read]
  cases skipDeclaration (Text.numberedLines text.toList) with
  | nil => rfl
  | cons line rest =>
      dsimp only
      rw [readLines]
      cases opens : opensTag line.text with
      | false =>
          rw [opening?_of_not_opensTag opens]
          rfl
      | true =>
          rw [opening?_of_opensTag opens, if_pos rfl, pushLine]
          cases lineOpening? line.text with
          | none => rfl
          | some opening =>
              have root := congrArg (Except.map some) (map_run_push opening rest)
              have same : ((run (push opening []) rest).map some).map (Option.map Prod.fst) =
                  ((run (push opening []) rest).map Prod.fst).map some := by
                cases run (push opening []) rest <;> rfl
              refine Eq.trans ?_ (same.trans root).symm
              change (if opening.childless = true then Except.ok (some (opening.tag []))
                else readTags rest >>= fun inside => .ok (some (opening.tag inside.value))) = _
              cases opening.childless with
              | true => rfl
              | false => cases readTags rest <;> rfl

end TagStack

/-! ## What has been read -/

def Opening.heading (opening : Opening) : String × Members := (opening.kind, opening.attributes)

namespace Tag

mutual

/-- The kinds and attributes of a tag and of the tags inside it, each before those inside it. -/
def preorder : Tag → List (String × Members)
  | mk kind attributes children => (kind, attributes) :: preorders children

def preorders : List Tag → List (String × Members)
  | [] => []
  | first :: rest => preorder first ++ preorders rest

end

theorem preorders_append (first second : List Tag) :
    preorders (first ++ second) = preorders first ++ preorders second := by
  induction first with
  | nil => rfl
  | cons head tail induction =>
      rw [List.cons_append, preorders, preorders, induction, List.append_assoc]

end Tag

theorem Opening.preorder_tag (opening : Opening) (children : List Tag) :
    (opening.tag children).preorder = opening.heading :: Tag.preorders children := by
  rw [Opening.tag, Tag.preorder, heading]

def lineHeadings (lines : List NumberedLine) : List (Option (String × Members)) :=
  (lines.filter fun line => opensTag line.text).map fun line =>
    (lineOpening? line.text).map Opening.heading

namespace OpenTag

def preorder (tag : OpenTag) : List (String × Members) :=
  tag.opening.heading :: Tag.preorders tag.children

theorem preorder_close (tag : OpenTag) : tag.close.preorder = tag.preorder :=
  tag.opening.preorder_tag tag.children

theorem preorder_addAll (children : List Tag) (tag : OpenTag) :
    (tag.addAll children).preorder = tag.preorder ++ Tag.preorders children := by
  simp [preorder, addAll, Tag.preorders_append]

end OpenTag

namespace TagStack

def preorder : TagStack → List (String × Members)
  | complete root => root.preorder
  | reading innermost outer => outer.reverse.flatMap OpenTag.preorder ++ innermost.preorder

theorem preorder_keep (tag : Tag) (outer : List OpenTag) :
    (keep tag outer).preorder = outer.reverse.flatMap OpenTag.preorder ++ tag.preorder := by
  cases outer with
  | nil => rfl
  | cons around outer =>
      simp [keep, preorder, OpenTag.preorder_addAll, Tag.preorders]

theorem preorder_push (opening : Opening) (outer : List OpenTag) :
    (push opening outer).preorder =
      outer.reverse.flatMap OpenTag.preorder ++ [opening.heading] := by
  rw [push]
  split
  · rw [preorder_keep, Opening.preorder_tag, Tag.preorders]
  · rw [preorder, OpenTag.preorder, Tag.preorders]

theorem preorder_closeAll (innermost : OpenTag) (outer : List OpenTag) :
    (closeAll innermost outer).preorder = (reading innermost outer).preorder := by
  induction outer generalizing innermost with
  | nil => exact innermost.preorder_close
  | cons around outer induction =>
      rw [closeAll, induction]
      simp [preorder, OpenTag.preorder_addAll, OpenTag.preorder_close, Tag.preorders]

theorem preorder_pushLine {line : NumberedLine} {outer : List OpenTag} {next : TagStack}
    (opens : opensTag line.text = true) (pushed : pushLine line outer = .ok next) :
    next.preorder.map some =
      (outer.reverse.flatMap OpenTag.preorder).map some ++ lineHeadings [line] := by
  rw [pushLine] at pushed
  cases opened : lineOpening? line.text with
  | none =>
      rw [opened] at pushed
      cases pushed
  | some opening =>
      rw [opened] at pushed
      cases pushed
      simp [preorder_push, lineHeadings, opens, opened]

theorem preorder_step {innermost : OpenTag} {outer : List OpenTag} {line : NumberedLine}
    {next : TagStack} (stepped : step innermost outer line = .ok next) :
    next.preorder.map some =
      (reading innermost outer).preorder.map some ++ lineHeadings [line] := by
  rw [step] at stepped
  cases opens : opensTag line.text with
  | true =>
      rw [if_pos opens] at stepped
      rw [preorder_pushLine opens stepped]
      simp [preorder]
  | false =>
      rw [opens] at stepped
      cases stepped
      rw [preorder_keep, OpenTag.preorder_close, preorder]
      simp [lineHeadings, opens]

theorem lineHeadings_cons (line : NumberedLine) (lines : List NumberedLine) :
    lineHeadings (line :: lines) = lineHeadings [line] ++ lineHeadings lines := by
  simp [lineHeadings, List.filter_cons]
  split <;> simp

/-- A run reads lines off the front. The root that it ends with has the tags that were read before
and those of these lines, and if lines are left behind them, they make no difference. -/
theorem exists_used_of_run {stack : TagStack} {lines unread : List NumberedLine} {root : Tag}
    (ran : run stack lines = .ok (root, unread)) :
    ∃ used, lines = used ++ unread ∧
      root.preorder.map some = stack.preorder.map some ++ lineHeadings used ∧
      (unread ≠ [] → ∀ other, run stack (used ++ other) = .ok (root, other)) := by
  induction lines generalizing stack with
  | nil =>
      cases stack with
      | complete whole =>
          cases ran
          refine ⟨[], rfl, ?_, ?_⟩
          · simp [preorder, lineHeadings]
          · intro left
            exact absurd rfl left
      | reading innermost outer =>
          cases ran
          refine ⟨[], rfl, ?_, ?_⟩
          · simp [preorder_closeAll, lineHeadings]
          · intro left
            exact absurd rfl left
  | cons line rest induction =>
      cases stack with
      | complete whole =>
          cases ran
          refine ⟨[], rfl, ?_, ?_⟩
          · simp [preorder, lineHeadings]
          · intro _ other
            rw [List.nil_append, run]
      | reading innermost outer =>
          rw [run] at ran
          cases stepped : step innermost outer line with
          | error error =>
              rw [stepped] at ran
              cases ran
          | ok next =>
              rw [stepped] at ran
              rcases induction ran with ⟨used, rfl, headings, settled⟩
              refine ⟨line :: used, rfl, ?_, ?_⟩
              · rw [headings, preorder_step stepped, lineHeadings_cons line used,
                  List.append_assoc]
              · intro left other
                rw [List.cons_append, run, stepped]
                exact settled left other

theorem exists_used_of_readLines {lines unread : List NumberedLine} {root : Tag}
    (found : readLines lines = .ok (some (root, unread))) :
    ∃ used, lines = used ++ unread ∧ root.preorder.map some = lineHeadings used ∧
      (unread ≠ [] → ∀ other, readLines (used ++ other) = .ok (some (root, other))) := by
  cases lines with
  | nil => cases found
  | cons line rest =>
      rw [readLines] at found
      cases opens : opensTag line.text with
      | false =>
          rw [opens] at found
          cases found
      | true =>
          rw [if_pos opens] at found
          cases pushed : pushLine line [] with
          | error error =>
              rw [pushed] at found
              cases found
          | ok stack =>
              rw [pushed] at found
              change (run stack rest).map some = _ at found
              cases ran : run stack rest with
              | error error =>
                  rw [ran] at found
                  cases found
              | ok result =>
                  rw [ran] at found
                  cases found
                  rcases exists_used_of_run ran with ⟨used, rfl, headings, settled⟩
                  refine ⟨line :: used, rfl, ?_, ?_⟩
                  · rw [headings, preorder_pushLine opens pushed, lineHeadings_cons line used]
                    rfl
                  · intro left other
                    rw [List.cons_append, readLines, if_pos opens, pushed]
                    change (run stack (used ++ other)).map some = _
                    rw [settled left other]
                    rfl

end TagStack

/-- The root has been read from these lines of a text, and the others have not been read. -/
structure Tag.IsReadFrom (root : Tag) (used unread : List NumberedLine) (text : String) : Prop where
  lines : skipDeclaration (Text.numberedLines text.toList) = used ++ unread
  inOnePass : TagStack.readLines (used ++ unread) = .ok (some (root, unread))
  /-- The tags are those of the lines that open one, in the order of these lines. -/
  headings : root.preorder.map some = lineHeadings used
  /-- If there are lines behind its end, any others could stand there. -/
  settled : unread ≠ [] → ∀ other rest,
    skipDeclaration (Text.numberedLines other.toList) = used ++ rest →
      read other = .ok (some root)

/-- Reading a tag within a tag and reading in one pass with a stack of open tags give the same tree
for every text, or the same error, or nothing. A tree has exactly the tags of the lines up to its
end. -/
theorem read_eq_read_tagStack (text : String) :
    read text = TagStack.read text ∧
      ∀ root, read text = .ok (some root) → ∃ used unread, root.IsReadFrom used unread text := by
  refine ⟨TagStack.read_eq text, ?_⟩
  intro root found
  rw [TagStack.read_eq, TagStack.read] at found
  cases whole : TagStack.readLines (skipDeclaration (Text.numberedLines text.toList)) with
  | error error =>
      rw [whole] at found
      cases found
  | ok result =>
      rw [whole] at found
      rcases result with _ | ⟨tag, unread⟩
      · cases found
      · cases found
        rcases TagStack.exists_used_of_readLines whole with ⟨used, lines, headings, settled⟩
        refine ⟨used, unread, lines, lines ▸ whole, headings, ?_⟩
        intro left other rest same
        rw [TagStack.read_eq, TagStack.read, same, settled left rest]
        rfl

def spoiledText : String :=
  "<?xml version=\"1.0\"?>\r\n<configuration>\n\t<placement name=\"Main\">\n<item type=\"4\"/>\n" ++
    "\t</placement>\rnotes\n<spoiled name>"

theorem read_eq_read_tagStack_spoiled :
    ∃ root, read spoiledText = .ok (some root) ∧
      root.preorder.map Prod.fst = ["configuration", "placement", "item"] ∧
      ∃ used unread, root.IsReadFrom used unread spoiledText := by
  have kinds : (read spoiledText).map (Option.map fun root => root.preorder.map Prod.fst) =
      .ok (some ["configuration", "placement", "item"]) := by decide +kernel
  cases found : read spoiledText with
  | error error =>
      rw [found] at kinds
      cases kinds
  | ok result =>
      rw [found] at kinds
      cases result with
      | none => cases kinds
      | some root =>
          refine ⟨root, rfl, Option.some.inj (Except.ok.inj kinds), ?_⟩
          exact (read_eq_read_tagStack spoiledText).2 root found

end Markup

end BroadcastScenes
