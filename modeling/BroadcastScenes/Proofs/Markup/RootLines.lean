import BroadcastScenes.Proofs.LaterLines
import BroadcastScenes.Proofs.Markup.TagStack

/-!
# Lines and what is read from them

The tree that is read depends on the texts of the lines only; their numbers go into errors and
nowhere else. All errors are of one kind, and the kind of the root is what its line says.
-/

namespace BroadcastScenes

open Text (NumberedLine numberFrom)

namespace Markup.TagStack

/-! ## Line numbers -/

theorem pushLine_later (count : Nat) (line : NumberedLine) (outer : List OpenTag) :
    pushLine (line.later count) outer = (pushLine line outer).mapError (ReadError.later count) := by
  rw [pushLine, pushLine]
  have text : (line.later count).text = line.text := rfl
  rw [text]
  cases lineOpening? line.text with
  | none => rfl
  | some opening => rfl

theorem step_later (count : Nat) (innermost : OpenTag) (outer : List OpenTag)
    (line : NumberedLine) :
    step innermost outer (line.later count) =
      (step innermost outer line).mapError (ReadError.later count) := by
  rw [step, step, pushLine_later]
  have text : (line.later count).text = line.text := rfl
  rw [text]
  split <;> rfl

theorem map_run_later (count : Nat) (stack : TagStack) (lines : List NumberedLine) :
    (run stack (lines.map (NumberedLine.later count))).map Prod.fst =
      ((run stack lines).map Prod.fst).mapError (ReadError.later count) := by
  induction lines generalizing stack with
  | nil => cases stack <;> rfl
  | cons line rest induction =>
      cases stack with
      | complete root => rfl
      | reading innermost outer =>
          rw [List.map_cons, run, run, step_later]
          cases step innermost outer line with
          | error error => rfl
          | ok next => exact induction next

def readRoot (lines : List NumberedLine) : Except ReadError (Option Tag) :=
  (readLines lines).map (Option.map Prod.fst)

theorem read_eq_readRoot (text : String) :
    Markup.read text = readRoot (skipDeclaration (Text.numberedLines text.toList)) := by
  rw [read_eq, read, readRoot]

theorem readRoot_cons (line : NumberedLine) (rest : List NumberedLine) :
    readRoot (line :: rest) =
      if opensTag line.text then
        pushLine line [] >>= fun stack => ((run stack rest).map Prod.fst).map some
      else .ok none := by
  rw [readRoot, readLines]
  split
  · cases pushLine line [] with
    | error error => rfl
    | ok stack =>
        change ((run stack rest).map some).map (Option.map Prod.fst) = _
        cases ran : run stack rest <;> simp [ran, bind, Except.bind, Except.map]
  · rfl

theorem readRoot_later (count : Nat) (lines : List NumberedLine) :
    readRoot (lines.map (NumberedLine.later count)) =
      (readRoot lines).mapError (ReadError.later count) := by
  cases lines with
  | nil => rfl
  | cons line rest =>
      have text : (line.later count).text = line.text := rfl
      rw [List.map_cons, readRoot_cons, readRoot_cons, text, pushLine_later]
      split
      · cases pushLine line [] with
        | error error => rfl
        | ok stack =>
            change ((run stack (rest.map _)).map Prod.fst).map some =
              (((run stack rest).map Prod.fst).map some).mapError _
            rw [map_run_later]
            cases run stack rest <;> rfl
      · rfl

/-! ## Errors -/

def IsMalformed (error : ReadError) : Prop := ∃ line text, error = .malformedAttribute line text

theorem isMalformed_of_pushLine {line : NumberedLine} {outer : List OpenTag} {error : ReadError}
    (failed : pushLine line outer = .error error) : IsMalformed error := by
  rw [pushLine] at failed
  split at failed
  · cases failed
    exact ⟨_, _, rfl⟩
  · cases failed

theorem isMalformed_of_run {stack : TagStack} {lines : List NumberedLine} {error : ReadError}
    (failed : run stack lines = .error error) : IsMalformed error := by
  induction lines generalizing stack with
  | nil => cases stack <;> cases failed
  | cons line rest induction =>
      cases stack with
      | complete root => cases failed
      | reading innermost outer =>
          rw [run] at failed
          cases stepped : step innermost outer line with
          | error fault =>
              rw [stepped] at failed
              cases failed
              rw [step] at stepped
              split at stepped
              · exact isMalformed_of_pushLine stepped
              · cases stepped
          | ok next =>
              rw [stepped] at failed
              exact induction failed

theorem isMalformed_of_readRoot {lines : List NumberedLine} {error : ReadError}
    (failed : readRoot lines = .error error) : IsMalformed error := by
  cases lines with
  | nil => cases failed
  | cons line rest =>
      rw [readRoot_cons] at failed
      split at failed
      · cases pushed : pushLine line [] with
        | error fault =>
            rw [pushed] at failed
            cases failed
            exact isMalformed_of_pushLine pushed
        | ok stack =>
            rw [pushed] at failed
            change ((run stack rest).map Prod.fst).map some = _ at failed
            cases ran : run stack rest with
            | error fault =>
                rw [ran] at failed
                cases failed
                exact isMalformed_of_run ran
            | ok result =>
                rw [ran] at failed
                cases failed
      · cases failed

/-! ## The kind of the root -/

theorem kind_of_lineOpening? {line : List Char} {opening : Opening}
    (opened : lineOpening? line = some opening) :
    opening.kind = String.ofList ((Text.dropIndent line).tail.takeWhile isKindChar) := by
  rw [lineOpening?] at opened
  rcases Option.map_eq_some_iff.mp opened with ⟨⟨attributes, rest⟩, _, rfl⟩
  rfl

theorem kind_of_readRoot {line : NumberedLine} {rest : List NumberedLine} {tag : Tag}
    (opens : opensTag line.text = true) (found : readRoot (line :: rest) = .ok (some tag)) :
    tag.kind = String.ofList ((Text.dropIndent line.text).tail.takeWhile isKindChar) := by
  rw [readRoot] at found
  rcases tag with ⟨kind, attributes, children⟩
  cases whole : readLines (line :: rest) with
  | error error =>
      rw [whole] at found
      cases found
  | ok result =>
      rw [whole] at found
      rcases result with _ | ⟨root, unread⟩
      · cases found
      · cases found
        rcases exists_used_of_readLines whole with ⟨used, lines, headings, _⟩
        rw [Tag.preorder] at headings
        cases used with
        | nil => cases headings
        | cons first more =>
            cases lines
            have single : lineHeadings [line] = [(lineOpening? line.text).map Opening.heading] := by
              simp [lineHeadings, opens]
            rw [lineHeadings_cons, single] at headings
            have heading := (List.cons.inj headings).1
            rcases Option.map_eq_some_iff.mp heading.symm with ⟨opening, opened, same⟩
            exact (congrArg Prod.fst same).symm.trans (kind_of_lineOpening? opened)

theorem readRoot_cases_of_isPrefix {word : List Char} (isWord : word.all isKindChar = true)
    (filled : word ≠ []) {line : NumberedLine} (begins : '<' :: word <+: line.text)
    (rest : List NumberedLine) :
    (∃ error, readRoot (line :: rest) = .error error) ∨
      ∃ tag, readRoot (line :: rest) = .ok (some tag) ∧ word <+: tag.kind.toList := by
  rcases begins with ⟨behind, text⟩
  have kept : Text.dropIndent line.text = '<' :: (word ++ behind) := by
    rw [← text]
    rfl
  have opens : opensTag line.text = true := by
    cases word with
    | nil => exact absurd rfl filled
    | cons head tail =>
        rw [List.all_cons, Bool.and_eq_true] at isWord
        have notSlash : head ≠ '/' := by
          rintro rfl
          cases isWord.1
        simp [opensTag, kept, List.isPrefixOf, notSlash.symm]
  cases read : readRoot (line :: rest) with
  | error error => exact .inl ⟨error, rfl⟩
  | ok found =>
      cases found with
      | none =>
          rw [readRoot_cons, if_pos opens] at read
          cases pushed : pushLine line [] with
          | error error =>
              rw [pushed] at read
              cases read
          | ok stack =>
              rw [pushed] at read
              change ((run stack rest).map Prod.fst).map some = _ at read
              cases ran : run stack rest <;> rw [ran] at read <;> cases read
      | some tag =>
          refine .inr ⟨tag, rfl, ?_⟩
          rw [kind_of_readRoot opens read, String.toList_ofList, kept, List.tail_cons,
            List.takeWhile_append_of_pos fun c member => List.all_eq_true.mp isWord c member]
          exact List.prefix_append _ _

end Markup.TagStack

end BroadcastScenes
