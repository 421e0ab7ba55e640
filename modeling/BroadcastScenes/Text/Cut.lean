import BroadcastScenes.Progress

/-!
# Cutting texts

Ways to take a text apart at a mark. None of them interprets the mark: it is one character, or a
fixed run of characters.
-/

namespace BroadcastScenes.Text

def cutAt? (mark : Char) : List Char → Option (List Char × List Char)
  | [] => none
  | c :: rest =>
      if c = mark then some ([], rest)
      else (cutAt? mark rest).map fun (before, after) => (c :: before, after)

theorem cutAt?_eq_some {mark : Char} {text before after : List Char}
    (cut : cutAt? mark text = some (before, after)) :
    text = before ++ mark :: after ∧ mark ∉ before := by
  induction text generalizing before with
  | nil => simp [cutAt?] at cut
  | cons head tail induction =>
      simp only [cutAt?] at cut
      split at cut
      · rename_i equal
        simp only [Option.some.injEq, Prod.mk.injEq] at cut
        obtain ⟨rfl, rfl⟩ := cut
        simp [equal]
      · rename_i different
        obtain ⟨⟨left, right⟩, inner, equal⟩ := Option.map_eq_some_iff.1 cut
        simp only [Prod.mk.injEq] at equal
        obtain ⟨rfl, rfl⟩ := equal
        obtain ⟨rfl, absent⟩ := induction inner
        exact ⟨rfl, by simp [absent, Ne.symm different]⟩

theorem length_after_lt_of_cutAt? {mark : Char} {text before after : List Char}
    (cut : cutAt? mark text = some (before, after)) : after.length < text.length := by
  rw [(cutAt?_eq_some cut).1]
  simp only [List.length_append, List.length_cons]
  omega

def takeTo? (mark : Char) (text : List Char) : Option (Taken (List Char) text) :=
  match cut : cutAt? mark text with
  | some (before, after) => some ⟨before, after, length_after_lt_of_cutAt? cut⟩
  | none => none

def cutAtRun? (mark : List Char) : List Char → Option (List Char × List Char)
  | [] => if mark.isEmpty then some ([], []) else none
  | c :: rest =>
      match mark.isPrefixOf? (c :: rest) with
      | some after => some ([], after)
      | none => (cutAtRun? mark rest).map fun (before, after) => (c :: before, after)

def upTo (mark : Char) (text : List Char) : List Char := text.takeWhile (· != mark)

def afterLast (mark : Char) (text : List Char) : List Char :=
  (text.reverse.takeWhile (· != mark)).reverse

def dropFinal (mark : Char) (text : List Char) : List Char :=
  if text.getLast? = some mark then text.dropLast else text

def occursIn (mark : List Char) (text : List Char) : Bool := (cutAtRun? mark text).isSome

example : cutAt? ':' "a : b : c".toList = some ("a ".toList, " b : c".toList) := by decide

example : cutAtRun? "://".toList "rtmp://live/x".toList =
    some ("rtmp".toList, "live/x".toList) := by decide

example : afterLast '/' "C:/bin/game.exe".toList = "game.exe".toList := by decide

end BroadcastScenes.Text
