/-!
# Runs of code points

Character properties of the Unicode standard are kept as ascending lists of runs, each given by
its first and last code point.
-/

namespace BroadcastScenes.Text

abbrev CodeRuns := List (Nat × Nat)

def CodeRuns.covers (runs : CodeRuns) (c : Char) : Bool :=
  runs.any fun run => decide (run.1 ≤ c.toNat) && decide (c.toNat ≤ run.2)

end BroadcastScenes.Text
