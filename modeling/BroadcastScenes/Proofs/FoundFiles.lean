import BroadcastScenes.Disk
import BroadcastScenes.Proofs.Text.Cuts
import Mathlib.Data.List.Nodup

/-!
# Found files

A search of a directory goes through its listing, which may come in any order. What is found comes
in the order of paths, and paths with different parts never stand equal in it. The order of the
listing therefore leaves no trace in the result.
-/

namespace BroadcastScenes

/-! ## The order of paths -/

namespace Path

def codeOrder (c d : Char) : Ordering := compare c.toNat d.toNat

instance : Std.TransCmp codeOrder where
  eq_swap := Std.OrientedOrd.eq_swap
  isLE_trans := Std.TransOrd.isLE_trans

instance : Std.LawfulEqCmp codeOrder where
  compare_self := Std.ReflOrd.compare_self
  eq_of_compare equal := Char.toNat_inj.mp (Std.LawfulEqOrd.eq_of_compare equal)

def Part.text : Part → List Char
  | .name text => text
  | _ => []

def Part.textOrder (left right : Part) : Ordering :=
  List.compareLex codeOrder left.text right.text

instance : Std.TransCmp Part.textOrder where
  eq_swap := by
    intro left right
    rw [Part.textOrder, Part.textOrder]
    exact Std.OrientedCmp.eq_swap
  isLE_trans := by
    intro first second third left right
    rw [Part.textOrder] at left right ⊢
    exact Std.TransCmp.isLE_trans left right

theorem Part.order_eq : Part.order = compareLex (compareOn Part.rank) Part.textOrder := by
  funext left right
  cases left <;> cases right <;> rfl

theorem Part.eq_of_rank_of_text {left right : Part} (ranks : left.rank = right.rank)
    (texts : left.text = right.text) : left = right := by
  cases left <;> cases right <;> simp_all [Part.rank, Part.text]

instance : Std.TransCmp Part.order :=
  Part.order_eq ▸ inferInstance

instance : Std.LawfulEqCmp Part.order where
  compare_self := Std.ReflCmp.compare_self
  eq_of_compare {left right} equal := by
    rw [Part.order_eq, compareLex, Ordering.then_eq_eq] at equal
    exact Part.eq_of_rank_of_text (Std.LawfulEqOrd.eq_of_compare equal.1)
      (Std.LawfulEqCmp.eq_of_compare equal.2)

instance : Std.TransCmp Path.order where
  eq_swap := by
    intro left right
    rw [order, order]
    exact Std.OrientedCmp.eq_swap
  isLE_trans := by
    intro first second third left right
    rw [order] at left right ⊢
    exact Std.TransCmp.isLE_trans left right

end Path

namespace Machine

variable (machine : Machine) (directory : Path) (extension : String) (excluded : List String)

variable {machine directory}

def listed (texts : List String) : Machine where
  disk := { directories := [(⟨"/d"⟩, texts.map Path.mk)] }

end Machine

end BroadcastScenes
