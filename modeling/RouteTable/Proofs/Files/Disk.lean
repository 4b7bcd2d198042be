import RouteTable.Files.Disk
import RouteTable.Proofs.Files.Tree

/-!
# What operations do to a file system

One lemma for each operation: its results, and the tree that it leaves, whether it fails of itself,
because of the tree, or not at all. Where no operation fails of itself (`IsReliable`), the tree
alone decides.
-/

namespace RouteTable

namespace Disk

/-- The file system after an operation that leaves the tree `t`. -/
def after (d : Disk) (t : FileTree) : Disk :=
  { d with tree := t, count := d.count + 1, history := t :: d.history }

/-- One operation after another. -/
theorem run_andThen {α β : Type} (x : StateM Disk α) (f : α → StateM Disk β) (d : Disk) :
    (x >>= f).run d = (f (x.run d).1).run (x.run d).2 := rfl

theorem run_operate {α : Type} (f : FileTree → Option Nat → FileTree × α) (d : Disk) :
    (operate f).run d =
      ((f d.tree (d.fault? d.count)).2, d.after (f d.tree (d.fault? d.count)).1) := rfl

/-- An operation that does not fail of itself. -/
theorem run_operateAtOnce_of_reliable {α : Type} {d : Disk} (h : d.fault? d.count = none)
    (failed : α) (f : FileTree → FileTree × α) :
    (operateAtOnce failed f).run d = ((f d.tree).2, d.after (f d.tree).1) := by
  rw [operateAtOnce, run_operate, h]

section Operations

variable (place : FileTree → Location → Location) (d : Disk)

theorem run_readText (path : String) (h : d.fault? d.count = none) :
    ((operationsAt place).readText? path).run d =
      ((d.tree.locate? path).bind d.tree.text?, d.after d.tree) := by
  dsimp only [operationsAt]
  rw [run_operateAtOnce_of_reliable h]

end Operations

/-! ## When nothing fails -/

/-- Whether no operation fails of itself. -/
def IsReliable (d : Disk) : Prop := ∀ n, d.fault? n = none

variable {place : FileTree → Location → Location} {d : Disk}

theorem IsReliable.after (h : d.IsReliable) (t : FileTree) : (d.after t).IsReliable := h

end Disk

end RouteTable
