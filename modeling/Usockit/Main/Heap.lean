import Usockit.Foundation.TransitionSystem
import Usockit.Utils

namespace Usockit
open Foundation

/-- A string without its terminating null byte. -/
abbrev Cstr := List Byte

def pointerSize : Nat := 8

inductive Cell
  | uninitialized | null
  | arg (s : Cstr)
  deriving DecidableEq

abbrev Pointer := Nat

/-- The blocks that malloc() and realloc() have returned, in this order; `none` once freed. -/
structure Heap where
  blocks : List (Option (List Cell))
  deriving DecidableEq

namespace Heap

/-- The cells of a block; `none` for a null or stale pointer. -/
def block (heap : Heap) : Option Pointer → Option (List Cell)
  | some p => heap.blocks[p]?.join
  | none => none

def push (heap : Heap) (cells : List Cell) : Heap := ⟨heap.blocks ++ [some cells]⟩

def setBlock (heap : Heap) (p : Option Pointer) (block : Option (List Cell)) : Heap :=
  match p with
  | some p => ⟨heap.blocks.set p block⟩
  | none => heap

/-- malloc() of `size` bytes, which returns a null pointer where it is not granted. -/
def malloc (heap : Heap) (granted : Bool) (size : Nat) : Option Pointer × Heap :=
  if granted then
    (some heap.blocks.length, heap.push (List.replicate (size / pointerSize) .uninitialized))
  else (none, heap)

/-- realloc() to `size` bytes, which moves the block. Without a value the behaviour is undefined,
as it is below. -/
def realloc (heap : Heap) (granted : Bool) (p : Option Pointer) (size : Nat) :
    Option (Option Pointer × Heap) := do
  let cells ← heap.block p
  let moved := cells.take (size / pointerSize) ++
    List.replicate (size / pointerSize - cells.length) .uninitialized
  if granted then some (some heap.blocks.length, (heap.setBlock p none).push moved)
  else some (none, heap)

def store (heap : Heap) (p : Option Pointer) (i : Nat) (cell : Cell) : Option Heap := do
  let cells ← heap.block p
  require (i < cells.length) (heap.setBlock p (some (cells.set i cell)))

def free (heap : Heap) (p : Option Pointer) : Option Heap := do
  let _ ← heap.block p
  some (heap.setBlock p none)

/-! ## What the operations leave in a block -/

variable {heap : Heap} {p : Option Pointer} {cells : List Cell} {size : Nat}

@[simp] theorem block_push : (heap.push cells).block (some heap.blocks.length) = some cells := by
  simp [block, push]

theorem block_setBlock {block : Option (List Cell)} (live : heap.block p = some cells) :
    (heap.setBlock p block).block p = block := by
  cases p with
  | none => cases live
  | some p =>
      have there : p < heap.blocks.length := by
        by_contra outside
        simp [Heap.block, outside] at live
      simp [Heap.block, setBlock, there]

theorem length_setBlock (block : Option (List Cell)) :
    (heap.setBlock p block).blocks.length = heap.blocks.length := by
  cases p <;> simp [setBlock]

theorem realloc_granted (live : heap.block p = some cells) (size : Nat) :
    ∃ q heap', heap.realloc true p size = some (some q, heap') ∧
      heap'.block (some q) = some (cells.take (size / pointerSize) ++
        List.replicate (size / pointerSize - cells.length) .uninitialized) := by
  refine ⟨heap.blocks.length, _, by simp only [realloc, live]; rfl, ?_⟩
  have pushed := @block_push (heap.setBlock p none) (cells.take (size / pointerSize) ++
      List.replicate (size / pointerSize - cells.length) .uninitialized)
  rwa [length_setBlock] at pushed

theorem store_live {i : Nat} (live : heap.block p = some cells) (inside : i < cells.length)
    (cell : Cell) :
    ∃ heap', heap.store p i cell = some heap' ∧ heap'.block p = some (cells.set i cell) :=
  ⟨_, by simp only [store, live]; simp [require, inside], block_setBlock live⟩

theorem free_live (live : heap.block p = some cells) :
    ∃ heap', heap.free p = some heap' ∧ heap'.block p = none :=
  ⟨_, by simp only [free, live]; rfl, block_setBlock live⟩

end Heap
end Usockit
