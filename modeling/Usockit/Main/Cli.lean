import Usockit.Main.Heap

namespace Usockit
open Foundation

structure Cli where
  socketPathname : Option Cstr
  childProgram : Bool
  childProgramArgvCapacity : Nat
  childProgramArgvSize : Nat
  childProgramArgv : Option Pointer
  deriving DecidableEq

def usockitCliCreate : Cli := ⟨none, false, 0, 0, none⟩

def childProgramArgvInitCapacity : Nat := 8

/-- `capacity * 1.5` as a size_t; the double is exact as long as this product is below 2^52. -/
def grownCapacity (capacity : Nat) : Nat := capacity * 3 / 2

variable {cli : Cli} {heap : Heap}

def usockitCliDestroyDefinitelyNoInitChildProgramArgv (_cli : Cli) (heap : Heap) : Option Heap :=
  some heap

def usockitCliDestroyDefinitelyInitChildProgramArgv (cli : Cli) (heap : Heap) : Option Heap :=
  heap.free cli.childProgramArgv

def usockitCliDestroy (cli : Cli) (heap : Heap) : Option Heap :=
  if cli.childProgram then usockitCliDestroyDefinitelyInitChildProgramArgv cli heap
  else usockitCliDestroyDefinitelyNoInitChildProgramArgv cli heap

def usockitCliInitChildProgramArgv (granted : Bool) (cli : Cli) (heap : Heap) :
    Option (RetStatus × Cli × Heap) := do
  let (tmp, heap) := heap.malloc granted (sizeT (pointerSize * childProgramArgvInitCapacity))
  if tmp = none then some (.failure, cli, heap)
  else
    let heap ← heap.store tmp 0 .null
    some (.success, { cli with
      childProgram := true
      childProgramArgvCapacity := childProgramArgvInitCapacity
      childProgramArgvSize := 0
      childProgramArgv := tmp }, heap)

def Cli.reallocate (granted : Bool) (capacity : Nat) (cli : Cli) (heap : Heap) :
    Option (RetStatus × Cli × Heap) := do
  let (tmp, heap) ←
    heap.realloc granted cli.childProgramArgv (sizeT (pointerSize * capacity))
  if tmp = none then some (.failure, cli, heap)
  else some (.success,
    { cli with childProgramArgvCapacity := capacity, childProgramArgv := tmp }, heap)

/-- Room for the new argument and the null pointer, which the size does not include. -/
def Cli.makeRoom (granted : Bool) (cli : Cli) (heap : Heap) : Option (RetStatus × Cli × Heap) :=
  if sizeT (cli.childProgramArgvSize + 2) > cli.childProgramArgvCapacity then
    cli.reallocate granted (grownCapacity cli.childProgramArgvCapacity) heap
  else some (.success, cli, heap)

def usockitCliAppendChildProgramArg (granted : Bool) (arg : Cstr) (cli : Cli) (heap : Heap) :
    Option (RetStatus × Cli × Heap) := do
  let (status, cli, heap) ← cli.makeRoom granted heap
  if status = .failure then some (.failure, cli, heap)
  else
    let heap ← heap.store cli.childProgramArgv cli.childProgramArgvSize (.arg arg)
    let cli := { cli with childProgramArgvSize := sizeT (cli.childProgramArgvSize + 1) }
    let heap ← heap.store cli.childProgramArgv cli.childProgramArgvSize .null
    some (.success, cli, heap)

def usockitCliShrinkToFitChildProgramArgv (granted : Bool) (cli : Cli) (heap : Heap) :
    Option (RetStatus × Cli × Heap) :=
  let fittedCapacity := sizeT (cli.childProgramArgvSize + 1)
  if fittedCapacity = cli.childProgramArgvCapacity then some (.success, cli, heap)
  else cli.reallocate granted fittedCapacity heap

/-! ## The vector -/

structure Cli.Holds (cli : Cli) (heap : Heap) (words : List Cstr) : Prop where
  childProgram : cli.childProgram = true
  size : cli.childProgramArgvSize = words.length
  -- From a capacity of one, growing by half would gain nothing.
  least : 2 ≤ cli.childProgramArgvCapacity
  most : cli.childProgramArgvCapacity ≤ 8 + 2 * words.length
  cells : ∃ rest, heap.block cli.childProgramArgv = some (words.map .arg ++ .null :: rest) ∧
    cli.childProgramArgvCapacity = words.length + 1 + rest.length

variable {words : List Cstr}

theorem sizeT_mul_div {n : Nat} (small : n < 2 ^ 61) :
    sizeT (pointerSize * n) / pointerSize = n := by
  rw [sizeT_of_lt (by simp only [pointerSize]; omega)]
  exact Nat.mul_div_cancel_left n (by decide)

theorem Cli.Holds.room (holds : cli.Holds heap words) :
    words.length + 1 ≤ cli.childProgramArgvCapacity := by
  obtain ⟨rest, -, capacity⟩ := holds.cells
  omega

theorem init_granted (cli : Cli) (heap : Heap) :
    ∃ cli' heap', usockitCliInitChildProgramArgv true cli heap = some (.success, cli', heap') ∧
      cli'.Holds heap' [] ∧ cli'.socketPathname = cli.socketPathname := by
  let fresh := List.replicate 8 Cell.uninitialized
  have allocated : (heap.push fresh).block (some heap.blocks.length) = some fresh :=
    Heap.block_push
  obtain ⟨heap', stored, block⟩ := Heap.store_live allocated (by decide : 0 < fresh.length) .null
  refine ⟨{ cli with
    childProgram := true
    childProgramArgvCapacity := childProgramArgvInitCapacity
    childProgramArgvSize := 0
    childProgramArgv := some heap.blocks.length }, heap', ?_,
    ⟨rfl, rfl, Nat.le_add_left 2 6, Nat.le_refl 8, fresh.tail, block, rfl⟩, rfl⟩
  change ((heap.push fresh).store _ 0 .null).bind _ = _
  rw [stored]
  rfl

theorem reallocate_granted {capacity : Nat} (holds : cli.Holds heap words)
    (few : words.length < 2 ^ 31) (fits : words.length < capacity) (least : 2 ≤ capacity)
    (most : capacity ≤ 8 + 2 * words.length) :
    ∃ cli' heap', cli.reallocate true capacity heap = some (.success, cli', heap') ∧
      cli'.Holds heap' words ∧ cli'.childProgramArgvCapacity = capacity ∧
      cli'.socketPathname = cli.socketPathname := by
  obtain ⟨rest, live, -⟩ := holds.cells
  obtain ⟨q, heap', moved, block⟩ := Heap.realloc_granted live (sizeT (pointerSize * capacity))
  rw [sizeT_mul_div (by omega)] at block
  have written : (words.map Cell.arg ++ .null :: rest).take capacity =
      words.map .arg ++ .null :: rest.take (capacity - words.length - 1) := by
    obtain ⟨spare, gap⟩ : ∃ spare, capacity - words.length = spare + 1 :=
      ⟨capacity - words.length - 1, by omega⟩
    rw [List.take_append, List.length_map, gap, List.take_succ_cons, Nat.add_sub_cancel,
      List.take_of_length_le (by simp only [List.length_map]; omega)]
  rw [written, List.append_assoc, List.cons_append] at block
  refine ⟨{ cli with childProgramArgvCapacity := capacity, childProgramArgv := some q }, heap',
    by simp [Cli.reallocate, moved],
    ⟨holds.childProgram, holds.size, least, most, _, block, ?_⟩, rfl, rfl⟩
  simp only [List.length_append, List.length_take, List.length_replicate, List.length_map,
    List.length_cons]
  omega

theorem makeRoom_granted (holds : cli.Holds heap words) (few : words.length + 1 < 2 ^ 31) :
    ∃ cli' heap', cli.makeRoom true heap = some (.success, cli', heap') ∧
      cli'.Holds heap' words ∧ words.length + 2 ≤ cli'.childProgramArgvCapacity ∧
      cli'.socketPathname = cli.socketPathname := by
  have room := holds.room
  have least := holds.least
  rw [Cli.makeRoom, holds.size, sizeT_of_lt (by omega)]
  split
  next full =>
    have capacity : cli.childProgramArgvCapacity = words.length + 1 := by omega
    have gained : words.length + 2 ≤ grownCapacity cli.childProgramArgvCapacity := by
      simp only [grownCapacity]
      omega
    obtain ⟨cli', heap', grown, holds', capacity', same⟩ := reallocate_granted holds (by omega)
      (Nat.lt_of_succ_lt gained) (by omega) (by simp only [grownCapacity]; omega)
    exact ⟨cli', heap', grown, holds', capacity' ▸ gained, same⟩
  next fits => exact ⟨cli, heap, rfl, holds, by omega, rfl⟩

theorem append_granted (holds : cli.Holds heap words) (few : words.length + 1 < 2 ^ 31)
    (arg : Cstr) :
    ∃ cli' heap', usockitCliAppendChildProgramArg true arg cli heap =
        some (.success, cli', heap') ∧
      cli'.Holds heap' (words ++ [arg]) ∧ cli'.socketPathname = cli.socketPathname := by
  obtain ⟨grown, heap₁, madeRoom, holds, room, same⟩ := makeRoom_granted holds few
  obtain ⟨rest, live, capacity⟩ := holds.cells
  cases rest with
  | nil => simp at capacity; omega
  | cons spare rest =>
      obtain ⟨heap₂, storedArg, live⟩ := Heap.store_live (i := words.length) live
        (by simp) (.arg arg)
      obtain ⟨heap₃, storedNull, live⟩ := Heap.store_live (i := words.length + 1) live
        (by simp) .null
      refine ⟨{ grown with childProgramArgvSize := words.length + 1 }, heap₃, ?_,
        ⟨holds.childProgram, by simp, holds.least, ?_, rest, ?_, ?_⟩, same⟩
      · have size : sizeT (words.length + 1) = words.length + 1 := sizeT_of_lt (by omega)
        simp [usockitCliAppendChildProgramArg, madeRoom, holds.size, size, storedArg, storedNull]
      · have most := holds.most
        simp only [List.length_append, List.length_singleton]
        omega
      · rw [live]
        simp
      · simp only [List.length_append, List.length_cons, List.length_nil] at capacity ⊢
        omega

theorem shrink_granted (holds : cli.Holds heap words) (few : words.length < 2 ^ 31)
    (nonempty : words ≠ []) :
    ∃ cli' heap', usockitCliShrinkToFitChildProgramArgv true cli heap =
        some (.success, cli', heap') ∧
      cli'.Holds heap' words ∧ cli'.childProgramArgvCapacity = words.length + 1 ∧
      cli'.socketPathname = cli.socketPathname := by
  have some_word := List.length_pos_of_ne_nil nonempty
  have fitted : sizeT (cli.childProgramArgvSize + 1) = words.length + 1 := by
    rw [holds.size, sizeT_of_lt (by omega)]
  simp only [usockitCliShrinkToFitChildProgramArgv, fitted]
  split
  · exact ⟨cli, heap, rfl, holds, by omega, rfl⟩
  · exact reallocate_granted holds few (by omega) (by omega) (by omega)

end Usockit
