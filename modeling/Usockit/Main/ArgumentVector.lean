import Usockit.Main.Cli

namespace Usockit
open Foundation

variable {cli : Cli} {heap : Heap} {words : List Cstr}

/-! ## The outcomes of an allocation -/

theorem reallocate_refused (holds : cli.Holds heap words) (capacity : Nat) :
    cli.reallocate false capacity heap = some (.failure, cli, heap) := by
  obtain ⟨rest, live, -⟩ := holds.cells
  simp [Cli.reallocate, Heap.realloc, live]

theorem init_cases (granted : Bool) (cli : Cli) (heap : Heap) :
    usockitCliInitChildProgramArgv granted cli heap =
        usockitCliInitChildProgramArgv true cli heap ∨
      usockitCliInitChildProgramArgv granted cli heap = some (.failure, cli, heap) := by
  cases granted with
  | true => exact .inl rfl
  | false => exact .inr rfl

theorem append_cases (holds : cli.Holds heap words) (granted : Bool) (arg : Cstr) :
    usockitCliAppendChildProgramArg granted arg cli heap =
        usockitCliAppendChildProgramArg true arg cli heap ∨
      usockitCliAppendChildProgramArg granted arg cli heap = some (.failure, cli, heap) := by
  cases granted with
  | true => exact .inl rfl
  | false =>
      simp only [usockitCliAppendChildProgramArg, Cli.makeRoom]
      split
      · rw [reallocate_refused holds]
        exact .inr rfl
      · exact .inl rfl

theorem shrink_cases (holds : cli.Holds heap words) (granted : Bool) :
    usockitCliShrinkToFitChildProgramArgv granted cli heap =
        usockitCliShrinkToFitChildProgramArgv true cli heap ∨
      usockitCliShrinkToFitChildProgramArgv granted cli heap = some (.failure, cli, heap) := by
  cases granted with
  | true => exact .inl rfl
  | false =>
      simp only [usockitCliShrinkToFitChildProgramArgv]
      split
      · exact .inl rfl
      · exact .inr (reallocate_refused holds _)

/-! ## Sequences of operations -/

def intMax : Nat := 2 ^ 31 - 1

/-- `appended` are the arguments of the appends that have succeeded. -/
structure ChildProgramArgv where
  cli : Cli
  heap : Heap
  appended : List Cstr
  deriving DecidableEq

inductive ChildProgramArgvAction
  | append (granted : Bool) (arg : Cstr)
  | shrink (granted : Bool)
  deriving DecidableEq

namespace ChildProgramArgv

/-- There are at most INT_MAX arguments, and main_server does not shrink an empty vector. -/
def Allows (v : ChildProgramArgv) : ChildProgramArgvAction → Prop
  | .append _ _ => v.appended.length < intMax
  | .shrink _ => 1 ≤ v.cli.childProgramArgvSize

instance (v : ChildProgramArgv) : ∀ a, Decidable (v.Allows a)
  | .append _ _ => inferInstanceAs (Decidable (_ < _))
  | .shrink _ => inferInstanceAs (Decidable (_ ≤ _))

def outcome (v : ChildProgramArgv) : ChildProgramArgvAction → Option (RetStatus × Cli × Heap)
  | .append granted arg => usockitCliAppendChildProgramArg granted arg v.cli v.heap
  | .shrink granted => usockitCliShrinkToFitChildProgramArgv granted v.cli v.heap

def after (v : ChildProgramArgv) : ChildProgramArgvAction → RetStatus × Cli × Heap → ChildProgramArgv
  | .append _ arg, (.success, cli, heap) => ⟨cli, heap, v.appended ++ [arg]⟩
  | _, (_, cli, heap) => ⟨cli, heap, v.appended⟩

def system : System ChildProgramArgv ChildProgramArgvAction where
  initial v := ∃ cli heap,
    usockitCliInitChildProgramArgv true cli heap = some (.success, v.cli, v.heap) ∧ v.appended = []
  step v a := if v.Allows a then (v.outcome a).map (v.after a) else none

/-- The vector is the list of the arguments, with a null pointer behind them. -/
structure Refines (v : ChildProgramArgv) : Prop where
  size : v.cli.childProgramArgvSize = v.appended.length
  room : v.cli.childProgramArgvSize + 1 ≤ v.cli.childProgramArgvCapacity
  cells : ∃ cells, v.heap.block v.cli.childProgramArgv = some cells ∧
    cells.length = v.cli.childProgramArgvCapacity ∧
    cells.take v.cli.childProgramArgvSize = v.appended.map .arg ∧
    cells[v.cli.childProgramArgvSize]? = some .null
  -- The double is exact, and no size_t wraps.
  double : 3 * v.cli.childProgramArgvCapacity < 2 ^ 53
  grown : pointerSize * grownCapacity v.cli.childProgramArgvCapacity < 2 ^ 64
  sizes : v.cli.childProgramArgvSize + 2 < 2 ^ 64 ∧
    pointerSize * (v.cli.childProgramArgvSize + 1) < 2 ^ 64

structure Kept (v : ChildProgramArgv) : Prop where
  holds : v.cli.Holds v.heap v.appended
  few : v.appended.length ≤ intMax

variable {v v' : ChildProgramArgv} {actions : List ChildProgramArgvAction}

theorem Kept.refines (kept : v.Kept) : v.Refines := by
  obtain ⟨holds, few⟩ := kept
  obtain ⟨rest, live, capacity⟩ := holds.cells
  have most := holds.most
  have size := holds.size
  simp only [intMax] at few
  constructor
  · exact size
  · exact size ▸ holds.room
  · refine ⟨_, live, ?_, ?_, ?_⟩
    · simp only [capacity, List.length_append, List.length_map, List.length_cons]
      omega
    · rw [size]
      exact List.take_left' (List.length_map _)
    · simp [size]
  · omega
  · simp only [pointerSize, grownCapacity]
    omega
  · simp only [pointerSize]
    omega

theorem Kept.outcome (kept : v.Kept) {a : ChildProgramArgvAction} (allowed : v.Allows a) :
    ∃ status cli heap, v.outcome a = some (status, cli, heap) ∧
      (v.after a (status, cli, heap)).Kept ∧
      (status = .failure → cli = v.cli ∧ heap = v.heap) := by
  obtain ⟨holds, few⟩ := kept
  cases a with
  | append granted arg =>
      have fits : v.appended.length + 1 ≤ intMax := allowed
      simp only [intMax] at fits
      rcases append_cases holds granted arg with same | refused
      · obtain ⟨cli, heap, appended, holds', -⟩ := append_granted holds (by omega) arg
        refine ⟨.success, cli, heap, same.trans appended, ⟨holds', ?_⟩, nofun⟩
        simp only [after, List.length_append, List.length_singleton]
        exact allowed
      · exact ⟨.failure, v.cli, v.heap, refused, ⟨holds, few⟩, fun _ => ⟨rfl, rfl⟩⟩
  | shrink granted =>
      simp only [intMax] at few
      rcases shrink_cases holds granted with same | refused
      · have nonempty : v.appended ≠ [] := by
          apply List.ne_nil_of_length_pos
          rw [← holds.size]
          exact allowed
        obtain ⟨cli, heap, shrunk, holds', -⟩ := shrink_granted holds (by omega) nonempty
        exact ⟨.success, cli, heap, same.trans shrunk, ⟨holds', few⟩, nofun⟩
      · exact ⟨.failure, v.cli, v.heap, refused, ⟨holds, few⟩, fun _ => ⟨rfl, rfl⟩⟩

theorem Kept.run (run : system.Run actions v) : v.Kept := by
  refine run.stateInvariant (I := Kept) ?_ ?_
  · rintro v ⟨cli, heap, init, empty⟩
    obtain ⟨cli', heap', granted, holds, -⟩ := init_granted cli heap
    obtain ⟨rfl, rfl⟩ : cli' = v.cli ∧ heap' = v.heap := by simpa [granted] using init
    exact ⟨empty ▸ holds, by simp [empty]⟩
  · intro _ v a v' _ kept _ step
    simp only [system, Option.ite_none_right_eq_some] at step
    obtain ⟨allowed, step⟩ := step
    obtain ⟨status, cli, heap, outcome, after, -⟩ := kept.outcome allowed
    obtain rfl : v.after a (status, cli, heap) = v' := by simpa [outcome] using step
    exact after

end ChildProgramArgv
end Usockit
