import Usockit.Main.ArgumentVector
import Usockit.Main.Program

namespace Usockit
open Foundation

/-! ## The blocks that are not freed -/

namespace Heap

def Only (heap : Heap) (p : Option Pointer) : Prop :=
  ∀ q, heap.block (some q) ≠ none → some q = p

/-- Every block is freed. A second free() of it would be undefined behaviour. -/
def AllFreed (heap : Heap) : Prop := ∀ block ∈ heap.blocks, block = none

instance (heap : Heap) : Decidable heap.AllFreed := inferInstanceAs (Decidable (∀ _ ∈ _, _))

variable {heap heap' : Heap} {p q : Option Pointer}

theorem Only.allFreed (only : heap.Only none) : heap.AllFreed := by
  intro block member
  obtain ⟨i, inside, rfl⟩ := List.getElem_of_mem member
  by_contra live
  refine Option.some_ne_none i (only i ?_)
  simpa [Heap.block, inside] using live

theorem Only.push (only : heap.Only none) (cells : List Cell) :
    (heap.push cells).Only (some heap.blocks.length) := by
  intro q live
  by_cases last : q = heap.blocks.length
  · rw [last]
  · refine absurd (only q ?_) (Option.some_ne_none q)
    rcases Nat.lt_or_gt_of_ne last with before | beyond
    · simpa [Heap.block, Heap.push, List.getElem?_append_left before] using live
    · have outside : (heap.blocks ++ [some cells]).length ≤ q := by
        simp only [List.length_append, List.length_singleton]
        exact beyond
      simp [Heap.block, Heap.push, List.getElem?_eq_none outside] at live

theorem Only.setBlock (only : heap.Only p) (block : Option (List Cell)) :
    (heap.setBlock p block).Only p := by
  cases p with
  | none => exact only
  | some p =>
      intro q live
      by_cases same : q = p
      · rw [same]
      · refine only q ?_
        simpa [Heap.block, Heap.setBlock, List.getElem?_set_ne (Ne.symm same)] using live

theorem Only.freed (only : heap.Only p) : (heap.setBlock p none).Only none := by
  intro q live
  obtain rfl := only.setBlock none q live
  have inside : q < heap.blocks.length := by
    by_contra outside
    simp [Heap.block, Heap.setBlock, outside] at live
  simp [Heap.block, Heap.setBlock, inside] at live

theorem Only.store {i : Nat} {cell : Cell} (only : heap.Only p)
    (stored : heap.store p i cell = some heap') : heap'.Only p := by
  obtain ⟨cells, -, stored⟩ := Option.bind_eq_some_iff.mp stored
  obtain ⟨-, rfl⟩ := require_eq_some.mp stored
  exact only.setBlock _

theorem Only.realloc {granted : Bool} {size : Nat} (only : heap.Only p)
    (moved : heap.realloc granted p size = some (q, heap')) :
    (q = none ∧ heap' = heap) ∨ (q ≠ none ∧ heap'.Only q) := by
  obtain ⟨cells, -, moved⟩ := Option.bind_eq_some_iff.mp moved
  cases granted with
  | false =>
      obtain ⟨rfl, rfl⟩ := Prod.mk.inj (Option.some.inj moved)
      exact .inl ⟨rfl, rfl⟩
  | true =>
      obtain ⟨rfl, rfl⟩ := Prod.mk.inj (Option.some.inj moved)
      rw [← length_setBlock none]
      exact .inr ⟨nofun, only.freed.push _⟩

end Heap

/-! ## The operations on the vector -/

variable {build : Build} {argv : Argv} {granted : Bool} {cli cli' : Cli} {heap heap' : Heap}
  {words : List Cstr} {status : RetStatus}

theorem reallocate_only {capacity : Nat} (only : heap.Only cli.childProgramArgv)
    (done : cli.reallocate granted capacity heap = some (status, cli', heap')) :
    heap'.Only cli'.childProgramArgv := by
  obtain ⟨⟨q, moved⟩, realloc, result⟩ := Option.bind_eq_some_iff.mp done
  rcases only.realloc realloc with ⟨rfl, same⟩ | ⟨granted, only⟩
  · obtain ⟨-, rfl, rfl⟩ : status = .failure ∧ cli = cli' ∧ moved = heap' := by
      simpa [eq_comm] using result
    exact same ▸ only
  · simp only [granted, if_false, Option.some.injEq, Prod.mk.injEq] at result
    obtain ⟨-, rfl, rfl⟩ := result
    exact only

theorem makeRoom_only (only : heap.Only cli.childProgramArgv)
    (done : cli.makeRoom granted heap = some (status, cli', heap')) :
    heap'.Only cli'.childProgramArgv := by
  unfold Cli.makeRoom at done
  split at done
  · exact reallocate_only only done
  · simp only [Option.some.injEq, Prod.mk.injEq] at done
    obtain ⟨-, rfl, rfl⟩ := done
    exact only

theorem append_only {arg : Cstr} (only : heap.Only cli.childProgramArgv)
    (done : usockitCliAppendChildProgramArg granted arg cli heap = some (status, cli', heap')) :
    heap'.Only cli'.childProgramArgv := by
  obtain ⟨⟨made, grown, heap₁⟩, room, done⟩ := Option.bind_eq_some_iff.mp done
  have only := makeRoom_only only room
  cases made with
  | failure =>
      simp only [if_true, Option.some.injEq, Prod.mk.injEq] at done
      obtain ⟨-, rfl, rfl⟩ := done
      exact only
  | success =>
      simp only [reduceCtorEq, if_false] at done
      obtain ⟨heap₂, storedArg, done⟩ := Option.bind_eq_some_iff.mp done
      obtain ⟨heap₃, storedNull, done⟩ := Option.bind_eq_some_iff.mp done
      simp only [Option.some.injEq, Prod.mk.injEq] at done
      obtain ⟨-, rfl, rfl⟩ := done
      exact (only.store storedArg).store storedNull

theorem shrink_only (only : heap.Only cli.childProgramArgv)
    (done : usockitCliShrinkToFitChildProgramArgv granted cli heap = some (status, cli', heap')) :
    heap'.Only cli'.childProgramArgv := by
  simp only [usockitCliShrinkToFitChildProgramArgv] at done
  split at done
  · simp only [Option.some.injEq, Prod.mk.injEq] at done
    obtain ⟨-, rfl, rfl⟩ := done
    exact only
  · exact reallocate_only only done

theorem init_only (only : heap.Only none)
    (done : usockitCliInitChildProgramArgv true cli heap = some (.success, cli', heap')) :
    heap'.Only cli'.childProgramArgv := by
  simp only [usockitCliInitChildProgramArgv, Heap.malloc, if_true] at done
  obtain ⟨stored, store, result⟩ := Option.bind_eq_some_iff.mp done
  simp only [Option.some.injEq, Prod.mk.injEq] at result
  obtain ⟨-, rfl, rfl⟩ := result
  exact (only.push _).store store

/-! ## main() -/

/-- The vector of at most `most` arguments is the only block, or it is not initialised. -/
def Cli.Owns (cli : Cli) (heap : Heap) (most : Nat) : Prop :=
  (cli.childProgram = false ∧ heap.Only none) ∨
    ∃ words, cli.Holds heap words ∧ heap.Only cli.childProgramArgv ∧ words.length ≤ most

/-- main() has freed the vector, or it will with what it does after the call. -/
def Flow.Released : Flow → Heap → Prop
  | .returned _ _, heap => heap.AllFreed
  | .callsServer cli, heap =>
      ∃ heap', usockitCliDestroyDefinitelyInitChildProgramArgv cli heap = some heap' ∧
        heap'.AllFreed
  | .callsClient cli, heap =>
      ∃ heap', usockitCliDestroyDefinitelyNoInitChildProgramArgv cli heap = some heap' ∧
        heap'.AllFreed
  | .next _, _ => False

/-- main() goes on with the vector, or does not need it any more. -/
def Settles (most : Nat) (outcome : Option (Flow × Heap)) : Prop :=
  ∃ flow heap, outcome = some (flow, heap) ∧
    ((∃ cli, flow = .next cli ∧ cli.Owns heap most) ∨ flow.Released heap)

variable {most : Nat} {arg : Cstr} {code : Nat} {stderr : Cstr}

theorem destroyDefinitelyInit_frees (holds : cli.Holds heap words)
    (only : heap.Only cli.childProgramArgv) :
    ∃ heap', usockitCliDestroyDefinitelyInitChildProgramArgv cli heap = some heap' ∧
      heap'.AllFreed := by
  obtain ⟨rest, live, -⟩ := holds.cells
  refine ⟨heap.setBlock cli.childProgramArgv none, ?_, only.freed.allFreed⟩
  simp [usockitCliDestroyDefinitelyInitChildProgramArgv, Heap.free, live]

theorem Cli.Owns.destroy (owns : cli.Owns heap most) :
    ∃ heap', usockitCliDestroy cli heap = some heap' ∧ heap'.AllFreed := by
  rcases owns with ⟨fresh, only⟩ | ⟨words, holds, only, -⟩
  · exact ⟨heap, by simp [usockitCliDestroy, fresh,
      usockitCliDestroyDefinitelyNoInitChildProgramArgv], only.allFreed⟩
  · obtain ⟨heap', destroyed, freed⟩ := destroyDefinitelyInit_frees holds only
    exact ⟨heap', by simp [usockitCliDestroy, holds.childProgram, destroyed], freed⟩

theorem mainTurn_settles_append (holds : cli.Holds heap words)
    (only : heap.Only cli.childProgramArgv) (short : words.length ≤ most)
    (few : most + 1 < 2 ^ 31) (i : Nat) :
    Settles (most + 1) (mainTurn build argv granted i arg cli heap) := by
  obtain ⟨freed, destroyed, allFreed⟩ := destroyDefinitelyInit_frees holds only
  by_cases empty : cli.childProgramArgvSize = 0 ∧ arg = []
  · exact ⟨.returned 9 (programMustNotBeEmpty argv.argv0 i), freed,
      by simp [mainTurn, holds.childProgram, empty, destroyed], .inr allFreed⟩
  · rcases append_cases holds granted arg with same | refused
    · obtain ⟨cli', heap', appended, holds', -⟩ := append_granted holds (by omega) arg
      have appended := same.trans appended
      refine ⟨.next cli', heap', by simp [mainTurn, holds.childProgram, empty, appended],
        .inl ⟨cli', rfl, .inr ⟨_, holds', append_only only appended, ?_⟩⟩⟩
      simpa using short
    · exact ⟨.returned 101 (outOfHeapMemory argv.argv0), freed,
        by simp [mainTurn, holds.childProgram, empty, refused, destroyed], .inr allFreed⟩

theorem mainTurn_settles_options (fresh : cli.childProgram = false) (only : heap.Only none)
    (i : Nat) : Settles most (mainTurn build argv granted i arg cli heap) := by
  have returns : ∀ code stderr, mainTurn build argv granted i arg cli heap =
      some (.returned code stderr, heap) →
        Settles most (mainTurn build argv granted i arg cli heap) :=
    fun code stderr returned => ⟨_, heap, returned, .inr only.allFreed⟩
  by_cases dashes : arg = bytesOf "--"
  · rcases init_cases granted cli heap with same | refused
    · obtain ⟨cli', heap', init, holds, -⟩ := init_granted cli heap
      exact ⟨.next cli', heap', by simp [mainTurn, fresh, dashes, same.trans init],
        .inl ⟨cli', rfl, .inr ⟨[], holds, init_only only init, Nat.zero_le _⟩⟩⟩
    · refine returns 101 (outOfHeapMemory argv.argv0) ?_
      simp [mainTurn, fresh, dashes, refused, usockitCliDestroyDefinitelyNoInitChildProgramArgv]
  by_cases version : arg = bytesOf "--version"
  · subst version
    refine returns 0 (build.versionName ++ bytesOf "\n") ?_
    simp [mainTurn, fresh, dashes, usockitCliDestroyDefinitelyNoInitChildProgramArgv]
  by_cases given : cli.socketPathname ≠ none
  · refine returns 7 (invalidArgument argv.argv0 arg) ?_
    simp [mainTurn, fresh, dashes, version, given,
      usockitCliDestroyDefinitelyNoInitChildProgramArgv]
  by_cases empty : arg = []
  · subst empty
    refine returns 9 (argumentMustNotBeEmpty argv i) ?_
    simp [mainTurn, fresh, dashes, version, given,
      usockitCliDestroyDefinitelyNoInitChildProgramArgv]
  · refine ⟨.next { cli with socketPathname := some arg }, heap, ?_,
      .inl ⟨_, rfl, .inl ⟨fresh, only⟩⟩⟩
    simp [mainTurn, fresh, dashes, version, given, empty]

theorem mainLoop_settles (build : Build) (argv : Argv) (granted : Nat → Bool) (args : List Cstr)
    (i : Nat) (owns : cli.Owns heap most) (few : most + args.length < 2 ^ 31) :
    Settles (most + args.length) (mainLoop build argv granted i args cli heap) := by
  induction args generalizing i cli heap most with
  | nil => exact ⟨.next cli, heap, rfl, .inl ⟨cli, rfl, owns⟩⟩
  | cons arg rest ih =>
      have turn : Settles (most + 1) (mainTurn build argv (granted i) i arg cli heap) := by
        rcases owns with ⟨fresh, only⟩ | ⟨words, holds, only, short⟩
        · exact mainTurn_settles_options fresh only i
        · exact mainTurn_settles_append holds only short (by simp at few; omega) i
      obtain ⟨flow, heap', turned, settled⟩ := turn
      rw [List.length_cons, Nat.add_comm rest.length, ← Nat.add_assoc] at few ⊢
      rcases settled with ⟨cli', rfl, owns⟩ | released
      · rw [mainLoop, turned]
        exact ih (i + 1) owns few
      · refine ⟨flow, heap', ?_, .inr released⟩
        rw [mainLoop, turned]
        cases flow with
        | next => exact released.elim
        | returned | callsServer | callsClient => rfl

theorem mainAfterLoop_releases (build : Build) (argv : Argv) (granted : Bool)
    (owns : cli.Owns heap most) (few : most < 2 ^ 31) :
    ∃ flow heap', mainAfterLoop build argv granted cli heap = some (flow, heap') ∧
      flow.Released heap' := by
  obtain ⟨freed, destroyed, allFreed⟩ := owns.destroy
  cases given : cli.socketPathname with
  | none =>
      exact ⟨.returned 3 (missingSocketPath argv.argv0), freed,
        by simp [mainAfterLoop, given, destroyed], allFreed⟩
  | some p =>
      by_cases long : build.usockitSocketPathnameMaxLength < p.length
      · exact ⟨.returned 48 (pathTooLong argv.argv0 p build.usockitSocketPathnameMaxLength), freed,
          by simp [mainAfterLoop, given, long, destroyed], allFreed⟩
      · rcases owns with ⟨fresh, only⟩ | ⟨words, holds, only, short⟩
        · exact ⟨.callsClient cli, heap, by simp [mainAfterLoop, given, long, fresh],
            heap, rfl, only.allFreed⟩
        · obtain ⟨freed, destroyed, allFreed⟩ := destroyDefinitelyInit_frees holds only
          by_cases nonempty : words = []
          · exact ⟨.returned 3 (missingProgram argv.argv0), freed,
              by simp [mainAfterLoop, mainServer, given, long, holds.childProgram, holds.size,
                nonempty, destroyed], allFreed⟩
          rcases shrink_cases holds granted with same | refused
          · obtain ⟨cli', heap', shrunk, holds', -⟩ := shrink_granted holds (by omega) nonempty
            have shrunk := same.trans shrunk
            exact ⟨.callsServer cli', heap', by simp [mainAfterLoop, mainServer, given, long,
              holds.childProgram, holds.size, nonempty, shrunk],
              destroyDefinitelyInit_frees holds' (shrink_only only shrunk)⟩
          · exact ⟨.returned 101 (outOfHeapMemory argv.argv0), freed,
              by simp [mainAfterLoop, mainServer, given, long, holds.childProgram, holds.size,
                nonempty, refused, destroyed], allFreed⟩

theorem main_releases (build : Build) (argv : Argv) (granted : Nat → Bool) :
    ∃ flow heap, main build argv granted = some (flow, heap) ∧ flow.Released heap := by
  have owns : usockitCliCreate.Owns ⟨[]⟩ 0 := .inl ⟨rfl, fun q live => by simp [Heap.block] at live⟩
  have few := argv.argc_int
  obtain ⟨flow, heap, loop, settled⟩ :=
    mainLoop_settles build argv granted argv.args 1 owns (by omega)
  rcases settled with ⟨cli, rfl, owns⟩ | released
  · obtain ⟨flow, heap', after, released⟩ :=
      mainAfterLoop_releases build argv (granted argv.argc) owns (by omega)
    exact ⟨flow, heap', by simp [main, loop, after], released⟩
  · refine ⟨flow, heap, ?_, released⟩
    cases flow with
    | next => exact released.elim
    | returned | callsServer | callsClient => simp [main, loop]

/-! ## The process -/

/-- The vector can be freed once, and nothing else is left, where main() waits for its callee. -/
def Program.Releases : Program → Prop
  | .server cli heap _ => Flow.Released (.callsServer cli) heap
  | .client cli heap _ => Flow.Released (.callsClient cli) heap
  | .start _ _ _ | .exited _ _ | .unreachable => True

theorem Program.Releases.step {s s' : Program} {a : ProgramAction} (releases : s.Releases)
    (step : program.step s a = some s') : s'.Releases := by
  cases s with
  | start build argv granted =>
      cases a with
      | main config stdin =>
          obtain ⟨flow, heap, result, released⟩ := main_releases build argv granted
          have called : ofFlow config stdin (flow, heap) = some s' := by
            simpa [program, Program.step, result] using step
          cases flow <;> simp only [ofFlow, reduceCtorEq, Option.some.injEq] at called <;>
            subst called
          · trivial
          · exact released
          · exact released
      | _ => cases step
  | server cli heap call =>
      cases a with
      | server a =>
          obtain ⟨call', -, rfl⟩ := Option.map_eq_some_iff.mp step
          exact releases
      | serverReturned ret =>
          simp only [program, Program.step, Option.ite_none_right_eq_some] at step
          obtain ⟨-, step⟩ := step
          split at step
          · obtain rfl := Option.some.inj step
            trivial
          · obtain ⟨_, -, rfl⟩ := Option.map_eq_some_iff.mp step
            trivial
      | _ => cases step
  | client cli heap s =>
      cases a with
      | client a =>
          obtain ⟨s', -, rfl⟩ := Option.map_eq_some_iff.mp step
          exact releases
      | clientReturned ret jokeMsg =>
          simp only [program, Program.step, Option.ite_none_right_eq_some] at step
          obtain ⟨-, step⟩ := step
          split at step
          · obtain rfl := Option.some.inj step
            trivial
          · obtain ⟨_, -, rfl⟩ := Option.map_eq_some_iff.mp step
            trivial
      | _ => cases step
  | exited | unreachable => cases step

theorem Program.Releases.run {s : Program} {actions : List ProgramAction}
    (run : program.Run actions s) : s.Releases := by
  refine run.stateInvariant (I := Program.Releases) ?_ ?_
  · rintro _ ⟨build, argv, granted, rfl⟩
    trivial
  · exact fun _ _ _ _ _ releases _ step => releases.step step

theorem child_program_argv_released :
    (∀ granted cli heap, ∃ status cli' heap',
      usockitCliInitChildProgramArgv granted cli heap = some (status, cli', heap') ∧
        (status = .failure → cli' = cli ∧ heap' = heap)) ∧
    (∀ actions v, ChildProgramArgv.system.Run actions v → v.Refines ∧
      ∀ a, v.Allows a → ∃ status cli heap, v.outcome a = some (status, cli, heap) ∧
        (status = .failure → cli = v.cli ∧ heap = v.heap)) ∧
    (∀ build argv granted, ∃ flow heap,
      main build argv granted = some (flow, heap) ∧ flow.Released heap) ∧
    ∀ actions s, program.Run actions s → s.Releases := by
  refine ⟨fun granted cli heap => ?_, fun actions v run => ?_, main_releases,
    fun actions s => Program.Releases.run⟩
  · rcases init_cases granted cli heap with same | refused
    · obtain ⟨cli', heap', init, -⟩ := init_granted cli heap
      exact ⟨.success, cli', heap', same.trans init, nofun⟩
    · exact ⟨.failure, cli, heap, refused, fun _ => ⟨rfl, rfl⟩⟩
  · have kept := ChildProgramArgv.Kept.run run
    refine ⟨kept.refines, fun a allowed => ?_⟩
    obtain ⟨status, cli, heap, outcome, -, unchanged⟩ := kept.outcome allowed
    exact ⟨status, cli, heap, outcome, unchanged⟩

def ChildProgramArgv.fresh : ChildProgramArgv where
  cli := ⟨none, true, 8, 0, some 0⟩
  heap := ⟨[some (.null :: List.replicate 7 .uninitialized)]⟩
  appended := []

/-- A capacity of two grows by one cell, once realloc() succeeds. -/
def shrunkAndGrown : List ChildProgramArgvAction :=
  [.append true (bytesOf "sh"), .shrink true, .append false (bytesOf "-c"),
   .append true (bytesOf "-c")]

theorem child_program_argv_released_shrunkAndGrown :
    ∃ v, ChildProgramArgv.system.exec .fresh shrunkAndGrown = some v ∧
      v.appended = [bytesOf "sh", bytesOf "-c"] ∧ v.cli.childProgramArgvCapacity = 3 ∧
      v.Refines := by
  obtain ⟨v, path, appended, capacity⟩ :
      ∃ v, ChildProgramArgv.system.exec .fresh shrunkAndGrown = some v ∧
        v.appended = [bytesOf "sh", bytesOf "-c"] ∧ v.cli.childProgramArgvCapacity = 3 :=
    System.exists_exec (by decide +kernel)
  have run : ChildProgramArgv.system.Run shrunkAndGrown v :=
    System.run_of_exec ⟨usockitCliCreate, ⟨[]⟩, by decide, rfl⟩ path
  exact ⟨v, path, appended, capacity, (child_program_argv_released.2.1 _ v run).1⟩

end Usockit
