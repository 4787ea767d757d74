import Usockit.Main.Grammar
import Usockit.Main.Release

namespace Usockit
open Foundation

variable {build : Build} {argv : Argv} {cli : Cli} {heap : Heap} {words v args : List Cstr}

/-! ## When the vector grows -/

/-- The capacity of the vector once `n` arguments have been appended. -/
def capacityAfter : Nat → Nat
  | 0 => childProgramArgvInitCapacity
  | n + 1 => if n + 2 > capacityAfter n then grownCapacity (capacityAfter n) else capacityAfter n

/-- A vector of `n` arguments has no room for another one. -/
def Full (n : Nat) : Prop := n + 2 > capacityAfter n

instance (n : Nat) : Decidable (Full n) := inferInstanceAs (Decidable (_ > _))

example : (List.range 60).filter (fun n => Full n) = [7, 11, 17, 26, 39, 59] := by decide

structure Cli.Filled (cli : Cli) (heap : Heap) (words : List Cstr) : Prop extends
    cli.Holds heap words where
  capacity : cli.childProgramArgvCapacity = capacityAfter words.length

theorem init_filled (cli : Cli) (heap : Heap) :
    ∃ cli' heap', usockitCliInitChildProgramArgv true cli heap = some (.success, cli', heap') ∧
      cli'.Filled heap' [] ∧ cli'.socketPathname = cli.socketPathname := by
  obtain ⟨cli', heap', init, holds, same⟩ := init_granted cli heap
  refine ⟨cli', heap', init, ⟨holds, ?_⟩, same⟩
  simp only [usockitCliInitChildProgramArgv, Heap.malloc, if_true] at init
  obtain ⟨stored, -, result⟩ := Option.bind_eq_some_iff.mp init
  simp only [Option.some.injEq, Prod.mk.injEq] at result
  obtain ⟨-, rfl, -⟩ := result
  rfl

theorem makeRoom_capacity (holds : cli.Holds heap words) (few : words.length + 1 < 2 ^ 31) :
    ∃ cli' heap', cli.makeRoom true heap = some (.success, cli', heap') ∧
      cli'.childProgramArgvCapacity =
        if words.length + 2 > cli.childProgramArgvCapacity then
          grownCapacity cli.childProgramArgvCapacity
        else cli.childProgramArgvCapacity := by
  obtain ⟨_, live, -⟩ := holds.cells
  simp only [Cli.makeRoom, holds.size, sizeT_of_lt (show words.length + 2 < 2 ^ 64 by omega)]
  split
  · obtain ⟨q, heap', moved, -⟩ := Heap.realloc_granted live
      (sizeT (pointerSize * grownCapacity cli.childProgramArgvCapacity))
    exact ⟨{ cli with
      childProgramArgvCapacity := grownCapacity cli.childProgramArgvCapacity
      childProgramArgv := some q }, heap', by simp [Cli.reallocate, moved], rfl⟩
  · exact ⟨cli, heap, rfl, rfl⟩

theorem append_filled (filled : cli.Filled heap words) (few : words.length + 1 < 2 ^ 31)
    (arg : Cstr) :
    ∃ cli' heap', usockitCliAppendChildProgramArg true arg cli heap =
        some (.success, cli', heap') ∧
      cli'.Filled heap' (words ++ [arg]) ∧ cli'.socketPathname = cli.socketPathname := by
  obtain ⟨cli', heap', appended, holds, same⟩ := append_granted filled.toHolds few arg
  refine ⟨cli', heap', appended, ⟨holds, ?_⟩, same⟩
  obtain ⟨grown, heap₁, madeRoom, capacity⟩ := makeRoom_capacity filled.toHolds few
  simp only [usockitCliAppendChildProgramArg, madeRoom, Option.bind_eq_bind, Option.bind_some,
    reduceCtorEq, if_false] at appended
  obtain ⟨heap₂, -, appended⟩ := Option.bind_eq_some_iff.mp appended
  obtain ⟨heap₃, -, appended⟩ := Option.bind_eq_some_iff.mp appended
  simp only [Option.some.injEq, Prod.mk.injEq] at appended
  obtain ⟨-, rfl, -⟩ := appended
  rw [capacity, filled.capacity, List.length_append, List.length_singleton, capacityAfter]

theorem append_full (filled : cli.Filled heap words) (few : words.length + 1 < 2 ^ 31)
    (full : Full words.length) (arg : Cstr) :
    usockitCliAppendChildProgramArg false arg cli heap = some (.failure, cli, heap) := by
  have grows : sizeT (cli.childProgramArgvSize + 2) > cli.childProgramArgvCapacity := by
    rw [filled.size, filled.capacity, sizeT_of_lt (by omega)]
    exact full
  simp [usockitCliAppendChildProgramArg, Cli.makeRoom, grows, reallocate_refused filled.toHolds]

theorem append_roomy (filled : cli.Filled heap words) (few : words.length + 1 < 2 ^ 31)
    (roomy : ¬ Full words.length) (granted : Bool) (arg : Cstr) :
    usockitCliAppendChildProgramArg granted arg cli heap =
      usockitCliAppendChildProgramArg true arg cli heap := by
  have fits : ¬ sizeT (cli.childProgramArgvSize + 2) > cli.childProgramArgvCapacity := by
    rw [filled.size, filled.capacity, sizeT_of_lt (by omega)]
    exact roomy
  simp only [usockitCliAppendChildProgramArg, Cli.makeRoom, if_neg fits]

theorem shrink_exact (filled : cli.Filled heap words) (few : words.length < 2 ^ 31)
    (exact : words.length + 1 = capacityAfter words.length) (granted : Bool) :
    usockitCliShrinkToFitChildProgramArgv granted cli heap =
      usockitCliShrinkToFitChildProgramArgv true cli heap := by
  have fitted : sizeT (cli.childProgramArgvSize + 1) = cli.childProgramArgvCapacity := by
    rw [filled.size, filled.capacity, sizeT_of_lt (by omega), exact]
  simp only [usockitCliShrinkToFitChildProgramArgv, if_pos fitted]

theorem shrink_spare (filled : cli.Filled heap words) (few : words.length < 2 ^ 31)
    (spare : words.length + 1 ≠ capacityAfter words.length) :
    usockitCliShrinkToFitChildProgramArgv false cli heap = some (.failure, cli, heap) := by
  have larger : sizeT (cli.childProgramArgvSize + 1) ≠ cli.childProgramArgvCapacity := by
    rwa [filled.size, filled.capacity, sizeT_of_lt (by omega)]
  simp only [usockitCliShrinkToFitChildProgramArgv, if_neg larger,
    reallocate_refused filled.toHolds]

/-! ## What a refusal changes -/

/-- `outcome` is `enough`, which is what comes of memory for everything, unless memory was
`refused`. -/
structure Refusals (argv : Argv) (refused : Prop) (enough outcome : Option (Flow × Heap)) :
    Prop where
  same : ¬ refused → outcome = enough
  ends : refused → ∃ heap, outcome = some (.returned 101 (outOfHeapMemory argv.argv0), heap)

variable {refused refused' : Prop} {enough outcome : Option (Flow × Heap)} {arg : Cstr} {i : Nat}

theorem Refusals.congr (refusals : Refusals argv refused enough outcome)
    (iff : refused ↔ refused') : Refusals argv refused' enough outcome :=
  ⟨fun not => refusals.same (iff.not.mpr not), fun here => refusals.ends (iff.mpr here)⟩

theorem Refusals.none (not : ¬ refused) (same : outcome = enough) :
    Refusals argv refused enough outcome :=
  ⟨fun _ => same, fun here => absurd here not⟩

/-- The code of main() that goes on where `enough` or `outcome` does not return. -/
def unlessReturned (outcome : Option (Flow × Heap)) (rest : Cli → Heap → Option (Flow × Heap)) :
    Option (Flow × Heap) := do
  match ← outcome with
  | (.next cli, heap) => rest cli heap
  | exit => some exit

theorem Refusals.goesOn {rest rest' : Cli → Heap → Option (Flow × Heap)}
    (first : Refusals argv refused enough outcome) (next : enough = some (.next cli, heap))
    (after : Refusals argv refused' (rest cli heap) (rest' cli heap)) :
    Refusals argv (refused ∨ refused') (unlessReturned enough rest)
      (unlessReturned outcome rest') := by
  by_cases here : refused
  · obtain ⟨heap, ended⟩ := first.ends here
    exact ⟨fun not => absurd (.inl here) not, fun _ => ⟨heap, by rw [ended]; rfl⟩⟩
  · rw [first.same here, next]
    exact after.congr (or_iff_right here).symm

theorem Refusals.returns {rest rest' : Cli → Heap → Option (Flow × Heap)} {exitCode : Nat}
    {stderr : Cstr} (first : Refusals argv refused enough outcome)
    (returned : enough = some (.returned exitCode stderr, heap)) :
    Refusals argv refused (unlessReturned enough rest) (unlessReturned outcome rest') := by
  constructor
  · intro not
    rw [first.same not, returned]
    rfl
  · intro here
    obtain ⟨heap, ended⟩ := first.ends here
    exact ⟨heap, by rw [ended]; rfl⟩

/-! ## The loop -/

variable (build argv)

theorem mainTurn_filled (filled : cli.Filled heap words) (few : words.length + 1 < 2 ^ 31)
    (notFirst : words = [] → arg ≠ []) (i : Nat) :
    ∃ cli' heap', mainTurn build argv true i arg cli heap = some (.next cli', heap') ∧
      cli'.Filled heap' (words ++ [arg]) ∧ cli'.socketPathname = cli.socketPathname := by
  obtain ⟨cli', heap', appended, filled', path⟩ := append_filled filled few arg
  have notBoth : ¬ (words.length = 0 ∧ arg = []) := by
    rintro ⟨first, empty⟩
    exact notFirst (List.eq_nil_of_length_eq_zero first) empty
  refine ⟨cli', heap', ?_, filled', path⟩
  simp only [mainTurn, filled.childProgram, filled.size, if_true, if_neg notBoth, appended]
  rfl

theorem mainTurn_word (filled : cli.Filled heap words) (few : words.length + 1 < 2 ^ 31)
    (notFirst : words = [] → arg ≠ []) (granted : Bool) (i : Nat) :
    Refusals argv (Full words.length ∧ granted = false)
      (mainTurn build argv true i arg cli heap) (mainTurn build argv granted i arg cli heap) := by
  have notBoth : ¬ (words.length = 0 ∧ arg = []) := by
    rintro ⟨first, empty⟩
    exact notFirst (List.eq_nil_of_length_eq_zero first) empty
  by_cases full : Full words.length
  · cases granted with
    | true => exact .none (by simp) rfl
    | false =>
        obtain ⟨rest, live, -⟩ := filled.cells
        obtain ⟨heap', freed, -⟩ := Heap.free_live live
        refine ⟨fun not => absurd ⟨full, rfl⟩ not, fun _ => ⟨heap', ?_⟩⟩
        simp only [mainTurn, filled.childProgram, filled.size, if_true, if_neg notBoth,
          append_full filled few full]
        simp [usockitCliDestroyDefinitelyInitChildProgramArgv, freed]
  · refine .none (fun here => full here.1) ?_
    simp only [mainTurn, filled.childProgram, if_true, append_roomy filled few full granted]

theorem mainLoop_filled (filled : cli.Filled heap words) (few : words.length + v.length < 2 ^ 31)
    (notFirst : words = [] → v.head? ≠ some []) (i : Nat) :
    ∃ cli' heap', mainLoop build argv (fun _ => true) i v cli heap = some (.next cli', heap') ∧
      cli'.Filled heap' (words ++ v) ∧ cli'.socketPathname = cli.socketPathname := by
  induction v generalizing i cli heap words with
  | nil => exact ⟨cli, heap, rfl, by simpa using filled, rfl⟩
  | cons w v ih =>
      rw [List.length_cons] at few
      obtain ⟨cli', heap', turn, filled', same⟩ := mainTurn_filled build argv filled (by omega)
        (fun first => by simpa using notFirst first) i
      obtain ⟨cli'', heap'', rest, filled'', same'⟩ := ih filled'
        (by simp only [List.length_append, List.length_singleton]; omega) (by simp) (i + 1)
      refine ⟨cli'', heap'', ?_, by simpa using filled'', same'.trans same⟩
      simpa [mainLoop, turn] using rest

theorem mainLoop_words (granted : Nat → Bool) (filled : cli.Filled heap words)
    (few : words.length + v.length < 2 ^ 31) (notFirst : words = [] → v.head? ≠ some [])
    (i : Nat) :
    Refusals argv (∃ k < v.length, Full (words.length + k) ∧ granted (i + k) = false)
      (mainLoop build argv (fun _ => true) i v cli heap)
      (mainLoop build argv granted i v cli heap) := by
  induction v generalizing i cli heap words with
  | nil => exact .none (by simp) rfl
  | cons w v ih =>
      rw [List.length_cons] at few
      have first : words = [] → w ≠ [] := fun first => by simpa using notFirst first
      obtain ⟨cli', heap', turn, filled', -⟩ := mainTurn_filled build argv filled (by omega) first i
      have rest := ih filled' (by simp only [List.length_append, List.length_singleton]; omega)
        (by simp) (i + 1)
      have now := mainTurn_word build argv filled (by omega) first (granted i) i
      refine (now.goesOn turn rest).congr ?_
      simp only [List.length_append, List.length_singleton, Nat.add_assoc, Nat.add_comm 1]
      constructor
      · rintro (now | ⟨k, inside, later⟩)
        · exact ⟨0, by simp, now⟩
        · exact ⟨k + 1, by simpa using inside, later⟩
      · rintro ⟨_ | k, inside, here⟩
        · exact .inl here
        · exact .inr ⟨k, by simpa using inside, here⟩

theorem mainTurn_start (fresh : cli.childProgram = false) (heap : Heap) (granted : Bool)
    (i : Nat) :
    Refusals argv (granted = false) (mainTurn build argv true i (bytesOf "--") cli heap)
      (mainTurn build argv granted i (bytesOf "--") cli heap) := by
  cases granted with
  | true => exact .none (by simp) rfl
  | false =>
      refine ⟨fun not => absurd rfl not, fun _ => ⟨heap, ?_⟩⟩
      simp [mainTurn, fresh, usockitCliInitChildProgramArgv, Heap.malloc,
        usockitCliDestroyDefinitelyNoInitChildProgramArgv]

theorem mainTurn_start_filled (fresh : cli.childProgram = false) (heap : Heap) (i : Nat) :
    ∃ cli' heap', mainTurn build argv true i (bytesOf "--") cli heap = some (.next cli', heap') ∧
      cli'.Filled heap' [] ∧ cli'.socketPathname = cli.socketPathname := by
  obtain ⟨cli', heap', init, filled, same⟩ := init_filled cli heap
  exact ⟨cli', heap', by simp [mainTurn, fresh, init], filled, same⟩

theorem mainLoop_noProgram (rest : List Cstr) (filled : cli.Filled heap []) (i : Nat) :
    ∃ heap', ∀ granted, mainLoop build argv granted i ([] :: rest) cli heap =
      some (.returned 9 (programMustNotBeEmpty argv.argv0 i), heap') := by
  obtain ⟨_, live, -⟩ := filled.cells
  obtain ⟨heap', freed, -⟩ := Heap.free_live live
  exact ⟨heap', fun granted => by
    simp [mainLoop, mainTurn, filled.childProgram, filled.size,
      usockitCliDestroyDefinitelyInitChildProgramArgv, freed]⟩

/-! ## The whole of main() -/

theorem mainAfterLoop_refusals (filled : cli.Filled heap v) (few : v.length < 2 ^ 31)
    (granted : Bool) :
    Refusals argv
      ((∃ p, cli.socketPathname = some p ∧ p.length ≤ build.usockitSocketPathnameMaxLength) ∧
        v ≠ [] ∧ v.length + 1 ≠ capacityAfter v.length ∧ granted = false)
      (mainAfterLoop build argv true cli heap) (mainAfterLoop build argv granted cli heap) := by
  cases given : cli.socketPathname with
  | none => exact .none (by simp) (by simp only [mainAfterLoop, given])
  | some p =>
      by_cases long : p.length > build.usockitSocketPathnameMaxLength
      · refine .none ?_ (by simp only [mainAfterLoop, given, if_pos long])
        rintro ⟨⟨q, ⟨⟩, fits⟩, -⟩
        omega
      by_cases empty : v = []
      · refine .none (fun here => here.2.1 empty) ?_
        simp only [mainAfterLoop, given, if_neg long, filled.childProgram, if_true, mainServer,
          filled.size, empty, List.length_nil]
      have size : ¬ v.length = 0 := by simpa using empty
      by_cases exact : v.length + 1 = capacityAfter v.length
      · refine .none (fun here => here.2.2.1 exact) ?_
        simp only [mainAfterLoop, given, if_neg long, filled.childProgram, if_true, mainServer,
          filled.size, if_neg size, shrink_exact filled few exact granted]
      · cases granted with
        | true => exact .none (by simp) rfl
        | false =>
            obtain ⟨rest, live, -⟩ := filled.cells
            obtain ⟨heap', freed, -⟩ := Heap.free_live live
            refine ⟨fun not => absurd ⟨⟨p, rfl, by omega⟩, empty, exact, rfl⟩ not,
              fun _ => ⟨heap', ?_⟩⟩
            simp [mainAfterLoop, given, long, filled.childProgram, mainServer, filled.size, empty,
              shrink_spare filled few exact, usockitCliDestroyDefinitelyInitChildProgramArgv,
              freed]

/-- Turn `d` of the loop finds the "--", and `v` are the words after it. -/
inductive Starts (args : List Cstr) : Nat → List Cstr → Prop
  | first {v : List Cstr} (words : args = bytesOf "--" :: v) : Starts args 1 v
  | afterPath {p : Cstr} {v : List Cstr} (path : PathWord p)
      (words : args = p :: bytesOf "--" :: v) : Starts args 2 v

/-- The turns of the loop that allocate when no memory is refused before, and argc where
main_server does. -/
inductive Allocates (args : List Cstr) : Nat → Prop
  | init {d : Nat} {v : List Cstr} (starts : Starts args d v) : Allocates args d
  | append {d k : Nat} {v : List Cstr} (starts : Starts args d v) (program : v.head? ≠ some [])
      (inside : k < v.length) (full : Full k) : Allocates args (d + 1 + k)
  | shrink {p : Cstr} {v : List Cstr} (words : ServerWords build args p v)
      (spare : v.length + 1 ≠ capacityAfter v.length) : Allocates args (args.length + 1)

theorem main_started {d : Nat} (start : Cli) (granted : Nat → Bool)
    (before : ∀ granted, mainLoop build argv granted 1 argv.args usockitCliCreate ⟨[]⟩ =
      mainLoop build argv granted d (bytesOf "--" :: v) start ⟨[]⟩)
    (fresh : start.childProgram = false) (few : v.length < 2 ^ 31) :
    Refusals argv (granted d = false ∨ v.head? ≠ some [] ∧
        ((∃ k < v.length, Full k ∧ granted (d + 1 + k) = false) ∨
          (∃ p, start.socketPathname = some p ∧
            p.length ≤ build.usockitSocketPathnameMaxLength) ∧
          v ≠ [] ∧ v.length + 1 ≠ capacityAfter v.length ∧ granted argv.argc = false))
      (main build argv fun _ => true) (main build argv granted) := by
  have unfolded (granted : Nat → Bool) : main build argv granted =
      unlessReturned (unlessReturned (mainTurn build argv (granted d) d (bytesOf "--") start ⟨[]⟩)
        (mainLoop build argv granted (d + 1) v))
          (mainAfterLoop build argv (granted argv.argc)) := by
    rw [main, before]
    rfl
  rw [unfolded, unfolded]
  have turn := mainTurn_start build argv fresh ⟨[]⟩ (granted d) d
  obtain ⟨cli, heap, next, filled, same⟩ := mainTurn_start_filled build argv fresh ⟨[]⟩ d
  by_cases empty : v.head? = some []
  · obtain ⟨rest, rfl⟩ : ∃ rest, v = [] :: rest := ⟨v.tail, List.eq_cons_of_mem_head? empty⟩
    obtain ⟨heap', returned⟩ := mainLoop_noProgram build argv rest filled (d + 1)
    have words : Refusals argv False
        (mainLoop build argv (fun _ => true) (d + 1) ([] :: rest) cli heap)
        (mainLoop build argv granted (d + 1) ([] :: rest) cli heap) :=
      .none id ((returned granted).trans (returned _).symm)
    have loop : unlessReturned (mainTurn build argv true d (bytesOf "--") start ⟨[]⟩)
        (mainLoop build argv (fun _ => true) (d + 1) ([] :: rest)) =
          some (.returned 9 (programMustNotBeEmpty argv.argv0 (d + 1)), heap') := by
      rw [next]
      exact returned fun _ => true
    exact ((turn.goesOn next words).returns loop).congr (by simp)
  · have words := mainLoop_words build argv granted filled (by simpa using few) (fun _ => empty)
      (d + 1)
    obtain ⟨cli', heap', loopNext, filled', same'⟩ := mainLoop_filled build argv filled
      (by simpa using few) (fun _ => empty) (d + 1)
    have after := mainAfterLoop_refusals build argv filled' few (granted argv.argc)
    rw [same', same] at after
    have whole := (turn.goesOn next words).goesOn (by rw [next]; exact loopNext) after
    refine whole.congr ?_
    simp [empty, or_assoc]

theorem Starts.unique {d d' : Nat} {v v' : List Cstr} (starts : Starts args d v)
    (starts' : Starts args d' v') : d = d' ∧ v = v' := by
  cases starts with
  | first words =>
      cases starts' with
      | first words' => exact ⟨rfl, (List.cons.inj (words.symm.trans words')).2⟩
      | afterPath path words' =>
          exact absurd (List.cons.inj (words'.symm.trans words)).1 path.notDashes
  | afterPath path words =>
      cases starts' with
      | first words' => exact absurd (List.cons.inj (words.symm.trans words')).1 path.notDashes
      | afterPath _ words' =>
          exact ⟨rfl, (List.cons.inj (List.cons.inj (words.symm.trans words')).2).2⟩

theorem ServerWords.starts {p : Cstr} (server : ServerWords build args p v) : Starts args 2 v :=
  .afterPath server.path server.words

theorem allocates_iff {d : Nat} (granted : Nat → Bool) (starts : Starts args d v) :
    (∃ i, Allocates build args i ∧ granted i = false) ↔
      granted d = false ∨ v.head? ≠ some [] ∧
        ((∃ k < v.length, Full k ∧ granted (d + 1 + k) = false) ∨
          (∃ p, ServerWords build args p v) ∧ v.length + 1 ≠ capacityAfter v.length ∧
            granted (args.length + 1) = false) := by
  constructor
  · rintro ⟨i, allocates, refused⟩
    cases allocates with
    | init starts' =>
        obtain ⟨rfl, -⟩ := starts.unique starts'
        exact .inl refused
    | append starts' program inside full =>
        obtain ⟨rfl, rfl⟩ := starts.unique starts'
        exact .inr ⟨program, .inl ⟨_, inside, full, refused⟩⟩
    | shrink words spare =>
        obtain ⟨rfl, rfl⟩ := starts.unique words.starts
        obtain ⟨w, rest, rfl, nonempty⟩ := words.program
        exact .inr ⟨by simpa using nonempty, .inr ⟨⟨_, words⟩, spare, refused⟩⟩
  · rintro (refused | ⟨program, ⟨k, inside, full, refused⟩ | ⟨⟨p, words⟩, spare, refused⟩⟩)
    · exact ⟨d, .init starts, refused⟩
    · exact ⟨_, .append starts program inside full, refused⟩
    · exact ⟨_, .shrink words spare, refused⟩

theorem mainLoop_pathWord {p : Cstr} (path : PathWord p) (words : argv.args = p :: v)
    (granted : Nat → Bool) :
    mainLoop build argv granted 1 argv.args usockitCliCreate ⟨[]⟩ =
      mainLoop build argv granted 2 v (named p) ⟨[]⟩ := by
  rw [words]
  simp [mainLoop, mainTurn, named, usockitCliCreate, path.nonempty, path.notDashes,
    path.notVersion]

theorem server_iff {p : Cstr} (path : PathWord p) (words : args = p :: bytesOf "--" :: v)
    (program : v.head? ≠ some []) :
    (∃ q, ServerWords build args q v) ↔
      p.length ≤ build.usockitSocketPathnameMaxLength ∧ v ≠ [] := by
  constructor
  · rintro ⟨q, server⟩
    obtain ⟨rfl, -⟩ := List.cons.inj (words.symm.trans server.words)
    obtain ⟨w, rest, rfl, -⟩ := server.program
    exact ⟨server.fits, by simp⟩
  · rintro ⟨fits, nonempty⟩
    obtain ⟨w, rest, rfl⟩ := List.exists_cons_of_ne_nil nonempty
    exact ⟨p, words, path, fits, w, rest, rfl, by simpa using program⟩

theorem main_refusals_of_starts {d : Nat} (granted : Nat → Bool) (starts : Starts argv.args d v) :
    Refusals argv (∃ i, Allocates build argv.args i ∧ granted i = false)
      (main build argv fun _ => true) (main build argv granted) := by
  have few := argv.argc_int
  cases starts with
  | first words =>
      have started := main_started build argv usockitCliCreate granted
        (fun granted => by rw [words]) rfl (by simp only [words, List.length_cons] at few; omega)
      refine started.congr ?_
      rw [allocates_iff build granted (.first words)]
      have noServer (p : Cstr) : ¬ ServerWords build argv.args p v := by
        intro server
        exact server.path.notDashes (List.cons.inj (server.words.symm.trans words)).1
      simp [noServer, usockitCliCreate]
  | @afterPath p _ path words =>
      have started := main_started build argv (named p) granted
        (mainLoop_pathWord build argv path words) rfl
        (by simp only [words, List.length_cons] at few; omega)
      refine started.congr ?_
      rw [allocates_iff build granted (.afterPath path words)]
      refine or_congr_right (and_congr_right fun program => or_congr_right ?_)
      rw [server_iff build path words program]
      simp only [named, Option.some.injEq, exists_eq_left', and_assoc]
      rfl

theorem mainAfterLoop_fresh (fresh : cli.childProgram = false) (granted : Bool) :
    mainAfterLoop build argv granted cli heap = mainAfterLoop build argv true cli heap := by
  simp only [mainAfterLoop, fresh, Bool.false_eq_true, if_false]

theorem mainLoop_returns {w : Cstr} (rest : List Cstr) (heap : Heap)
    (fresh : cli.childProgram = false) (notDashes : w ≠ bytesOf "--")
    (last : cli.socketPathname ≠ none ∨ ¬ PathWord w) (i : Nat) :
    ∃ exitCode stderr, ∀ granted, mainLoop build argv granted i (w :: rest) cli heap =
      some (.returned exitCode stderr, heap) := by
  by_cases version : w = bytesOf "--version"
  · exact ⟨0, build.versionName ++ bytesOf "\n", fun granted => by
      simp [mainLoop, mainTurn, fresh, version, dashes_ne_version.symm,
        usockitCliDestroyDefinitelyNoInitChildProgramArgv]⟩
  by_cases given : cli.socketPathname ≠ none
  · exact ⟨7, invalidArgument argv.argv0 w, fun granted => by
      simp [mainLoop, mainTurn, fresh, version, notDashes, given,
        usockitCliDestroyDefinitelyNoInitChildProgramArgv]⟩
  by_cases empty : w = []
  · exact ⟨9, argumentMustNotBeEmpty argv i, fun granted => by
      simp [mainLoop, mainTurn, fresh, given, empty, dashes_ne_nil.symm, version_ne_nil.symm,
        usockitCliDestroyDefinitelyNoInitChildProgramArgv]⟩
  · exact absurd ⟨empty, notDashes, version⟩ (last.resolve_left given)

theorem main_of_noStart (granted : Nat → Bool) (noStart : ∀ d v, ¬ Starts argv.args d v) :
    main build argv granted = main build argv fun _ => true := by
  have unfolded (granted : Nat → Bool) : main build argv granted =
      unlessReturned (mainLoop build argv granted 1 argv.args usockitCliCreate ⟨[]⟩)
        (mainAfterLoop build argv (granted argv.argc)) := rfl
  rw [unfolded, unfolded]
  cases words : argv.args with
  | nil =>
      exact mainAfterLoop_fresh build argv (rfl : usockitCliCreate.childProgram = false)
        (granted argv.argc)
  | cons first rest =>
      have notDashes : first ≠ bytesOf "--" := fun same => noStart 1 rest (.first (same ▸ words))
      by_cases path : PathWord first
      · rw [← words, mainLoop_pathWord build argv path words,
          mainLoop_pathWord build argv path words]
        cases rest with
        | nil =>
            exact mainAfterLoop_fresh build argv (rfl : (named first).childProgram = false)
              (granted argv.argc)
        | cons second rest =>
            have notDashes : second ≠ bytesOf "--" :=
              fun same => noStart 2 rest (.afterPath path (same ▸ words))
            obtain ⟨exitCode, stderr, returned⟩ := mainLoop_returns build argv rest ⟨[]⟩
              (rfl : (named first).childProgram = false) notDashes (.inl (by simp [named])) 2
            rw [returned, returned]
            rfl
      · obtain ⟨exitCode, stderr, returned⟩ := mainLoop_returns build argv rest ⟨[]⟩
          (rfl : usockitCliCreate.childProgram = false) notDashes (.inr path) 1
        rw [returned, returned]
        rfl

/-- main() ends for want of memory exactly where memory is refused that it asks for. -/
theorem main_outOfMemory (build : Build) (argv : Argv) (granted : Nat → Bool) :
    ((∀ i, Allocates build argv.args i → granted i = true) →
      main build argv granted = main build argv fun _ => true) ∧
    ∀ i, Allocates build argv.args i → granted i = false →
      ∃ heap, main build argv granted = some (.returned 101 (outOfHeapMemory argv.argv0), heap) ∧
        heap.AllFreed := by
  have refusals : Refusals argv (∃ i, Allocates build argv.args i ∧ granted i = false)
      (main build argv fun _ => true) (main build argv granted) := by
    by_cases starts : ∃ d v, Starts argv.args d v
    · obtain ⟨d, v, starts⟩ := starts
      exact main_refusals_of_starts build argv granted starts
    · have noStart : ∀ d v, ¬ Starts argv.args d v := fun d v here => starts ⟨d, v, here⟩
      refine .none ?_ (main_of_noStart build argv granted noStart)
      rintro ⟨i, allocates, -⟩
      cases allocates with
      | init here | append here => exact noStart _ _ here
      | shrink words => exact noStart _ _ words.starts
  constructor
  · intro all
    refine refusals.same ?_
    rintro ⟨i, allocates, refused⟩
    simp [all i allocates] at refused
  · intro i allocates refused
    obtain ⟨heap, ended⟩ := refusals.ends ⟨i, allocates, refused⟩
    obtain ⟨flow, heap', outcome, released⟩ := main_releases build argv granted
    obtain ⟨rfl, rfl⟩ := Prod.mk.inj (Option.some.inj (ended.symm.trans outcome))
    exact ⟨heap, ended, released⟩

end Usockit
