import Usockit.Main.CommandLine

namespace Usockit
open Foundation

/-! ## The grammar -/

structure PathWord (word : Cstr) : Prop where
  nonempty : word ≠ []
  notDashes : word ≠ bytesOf "--"
  notVersion : word ≠ bytesOf "--version"

def WithoutPath (args : List Cstr) : Prop := ∀ p rest, args = p :: rest → ¬ PathWord p

variable (build : Build)

structure ServerWords (args : List Cstr) (p : Cstr) (v : List Cstr) : Prop where
  words : args = p :: bytesOf "--" :: v
  path : PathWord p
  fits : p.length ≤ build.usockitSocketPathnameMaxLength
  program : ∃ w rest, v = w :: rest ∧ w ≠ []

structure ClientWords (args : List Cstr) (p : Cstr) : Prop where
  words : args = [p]
  path : PathWord p
  fits : p.length ≤ build.usockitSocketPathnameMaxLength

def VersionWords (args : List Cstr) : Prop :=
  ∃ rest, args = bytesOf "--version" :: rest ∨
    ∃ p, PathWord p ∧ args = p :: bytesOf "--version" :: rest

/-- Word `i` is one that no command line has there, for the reason that the code names. -/
inductive Offends (args : List Cstr) : Nat → Nat → Prop
  | emptyFirst (empty : args[0]? = some []) : Offends args 0 9
  | afterPath {i : Nat} {p word : Cstr} (path : PathWord p) (first : args[0]? = some p)
      (here : args[i + 1]? = some word) (before : bytesOf "--" ∉ args.take (i + 1))
      (notDashes : word ≠ bytesOf "--") (notVersion : word ≠ bytesOf "--version") :
      Offends args (i + 1) 7
  | emptyProgram {i : Nat} (dashes : args[i]? = some (bytesOf "--"))
      (before : bytesOf "--" ∉ args.take i) (empty : args[i + 1]? = some []) :
      Offends args (i + 1) 9

structure Leftmost (args : List Cstr) (i code : Nat) : Prop where
  offends : Offends args i code
  least : ∀ j code, Offends args j code → i ≤ j

/-- The first of the checks after the loop that fails on arguments that do not offend. -/
inductive FailsCheck (args : List Cstr) : Nat → Prop
  | noPath (without : WithoutPath args) : FailsCheck args 3
  | tooLong {p : Cstr} {rest : List Cstr} (words : args = p :: rest) (path : PathWord p)
      (long : build.usockitSocketPathnameMaxLength < p.length) : FailsCheck args 48
  | noProgram {p : Cstr} (words : args = [p, bytesOf "--"]) (path : PathWord p)
      (fits : p.length ≤ build.usockitSocketPathnameMaxLength) : FailsCheck args 3

inductive Rejects (args : List Cstr) (code : Nat) : Prop
  | leftmost {i : Nat} (offending : Leftmost args i code)
  | check (none : ∀ i code, ¬ Offends args i code) (fails : FailsCheck build args code)

/-! ## What main() does with it -/

/-- usockit_server is called with the pathname and with these words and a null pointer. -/
def CallsServer (flow : Flow) (heap : Heap) (p : Cstr) (v : List Cstr) : Prop :=
  ∃ cli, flow = .callsServer cli ∧ cli.socketPathname = some p ∧
    heap.block cli.childProgramArgv = some (v.map .arg ++ [.null])

def CallsClient (flow : Flow) (p : Cstr) : Prop :=
  ∃ cli, flow = .callsClient cli ∧ cli.socketPathname = some p

structure FollowsGrammar (args : List Cstr) (flow : Flow) (heap : Heap) : Prop where
  server : ∀ p v, CallsServer flow heap p v ↔ ServerWords build args p v
  client : ∀ p, CallsClient flow p ↔ ClientWords build args p
  version : flow = .returned 0 (build.versionName ++ bytesOf "\n") ↔ VersionWords args
  rejects : (∀ p v, ¬ ServerWords build args p v) → (∀ p, ¬ ClientWords build args p) →
    ¬ VersionWords args → ∃ code stderr, flow = .returned code stderr ∧ Rejects build args code

variable {build} {args rest v : List Cstr} {p w : Cstr} {heap : Heap}

/-! ## Which word offends -/

theorem dashes_ne_nil : bytesOf "--" ≠ [] := by decide

theorem dashes_ne_version : bytesOf "--" ≠ bytesOf "--version" := by decide

theorem version_ne_nil : bytesOf "--version" ≠ [] := by decide

theorem PathWord.versionWords_iff (path : PathWord p) :
    VersionWords (p :: rest) ↔ rest.head? = some (bytesOf "--version") := by
  constructor
  · rintro ⟨rest', first | ⟨q, -, second⟩⟩
    · exact absurd (List.cons.inj first).1 path.notVersion
    · rw [(List.cons.inj second).2]
      rfl
  · intro version
    exact ⟨rest.tail, .inr ⟨p, path, by rw [← List.eq_cons_of_mem_head? version]⟩⟩

/-- A word after the path offends only before "--", and an empty one only right after it. -/
theorem Offends.unique {i code code' : Nat} (offends : Offends args i code)
    (offends' : Offends args i code') : code = code' := by
  have notBoth {i : Nat} (dashes : args[i]? = some (bytesOf "--")) :
      bytesOf "--" ∈ args.take (i + 1) := by
    apply List.mem_of_getElem? (i := i)
    rwa [List.getElem?_take_of_lt (Nat.lt_succ_self i)]
  cases offends with
  | emptyFirst => cases offends'; rfl
  | afterPath _ _ _ before =>
      cases offends' with
      | afterPath => rfl
      | emptyProgram dashes => exact absurd (notBoth dashes) before
  | emptyProgram dashes =>
      cases offends' with
      | afterPath _ _ _ before => exact absurd (notBoth dashes) before
      | emptyProgram => rfl

theorem FailsCheck.unique {code code' : Nat} (fails : FailsCheck build args code)
    (fails' : FailsCheck build args code') : code = code' := by
  cases fails with
  | noPath without =>
      cases fails' with
      | noPath | noProgram => rfl
      | tooLong words path => exact absurd path (without _ _ words)
  | tooLong words path long =>
      cases fails' with
      | noPath without => exact absurd path (without _ _ words)
      | tooLong => rfl
      | noProgram words' _ fits =>
          rw [(List.cons.inj (words.symm.trans words')).1] at long
          exact absurd fits (Nat.not_le.mpr long)
  | noProgram words path fits =>
      cases fails' with
      | noPath | noProgram => rfl
      | tooLong words' _ long =>
          rw [(List.cons.inj (words'.symm.trans words)).1] at long
          exact absurd fits (Nat.not_le.mpr long)

theorem Rejects.unique {code code' : Nat} (rejects : Rejects build args code)
    (rejects' : Rejects build args code') : code = code' := by
  cases rejects with
  | @leftmost i first =>
      cases rejects' with
      | @leftmost j first' =>
          obtain rfl : i = j := Nat.le_antisymm (first.least _ _ first'.offends)
            (first'.least _ _ first.offends)
          exact first.offends.unique first'.offends
      | check none => exact absurd first.offends (none _ _)
  | check none fails =>
      cases rejects' with
      | leftmost first => exact absurd first.offends (none _ _)
      | check _ fails' => exact fails.unique fails'

theorem emptyFirst_leftmost : Leftmost ([] :: rest) 0 9 :=
  ⟨.emptyFirst rfl, fun _ _ _ => Nat.zero_le _⟩

theorem afterPath_leftmost (path : PathWord p) (notDashes : w ≠ bytesOf "--")
    (notVersion : w ≠ bytesOf "--version") : Leftmost (p :: w :: rest) 1 7 := by
  refine ⟨.afterPath path rfl rfl (by simpa using path.notDashes.symm) notDashes notVersion, ?_⟩
  intro j code offends
  cases offends with
  | emptyFirst empty => exact absurd (Option.some.inj empty) path.nonempty
  | afterPath | emptyProgram => exact Nat.le_add_left 1 _

theorem emptyProgram_leftmost : Leftmost (bytesOf "--" :: [] :: rest) 1 9 := by
  refine ⟨.emptyProgram rfl (by simp) rfl, ?_⟩
  intro j code offends
  cases offends with
  | emptyFirst empty => exact absurd (Option.some.inj empty) dashes_ne_nil
  | afterPath | emptyProgram => exact Nat.le_add_left 1 _

theorem emptyProgram_afterPath_leftmost (path : PathWord p) :
    Leftmost (p :: bytesOf "--" :: [] :: rest) 2 9 := by
  refine ⟨.emptyProgram rfl (by simpa using path.notDashes.symm) rfl, ?_⟩
  intro j code offends
  cases offends with
  | emptyFirst empty => exact absurd (Option.some.inj empty) path.nonempty
  | @afterPath i _ _ _ _ here _ notDashes =>
      cases i with
      | zero => exact absurd (Option.some.inj here).symm notDashes
      | succ i => exact Nat.le_add_left 2 i
  | @emptyProgram i dashes =>
      cases i with
      | zero => exact absurd (Option.some.inj dashes) path.notDashes
      | succ i => exact Nat.le_add_left 2 i

theorem dashes_offendsNot (program : v.head? ≠ some []) (i code : Nat) :
    ¬ Offends (bytesOf "--" :: v) i code := by
  intro offends
  cases offends with
  | emptyFirst empty => exact dashes_ne_nil (Option.some.inj empty)
  | afterPath path first => exact path.notDashes (Option.some.inj first).symm
  | @emptyProgram i _ before empty =>
      cases i with
      | zero => exact program (by simpa [List.head?_eq_getElem?] using empty)
      | succ i => exact before List.mem_cons_self

theorem path_offendsNot (path : PathWord p) (i code : Nat) : ¬ Offends [p] i code := by
  intro offends
  cases offends with
  | emptyFirst empty => exact path.nonempty (Option.some.inj empty)
  | afterPath _ _ here => simp at here
  | emptyProgram _ _ empty => simp at empty

theorem path_dashes_offendsNot (path : PathWord p) (program : v.head? ≠ some []) (i code : Nat) :
    ¬ Offends (p :: bytesOf "--" :: v) i code := by
  intro offends
  cases offends with
  | emptyFirst empty => exact path.nonempty (Option.some.inj empty)
  | @afterPath i _ _ _ _ here before notDashes =>
      cases i with
      | zero => exact notDashes (Option.some.inj here).symm
      | succ i => exact before (by simp)
  | @emptyProgram i dashes before empty =>
      cases i with
      | zero => exact path.notDashes (Option.some.inj dashes)
      | succ i =>
          cases i with
          | zero => exact program (by simpa [List.head?_eq_getElem?] using empty)
          | succ i => exact before (by simp)

/-! ## The loop -/

variable (build) (argv : Argv) (i : Nat) {cli : Cli} {words : List Cstr}

theorem mainTurn_append (holds : cli.Holds heap words) (few : words.length + 1 < 2 ^ 31)
    (notFirst : words = [] → w ≠ []) :
    ∃ cli' heap', mainTurn build argv true i w cli heap = some (.next cli', heap') ∧
      cli'.Holds heap' (words ++ [w]) ∧ cli'.socketPathname = cli.socketPathname := by
  obtain ⟨cli', heap', appended, holds', same⟩ := append_granted holds few w
  refine ⟨cli', heap', ?_, holds', same⟩
  have notBoth : ¬ (words.length = 0 ∧ w = []) := by
    rintro ⟨first, empty⟩
    exact notFirst (List.eq_nil_of_length_eq_zero first) empty
  simp only [mainTurn, holds.childProgram, holds.size, if_true, if_neg notBoth, appended]
  rfl

/-- After the first argument of the program, every word is taken as it is. -/
theorem mainLoop_append (holds : cli.Holds heap words) (few : words.length + v.length < 2 ^ 31)
    (notFirst : words = [] → v.head? ≠ some []) :
    ∃ cli' heap', mainLoop build argv (fun _ => true) i v cli heap = some (.next cli', heap') ∧
      cli'.Holds heap' (words ++ v) ∧ cli'.socketPathname = cli.socketPathname := by
  induction v generalizing i cli heap words with
  | nil => exact ⟨cli, heap, rfl, by simpa using holds, rfl⟩
  | cons w v ih =>
      rw [List.length_cons] at few
      obtain ⟨cli', heap', turn, holds', same⟩ := mainTurn_append build argv i holds (by omega)
        (fun first => by simpa using notFirst first)
      obtain ⟨cli'', heap'', rest, holds'', same'⟩ := ih (i + 1) holds'
        (by simp only [List.length_append, List.length_singleton]; omega) (by simp)
      refine ⟨cli'', heap'', ?_, by simpa using holds'', same'.trans same⟩
      simpa [mainLoop, turn] using rest

theorem mainLoop_emptyProgram (rest : List Cstr) (holds : cli.Holds heap []) :
    ∃ heap', mainLoop build argv (fun _ => true) i ([] :: rest) cli heap =
      some (.returned 9 (programMustNotBeEmpty argv.argv0 i), heap') := by
  obtain ⟨_, live, -⟩ := holds.cells
  obtain ⟨heap', freed, -⟩ := Heap.free_live live
  exact ⟨heap', by
    simp [mainLoop, mainTurn, holds.childProgram, holds.size,
      usockitCliDestroyDefinitelyInitChildProgramArgv, freed]⟩

theorem mainTurn_dashes (heap : Heap) (fresh : cli.childProgram = false) :
    ∃ cli' heap', mainTurn build argv true i (bytesOf "--") cli heap = some (.next cli', heap') ∧
      cli'.Holds heap' [] ∧ cli'.socketPathname = cli.socketPathname := by
  obtain ⟨cli', heap', inited, holds, same⟩ := init_granted cli heap
  exact ⟨cli', heap', by simp [mainTurn, fresh, inited], holds, same⟩

theorem mainLoop_dashes (heap : Heap) (fresh : cli.childProgram = false)
    (few : v.length < 2 ^ 31) (program : v.head? ≠ some []) :
    ∃ cli' heap', mainLoop build argv (fun _ => true) i (bytesOf "--" :: v) cli heap =
        some (.next cli', heap') ∧
      cli'.Holds heap' v ∧ cli'.socketPathname = cli.socketPathname := by
  obtain ⟨cli', heap', turn, holds, same⟩ := mainTurn_dashes build argv i heap fresh
  obtain ⟨cli'', heap'', appended, holds', same'⟩ := mainLoop_append build argv (i + 1) holds
    (by simpa using few) fun _ => program
  exact ⟨cli'', heap'', by simpa [mainLoop, turn] using appended, by simpa using holds',
    same'.trans same⟩

theorem mainLoop_dashes_emptyProgram (rest : List Cstr) (heap : Heap)
    (fresh : cli.childProgram = false) :
    ∃ heap', mainLoop build argv (fun _ => true) i (bytesOf "--" :: [] :: rest) cli heap =
      some (.returned 9 (programMustNotBeEmpty argv.argv0 (i + 1)), heap') := by
  obtain ⟨cli', heap', turn, holds, -⟩ := mainTurn_dashes build argv i heap fresh
  obtain ⟨heap'', refused⟩ := mainLoop_emptyProgram build argv (i + 1) rest holds
  exact ⟨heap'', by simpa [mainLoop, turn] using refused⟩

theorem mainLoop_path (rest : List Cstr) (heap : Heap) (path : PathWord p)
    (fresh : cli.childProgram = false) (first : cli.socketPathname = none) :
    mainLoop build argv (fun _ => true) i (p :: rest) cli heap =
      mainLoop build argv (fun _ => true) (i + 1) rest { cli with socketPathname := some p }
        heap := by
  simp [mainLoop, mainTurn, fresh, first, path.nonempty, path.notDashes, path.notVersion]

theorem mainLoop_version (rest : List Cstr) (heap : Heap) (fresh : cli.childProgram = false) :
    mainLoop build argv (fun _ => true) i (bytesOf "--version" :: rest) cli heap =
      some (.returned 0 (build.versionName ++ bytesOf "\n"), heap) := by
  simp [mainLoop, mainTurn, fresh, dashes_ne_version.symm,
    usockitCliDestroyDefinitelyNoInitChildProgramArgv]

/-! ## After the loop -/

theorem destroy_defined (held : cli.childProgram = true → ∃ words, cli.Holds heap words) :
    ∃ heap', usockitCliDestroy cli heap = some heap' := by
  cases given : cli.childProgram with
  | false => exact ⟨heap, by simp [usockitCliDestroy, given,
      usockitCliDestroyDefinitelyNoInitChildProgramArgv]⟩
  | true =>
      obtain ⟨words, holds⟩ := held given
      obtain ⟨_, live, -⟩ := holds.cells
      obtain ⟨heap', freed, -⟩ := Heap.free_live live
      exact ⟨heap', by simp [usockitCliDestroy, given,
        usockitCliDestroyDefinitelyInitChildProgramArgv, freed]⟩

theorem mainAfterLoop_noPath (held : cli.childProgram = true → ∃ words, cli.Holds heap words)
    (absent : cli.socketPathname = none) :
    ∃ heap', mainAfterLoop build argv true cli heap =
      some (.returned 3 (missingSocketPath argv.argv0), heap') := by
  obtain ⟨heap', destroyed⟩ := destroy_defined held
  exact ⟨heap', by simp [mainAfterLoop, absent, destroyed]⟩

theorem mainAfterLoop_tooLong (held : cli.childProgram = true → ∃ words, cli.Holds heap words)
    (given : cli.socketPathname = some p)
    (long : build.usockitSocketPathnameMaxLength < p.length) :
    ∃ heap', mainAfterLoop build argv true cli heap =
      some (.returned 48 (pathTooLong argv.argv0 p build.usockitSocketPathnameMaxLength),
        heap') := by
  obtain ⟨heap', destroyed⟩ := destroy_defined held
  exact ⟨heap', by simp [mainAfterLoop, given, long, destroyed]⟩

theorem mainAfterLoop_noProgram (holds : cli.Holds heap []) (given : cli.socketPathname = some p)
    (fits : p.length ≤ build.usockitSocketPathnameMaxLength) :
    ∃ heap', mainAfterLoop build argv true cli heap =
      some (.returned 3 (missingProgram argv.argv0), heap') := by
  obtain ⟨_, live, -⟩ := holds.cells
  obtain ⟨heap', freed, -⟩ := Heap.free_live live
  exact ⟨heap', by simp [mainAfterLoop, mainServer, given, Nat.not_lt.mpr fits,
    holds.childProgram, holds.size, usockitCliDestroyDefinitelyInitChildProgramArgv, freed]⟩

theorem mainAfterLoop_client (fresh : cli.childProgram = false)
    (given : cli.socketPathname = some p)
    (fits : p.length ≤ build.usockitSocketPathnameMaxLength) :
    mainAfterLoop build argv true cli heap = some (.callsClient cli, heap) := by
  simp [mainAfterLoop, given, Nat.not_lt.mpr fits, fresh]

theorem mainAfterLoop_server (holds : cli.Holds heap v) (few : v.length < 2 ^ 31)
    (nonempty : v ≠ []) (given : cli.socketPathname = some p)
    (fits : p.length ≤ build.usockitSocketPathnameMaxLength) :
    ∃ flow heap', mainAfterLoop build argv true cli heap = some (flow, heap') ∧
      CallsServer flow heap' p v := by
  obtain ⟨cli', heap', shrunk, holds', capacity, same⟩ := shrink_granted holds few nonempty
  obtain ⟨spare, live, capacity'⟩ := holds'.cells
  have none_spare : spare = [] := List.eq_nil_of_length_eq_zero (by omega)
  refine ⟨.callsServer cli', heap', ?_, cli', rfl, same.trans given, by rw [live, none_spare]⟩
  simp [mainAfterLoop, mainServer, given, Nat.not_lt.mpr fits, holds.childProgram, holds.size,
    nonempty, shrunk]

/-! ## The whole of main() -/

variable {build argv} {flow : Flow} {code : Nat} {stderr : Cstr}

theorem main_of_returned
    (loop : mainLoop build argv (fun _ => true) 1 argv.args usockitCliCreate ⟨[]⟩ =
      some (.returned code stderr, heap)) :
    main build argv (fun _ => true) = some (.returned code stderr, heap) := by
  simp [main, loop]

theorem main_of_next
    (loop : mainLoop build argv (fun _ => true) 1 argv.args usockitCliCreate ⟨[]⟩ =
      some (.next cli, heap)) :
    main build argv (fun _ => true) = mainAfterLoop build argv true cli heap := by
  simp [main, loop]

theorem WithoutPath.notServer (without : WithoutPath args) (p : Cstr) (v : List Cstr) :
    ¬ ServerWords build args p v :=
  fun server => without _ _ server.words server.path

theorem WithoutPath.notClient (without : WithoutPath args) (p : Cstr) :
    ¬ ClientWords build args p :=
  fun client => without _ _ client.words client.path

theorem FollowsGrammar.ofRejects (fails : code ≠ 0)
    (server : ∀ p v, ¬ ServerWords build args p v) (client : ∀ p, ¬ ClientWords build args p)
    (version : ¬ VersionWords args) (rejects : Rejects build args code) :
    FollowsGrammar build args (.returned code stderr) heap where
  server p v := by simp [CallsServer, server p v]
  client p := by simp [CallsClient, client p]
  version := by simp [fails, version]
  rejects _ _ _ := ⟨code, stderr, rfl, rejects⟩

theorem FollowsGrammar.ofVersion (version : VersionWords args)
    (server : ∀ p v, ¬ ServerWords build args p v) (client : ∀ p, ¬ ClientWords build args p) :
    FollowsGrammar build args (.returned 0 (build.versionName ++ bytesOf "\n")) heap where
  server p v := by simp [CallsServer, server p v]
  client p := by simp [CallsClient, client p]
  version := by simp [version]
  rejects _ _ notVersion := absurd version notVersion

theorem FollowsGrammar.ofServer (words : ServerWords build args p v)
    (calls : CallsServer flow heap p v) : FollowsGrammar build args flow heap := by
  obtain ⟨cli, rfl, given, block⟩ := calls
  have version : ¬ VersionWords args := by
    rw [words.words, words.path.versionWords_iff]
    exact fun second => dashes_ne_version (Option.some.inj second)
  refine ⟨fun p' v' => ⟨?_, ?_⟩, fun p' => ⟨?_, ?_⟩, by simp [version], ?_⟩
  · rintro ⟨_, ⟨⟩, given', block'⟩
    obtain rfl := Option.some.inj (given.symm.trans given')
    have cells := List.append_inj_left' (Option.some.inj (block.symm.trans block')) rfl
    obtain rfl := (List.map_injective_iff.mpr fun _ _ => Cell.arg.inj) cells
    exact words
  · intro words'
    obtain ⟨rfl, tails⟩ := List.cons.inj (words.words.symm.trans words'.words)
    obtain ⟨-, rfl⟩ := List.cons.inj tails
    exact ⟨cli, rfl, given, block⟩
  · rintro ⟨_, ⟨⟩, -⟩
  · intro client
    exact absurd (words.words.symm.trans client.words) (by simp)
  · exact fun notServer _ _ => absurd words (notServer p v)

theorem FollowsGrammar.ofClient (words : ClientWords build args p) (calls : CallsClient flow p) :
    FollowsGrammar build args flow heap := by
  obtain ⟨cli, rfl, given⟩ := calls
  have version : ¬ VersionWords args := by
    rw [words.words, words.path.versionWords_iff]
    nofun
  refine ⟨fun p' v' => ⟨?_, ?_⟩, fun p' => ⟨?_, ?_⟩, by simp [version], ?_⟩
  · rintro ⟨_, ⟨⟩, -⟩
  · intro server
    exact absurd (words.words.symm.trans server.words) (by simp)
  · rintro ⟨_, ⟨⟩, given'⟩
    obtain rfl := Option.some.inj (given.symm.trans given')
    exact words
  · intro words'
    obtain ⟨rfl, -⟩ := List.cons.inj (words.words.symm.trans words'.words)
    exact ⟨cli, rfl, given⟩
  · exact fun _ notClient => absurd words (notClient p)

/-- main() returns or calls as the grammar says. -/
def MainFollowsGrammar (build : Build) (argv : Argv) : Prop :=
  ∃ flow heap, main build argv (fun _ => true) = some (flow, heap) ∧
    FollowsGrammar build argv.args flow heap

theorem MainFollowsGrammar.ofRejects (fails : code ≠ 0)
    (returned : main build argv (fun _ => true) = some (.returned code stderr, heap))
    (server : ∀ p v, ¬ ServerWords build argv.args p v)
    (client : ∀ p, ¬ ClientWords build argv.args p)
    (version : ¬ VersionWords argv.args) (rejects : Rejects build argv.args code) :
    MainFollowsGrammar build argv :=
  ⟨_, heap, returned, .ofRejects fails server client version rejects⟩

theorem main_noArguments (words : argv.args = []) : MainFollowsGrammar build argv := by
  have loop : mainLoop build argv (fun _ => true) 1 argv.args usockitCliCreate ⟨[]⟩ =
      some (.next usockitCliCreate, ⟨[]⟩) := by rw [words, mainLoop]
  obtain ⟨heap, returned⟩ : ∃ heap, mainAfterLoop build argv true usockitCliCreate ⟨[]⟩ =
      some (.returned 3 (missingSocketPath argv.argv0), heap) :=
    mainAfterLoop_noPath build argv (by simp [usockitCliCreate]) rfl
  have without : WithoutPath argv.args := by simp [WithoutPath, words]
  refine .ofRejects (by decide) ((main_of_next loop).trans returned) without.notServer
    without.notClient (by simp [VersionWords, words]) (.check ?_ (.noPath without))
  intro i code offends
  rw [words] at offends
  cases offends <;> simp_all

theorem main_emptyFirst (words : argv.args = [] :: rest) : MainFollowsGrammar build argv := by
  have without : WithoutPath argv.args := by
    rintro p rest' first path
    exact path.nonempty (List.cons.inj (words.symm.trans first)).1.symm
  have loop : mainLoop build argv (fun _ => true) 1 argv.args usockitCliCreate ⟨[]⟩ =
      some (.returned 9 (argumentMustNotBeEmpty argv 1), ⟨[]⟩) := by
    rw [words]
    rfl
  refine .ofRejects (by decide) (main_of_returned loop) without.notServer without.notClient ?_
    (.leftmost (words ▸ emptyFirst_leftmost))
  rintro ⟨rest', first | ⟨q, path, second⟩⟩
  · exact version_ne_nil (List.cons.inj (words.symm.trans first)).1.symm
  · exact without _ _ second path

theorem main_versionFirst (words : argv.args = bytesOf "--version" :: rest) :
    MainFollowsGrammar build argv := by
  have without : WithoutPath argv.args := by
    rintro p rest' first path
    exact path.notVersion (List.cons.inj (words.symm.trans first)).1.symm
  have loop : mainLoop build argv (fun _ => true) 1 argv.args usockitCliCreate ⟨[]⟩ =
      some (.returned 0 (build.versionName ++ bytesOf "\n"), ⟨[]⟩) := by
    rw [words]
    exact mainLoop_version build argv 1 rest _ rfl
  exact ⟨_, _, main_of_returned loop,
    .ofVersion ⟨rest, .inl words⟩ without.notServer without.notClient⟩

theorem main_dashesFirst (words : argv.args = bytesOf "--" :: v) :
    MainFollowsGrammar build argv := by
  have without : WithoutPath argv.args := by
    rintro p rest first path
    exact path.notDashes (List.cons.inj (words.symm.trans first)).1.symm
  have version : ¬ VersionWords argv.args := by
    rintro ⟨rest, first | ⟨q, path, second⟩⟩
    · exact dashes_ne_version (List.cons.inj (words.symm.trans first)).1
    · exact without _ _ second path
  by_cases empty : v.head? = some []
  · obtain ⟨rest, rfl⟩ : ∃ rest, v = [] :: rest := ⟨v.tail, List.eq_cons_of_mem_head? empty⟩
    obtain ⟨heap, loop⟩ := mainLoop_dashes_emptyProgram build argv 1 rest ⟨[]⟩
      (rfl : usockitCliCreate.childProgram = false)
    rw [← words] at loop
    exact .ofRejects (by decide) (main_of_returned loop) without.notServer without.notClient
      version (.leftmost (words ▸ emptyProgram_leftmost))
  · have few := argv.argc_int
    simp only [words, List.length_cons] at few
    obtain ⟨cli, heap, loop, holds, given⟩ := mainLoop_dashes build argv 1 ⟨[]⟩
      (rfl : usockitCliCreate.childProgram = false) (by omega) empty
    rw [← words] at loop
    obtain ⟨heap', returned⟩ := mainAfterLoop_noPath build argv (fun _ => ⟨v, holds⟩) given
    exact .ofRejects (by decide) ((main_of_next loop).trans returned) without.notServer
      without.notClient version
      (.check (words ▸ dashes_offendsNot empty) (.noPath without))

def named (p : Cstr) : Cli := { usockitCliCreate with socketPathname := some p }

theorem mainLoop_named (build : Build) (words : argv.args = p :: rest) (path : PathWord p) :
    mainLoop build argv (fun _ => true) 1 argv.args usockitCliCreate ⟨[]⟩ =
      mainLoop build argv (fun _ => true) 2 rest (named p) ⟨[]⟩ := by
  rw [words]
  exact mainLoop_path build argv 1 rest ⟨[]⟩ path rfl rfl

theorem main_pathOnly (words : argv.args = [p]) (path : PathWord p) :
    MainFollowsGrammar build argv := by
  have loop := mainLoop_named build words path
  rw [mainLoop] at loop
  by_cases fits : p.length ≤ build.usockitSocketPathnameMaxLength
  · have calls : mainAfterLoop build argv true (named p) ⟨[]⟩ =
        some (.callsClient (named p), ⟨[]⟩) := mainAfterLoop_client build argv rfl rfl fits
    exact ⟨_, _, (main_of_next loop).trans calls, .ofClient ⟨words, path, fits⟩ ⟨_, rfl, rfl⟩⟩
  · obtain ⟨heap, returned⟩ : ∃ heap, mainAfterLoop build argv true (named p) ⟨[]⟩ =
        some (.returned 48 (pathTooLong argv.argv0 p build.usockitSocketPathnameMaxLength), heap) :=
      mainAfterLoop_tooLong build argv nofun rfl (Nat.not_le.mp fits)
    refine .ofRejects (by decide) ((main_of_next loop).trans returned) ?_ ?_ ?_
      (.check (words ▸ path_offendsNot path) (.tooLong words path (Nat.not_le.mp fits)))
    · intro q v server
      exact absurd (words.symm.trans server.words) (by simp)
    · intro q client
      obtain ⟨rfl, -⟩ := List.cons.inj (words.symm.trans client.words)
      exact fits client.fits
    · rw [words, path.versionWords_iff]
      nofun

theorem main_pathVersion (words : argv.args = p :: bytesOf "--version" :: rest)
    (path : PathWord p) : MainFollowsGrammar build argv := by
  have loop := mainLoop_named build words path
  rw [mainLoop_version build argv 2 rest ⟨[]⟩ rfl] at loop
  refine ⟨_, _, main_of_returned loop, .ofVersion ⟨rest, .inr ⟨p, path, words⟩⟩ ?_ ?_⟩
  · intro q v server
    have tails := (List.cons.inj (words.symm.trans server.words)).2
    exact dashes_ne_version (List.cons.inj tails).1.symm
  · intro q client
    exact absurd (words.symm.trans client.words) (by simp)

theorem main_pathOther (words : argv.args = p :: w :: rest) (path : PathWord p)
    (notDashes : w ≠ bytesOf "--") (notVersion : w ≠ bytesOf "--version") :
    MainFollowsGrammar build argv := by
  have loop := mainLoop_named build words path
  have refused : mainLoop build argv (fun _ => true) 2 (w :: rest) (named p) ⟨[]⟩ =
      some (.returned 7 (invalidArgument argv.argv0 w), ⟨[]⟩) := by
    simp [mainLoop, mainTurn, named, usockitCliCreate, notDashes, notVersion,
      usockitCliDestroyDefinitelyNoInitChildProgramArgv]
  refine .ofRejects (by decide) (main_of_returned (loop.trans refused)) ?_ ?_ ?_
    (.leftmost (words ▸ afterPath_leftmost path notDashes notVersion))
  · intro q v server
    have tails := (List.cons.inj (words.symm.trans server.words)).2
    exact notDashes (List.cons.inj tails).1
  · intro q client
    exact absurd (words.symm.trans client.words) (by simp)
  · rw [words, path.versionWords_iff]
    exact fun second => notVersion (Option.some.inj second)

theorem main_pathDashes (words : argv.args = p :: bytesOf "--" :: v) (path : PathWord p) :
    MainFollowsGrammar build argv := by
  have version : ¬ VersionWords argv.args := by
    rw [words, path.versionWords_iff]
    exact fun second => dashes_ne_version (Option.some.inj second)
  have notClient (q : Cstr) : ¬ ClientWords build argv.args q :=
    fun client => absurd (words.symm.trans client.words) (by simp)
  have server_words {q : Cstr} {v' : List Cstr} (server : ServerWords build argv.args q v') :
      q = p ∧ v' = v := by
    obtain ⟨rfl, tails⟩ := List.cons.inj (words.symm.trans server.words)
    exact ⟨rfl, (List.cons.inj tails).2.symm⟩
  have loop := mainLoop_named build words path
  by_cases empty : v.head? = some []
  · obtain ⟨rest, rfl⟩ : ∃ rest, v = [] :: rest := ⟨v.tail, List.eq_cons_of_mem_head? empty⟩
    obtain ⟨heap, refused⟩ := mainLoop_dashes_emptyProgram build argv 2 rest ⟨[]⟩
      (rfl : (named p).childProgram = false)
    refine .ofRejects (by decide) (main_of_returned (loop.trans refused)) ?_ notClient version
      (.leftmost (words ▸ emptyProgram_afterPath_leftmost path))
    intro q v' server
    obtain ⟨w, rest', program, nonempty⟩ := server.program
    rw [(server_words server).2] at program
    exact nonempty (List.cons.inj program).1.symm
  · have few := argv.argc_int
    simp only [words, List.length_cons] at few
    obtain ⟨cli, heap, passed, holds, given⟩ := mainLoop_dashes build argv 2 ⟨[]⟩
      (rfl : (named p).childProgram = false) (by omega) empty
    have after := main_of_next (loop.trans passed)
    have none := path_dashes_offendsNot path empty
    rw [← words] at none
    by_cases fits : p.length ≤ build.usockitSocketPathnameMaxLength
    · cases v with
      | nil =>
          obtain ⟨heap', returned⟩ := mainAfterLoop_noProgram build argv holds given fits
          refine .ofRejects (by decide) (after.trans returned) ?_ notClient version
            (.check none (.noProgram words path fits))
          intro q v' server
          obtain ⟨w, rest, program, -⟩ := server.program
          exact absurd (program.symm.trans (server_words server).2) (by simp)
      | cons w rest =>
          obtain ⟨flow, heap', called, calls⟩ := mainAfterLoop_server build argv holds
            (by simp only [List.length_cons] at few ⊢; omega) (by simp) given fits
          exact ⟨flow, heap', after.trans called,
            .ofServer ⟨words, path, fits, w, rest, rfl, by simpa using empty⟩ calls⟩
    · obtain ⟨heap', returned⟩ := mainAfterLoop_tooLong build argv (fun _ => ⟨v, holds⟩) given
        (Nat.not_le.mp fits)
      refine .ofRejects (by decide) (after.trans returned) ?_ notClient version
        (.check none (.tooLong words path (Nat.not_le.mp fits)))
      intro q v' server
      exact fits ((server_words server).1 ▸ server.fits)

/-- With memory to allocate, main() accepts exactly the command lines of the grammar. -/
theorem main_followsGrammar (build : Build) (argv : Argv) :
    ∃ flow heap, main build argv (fun _ => true) = some (flow, heap) ∧
      FollowsGrammar build argv.args flow heap := by
  cases words : argv.args with
  | nil => exact words ▸ main_noArguments words
  | cons first rest =>
      rw [← words]
      by_cases dashes : first = bytesOf "--"
      · exact main_dashesFirst (dashes ▸ words)
      by_cases version : first = bytesOf "--version"
      · exact main_versionFirst (version ▸ words)
      by_cases empty : first = []
      · exact main_emptyFirst (empty ▸ words)
      have path : PathWord first := ⟨empty, dashes, version⟩
      cases rest with
      | nil => exact main_pathOnly words path
      | cons second rest =>
          by_cases dashes : second = bytesOf "--"
          · exact main_pathDashes (dashes ▸ words) path
          by_cases version : second = bytesOf "--version"
          · exact main_pathVersion (version ▸ words) path
          · exact main_pathOther words path dashes version

end Usockit
