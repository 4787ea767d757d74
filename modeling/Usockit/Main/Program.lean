import Usockit.Main.CommandLine
import Usockit.Server.Statuses
import Usockit.Server.ExecReport
import Usockit.Client.Posting

namespace Usockit
open Foundation

/-! ## The exit codes -/

/-- The switch of main_server; `none` is cross_support_unreachable(). -/
def mainServerSwitch : Server.RetStatus → Option Nat
  | .success => some 0
  | .unknown => some 125
  | .outOfMemory => none

def serverRejectedConnection (jokeMsg : Bool) : Cstr :=
  if jokeMsg then
    bytesOf "Server told us to fuck off, they already have enough clients connected... rude.\n"
  else bytesOf "Server rejected connection; maximum amount of clients already connected.\n"

def mainClientSwitch (jokeMsg : Bool) : Client.RetStatus → Option (Nat × Cstr)
  | .successEof => some (0, [])
  | .successFuckOff => some (48, serverRejectedConnection jokeMsg)
  | .unknown => some (125, [])

/-! ## The process -/

/-- main() is about to start, is inside the call of usockit_server or usockit_client, or has
returned. `unreachable` is cross_support_unreachable() in one of its own switches. -/
inductive Program
  | start (build : Build) (argv : Argv) (granted : Nat → Bool)
  | server (cli : Cli) (heap : Heap) (call : Server.Call)
  | client (cli : Cli) (heap : Heap) (s : Client.State)
  | exited (exitCode : Nat) (stderr : Cstr)
  | unreachable

inductive ProgramAction
  | main (config : Server.Config) (stdin : List Byte)
  | server (a : Server.CallAction)
  | serverReturned (ret : Server.RetStatus)
  | client (a : Client.Action)
  | clientReturned (ret : Client.RetStatus) (jokeMsg : Bool)

/-- The process that main() finds is given by `config` and `stdin`. -/
def Program.ofFlow (config : Server.Config) (stdin : List Byte) :
    Flow × Heap → Option Program
  | (.returned exitCode stderr, _) => some (.exited exitCode stderr)
  | (.callsServer cli, heap) => some (.server cli heap (.start config))
  | (.callsClient cli, heap) => some (.client cli heap (.start stdin))
  | (.next _, _) => none

def Program.step : Program → ProgramAction → Option Program
  | .start build argv granted, .main config stdin =>
      (main build argv granted).bind (ofFlow config stdin)
  | .server cli heap call, .server a =>
      (Server.callSystem.step call a).map fun call => .server cli heap call
  | .server cli heap call, .serverReturned ret =>
      if call.pc = .returned ret then
        match mainServerSwitch ret with
        | none => some .unreachable
        | some exitCode =>
            (usockitCliDestroyDefinitelyInitChildProgramArgv cli heap).map fun _ =>
              .exited exitCode []
      else none
  | .client cli heap s, .client a =>
      (Client.system.step s a).map fun s => .client cli heap s
  | .client cli heap s, .clientReturned ret jokeMsg =>
      if s.main = .returned ret ∧ s.fate = .running then
        match mainClientSwitch jokeMsg ret with
        | none => some .unreachable
        | some (exitCode, stderr) =>
            (usockitCliDestroyDefinitelyNoInitChildProgramArgv cli heap).map fun _ =>
              .exited exitCode stderr
      else none
  | _, _ => none

def program : System Program ProgramAction where
  initial s := ∃ build argv granted, s = .start build argv granted
  step := Program.step

/-! ## cross_support_unreachable() -/

def Program.AtUnreachable : Program → Prop
  | .server _ _ call => call.threads.main = .unreachable
  | .client _ _ s => s.main = .unreachable
  | .unreachable => True
  | .start _ _ _ | .exited _ _ => False

instance : DecidablePred Program.AtUnreachable := fun s => by
  unfold Program.AtUnreachable
  split <;> infer_instance

/-- In usockit_server strdup() succeeds, and main can tell what it reads of the child. -/
def ProgramMeets : Program → ProgramAction → Prop
  | .server _ _ call, .server a => Server.CallMeets call a
  | _, _ => True

instance (s : Program) (a : ProgramAction) : Decidable (ProgramMeets s a) := by
  unfold ProgramMeets
  split <;> infer_instance

def Program.Callee : Program → Prop
  | .server _ _ call => ∃ actions, Server.callSystem.RunWhere Server.CallMeets actions call
  | .client _ _ s => ∃ actions, Client.system.Run actions s
  | .unreachable => False
  | .start _ _ _ | .exited _ _ => True

variable {s s' : Program} {actions : List ProgramAction}

theorem mainClientSwitch_some (jokeMsg : Bool) (ret : Client.RetStatus) :
    mainClientSwitch jokeMsg ret ≠ none := by
  cases ret <;> simp [mainClientSwitch]

theorem Program.Callee.step {a : ProgramAction} (callee : s.Callee) (meets : ProgramMeets s a)
    (step : program.step s a = some s') : s'.Callee := by
  cases s with
  | start build argv granted =>
      cases a with
      | main config stdin =>
          obtain ⟨⟨flow, heap⟩, -, called⟩ := Option.bind_eq_some_iff.mp step
          cases flow <;> simp only [ofFlow, reduceCtorEq, Option.some.injEq] at called <;>
            subst called
          · trivial
          · exact ⟨[], .start ⟨config, rfl⟩⟩
          · exact ⟨[], .start ⟨stdin, rfl⟩⟩
      | _ => cases step
  | server cli heap call =>
      cases a with
      | server a =>
          obtain ⟨call', stepped, rfl⟩ := Option.map_eq_some_iff.mp step
          obtain ⟨actions, run⟩ := callee
          exact ⟨_, run.snoc meets stepped⟩
      | serverReturned ret =>
          obtain ⟨actions, run⟩ := callee
          simp only [program, Program.step, Option.ite_none_right_eq_some] at step
          obtain ⟨returned, step⟩ := step
          have status := (Server.Call.Mapped.run run).status
          cases ret with
          | outOfMemory => simp [returned, Server.CallPc.status] at status
          | success | unknown =>
              obtain ⟨_, -, rfl⟩ := Option.map_eq_some_iff.mp step
              trivial
      | _ => cases step
  | client cli heap s =>
      cases a with
      | client a =>
          obtain ⟨s', stepped, rfl⟩ := Option.map_eq_some_iff.mp step
          obtain ⟨actions, run⟩ := callee
          exact ⟨_, run.snoc trivial stepped⟩
      | clientReturned ret jokeMsg =>
          simp only [program, Program.step, Option.ite_none_right_eq_some] at step
          obtain ⟨-, step⟩ := step
          split at step
          next unmapped => exact absurd unmapped (mainClientSwitch_some jokeMsg ret)
          next =>
            obtain ⟨_, -, rfl⟩ := Option.map_eq_some_iff.mp step
            trivial
      | _ => cases step
  | exited | unreachable => cases step

theorem Program.Callee.run (run : program.RunWhere ProgramMeets actions s) : s.Callee := by
  refine run.stateInvariant (I := Program.Callee) ?_ ?_
  · rintro _ ⟨build, argv, granted, rfl⟩
    trivial
  · exact fun _ _ _ _ _ callee meets step => callee.step meets step

theorem unreachable_avoided (run : program.RunWhere ProgramMeets actions s) :
    ¬ s.AtUnreachable := by
  have callee := Program.Callee.run run
  cases s with
  | server =>
      obtain ⟨_, run⟩ := callee
      exact (Server.Call.Mapped.run run).threads.reachable
  | client =>
      obtain ⟨_, run⟩ := callee
      exact (Client.Invariants.run run).slot.reachable
  | unreachable => exact callee.elim
  | start | exited => exact id

/-! ## Runs -/

/-- `usockit s -- true`, where every allocation of main() succeeds. -/
def Program.serverStart : Program :=
  .start ⟨bytesOf "0.1.0-indev02", 108⟩
    ⟨bytesOf "usockit", [bytesOf "s", bytesOf "--", bytesOf "true"], by decide⟩ fun _ => true

/-- The server is started, serves nobody and returns. -/
def exitsWithoutClient : List ProgramAction :=
  .main .shell [] :: Server.servedNobody.map .server ++ [.serverReturned .success]

theorem unreachable_avoided_exitsWithoutClient :
    ∃ s, program.exec .serverStart exitsWithoutClient = some s ∧ ¬ s.AtUnreachable := by
  obtain ⟨s, path, -⟩ : ∃ s, program.exec .serverStart exitsWithoutClient = some s ∧ True :=
    System.exists_exec (by decide +kernel)
  exact ⟨s, path, unreachable_avoided
    (System.runWhere_of_exec ⟨_, _, _, rfl⟩ path (by decide +kernel))⟩

def strdupFails : List ProgramAction :=
  [.main .shell [], .server .strdupFailed, .serverReturned .outOfMemory]

/-- The program writes to the end of the reporting pipe that it has inherited. -/
def programReport : List Server.Action :=
  Server.fallbackStart ++
    [.child (.programWrites 7 (.pipe .reporting .write) (bytesOf "hello, world")),
     .parent .readError, .child .programExits, .parent (.waitpid none)]

def programReports : List ProgramAction :=
  .main .fallback [] :: Server.setUp.map .server ++ programReport.map fun a => .server (.threads a)

theorem unreachable_reached :
    (∃ s, program.Run strdupFails s ∧ s.AtUnreachable) ∧
      ∃ s, program.Run programReports s ∧ s.AtUnreachable := by
  constructor
  · obtain ⟨s, path, reached⟩ : ∃ s, program.exec .serverStart strdupFails = some s ∧
        s.AtUnreachable := System.exists_exec (by decide +kernel)
    exact ⟨s, System.run_of_exec ⟨_, _, _, rfl⟩ path, reached⟩
  · obtain ⟨s, path, reached⟩ : ∃ s, program.exec .serverStart programReports = some s ∧
        s.AtUnreachable := System.exists_exec (by decide +kernel)
    exact ⟨s, System.run_of_exec ⟨_, _, _, rfl⟩ path, reached⟩

end Usockit
