import Usockit.Client.Termination
import Usockit.Main.Release
import Usockit.Server.Return

namespace Usockit
open Foundation

variable {s s' : Program} {actions : List ProgramAction}

/-! ## The run of the callee -/

def Program.Called : Program → Prop
  | .server _ _ call => ∃ calls, Server.callSystem.Run calls call
  | .client _ _ s => ∃ actions, Client.system.Run actions s
  | .start _ _ _ | .exited _ _ | .unreachable => True

theorem Program.Called.step {a : ProgramAction} (called : s.Called)
    (step : program.step s a = some s') : s'.Called := by
  cases s with
  | start build argv granted =>
      cases a with
      | main config stdin =>
          obtain ⟨⟨flow, heap⟩, -, calls⟩ := Option.bind_eq_some_iff.mp step
          cases flow <;> simp only [ofFlow, reduceCtorEq, Option.some.injEq] at calls <;>
            subst calls
          · trivial
          · exact ⟨[], .start ⟨config, rfl⟩⟩
          · exact ⟨[], .start ⟨stdin, rfl⟩⟩
      | _ => cases step
  | server cli heap call =>
      cases a with
      | server a =>
          obtain ⟨call', stepped, rfl⟩ := Option.map_eq_some_iff.mp step
          obtain ⟨calls, run⟩ := called
          exact ⟨_, run.snoc trivial stepped⟩
      | serverReturned ret =>
          simp only [program, Program.step, Option.ite_none_right_eq_some] at step
          obtain ⟨-, step⟩ := step
          split at step
          · obtain rfl := Option.some.inj step
            trivial
          · obtain ⟨_, -, rfl⟩ := Option.map_eq_some_iff.mp step
            trivial
      | _ => cases step
  | client cli heap s =>
      cases a with
      | client a =>
          obtain ⟨s', stepped, rfl⟩ := Option.map_eq_some_iff.mp step
          obtain ⟨actions, run⟩ := called
          exact ⟨_, run.snoc trivial stepped⟩
      | clientReturned ret jokeMsg =>
          simp only [program, Program.step, Option.ite_none_right_eq_some] at step
          obtain ⟨-, step⟩ := step
          split at step
          · obtain rfl := Option.some.inj step
            trivial
          · obtain ⟨_, -, rfl⟩ := Option.map_eq_some_iff.mp step
            trivial
      | _ => cases step
  | exited | unreachable => cases step

theorem Program.Called.run (run : program.Run actions s) : s.Called := by
  refine run.stateInvariant (I := Program.Called) ?_ ?_
  · rintro _ ⟨build, argv, granted, rfl⟩
    trivial
  · exact fun _ _ _ _ _ called _ step => called.step step

/-! ## The exit -/

theorem exec_server {cli : Cli} {heap : Heap} {call call' : Server.Call}
    {more : List Server.CallAction} (path : Server.callSystem.exec call more = some call') :
    program.exec (.server cli heap call) (more.map .server) = some (.server cli heap call') := by
  induction more generalizing call with
  | nil =>
      obtain rfl : call = call' := by simpa [System.exec] using path
      rfl
  | cons a rest ih =>
      obtain ⟨next, step, onward⟩ := Option.bind_eq_some_iff.mp path
      have stepped : program.step (.server cli heap call) (.server a) =
          some (.server cli heap next) := by
        simp [program, Program.step, step]
      simpa [System.exec, stepped] using ih onward

theorem exec_client {cli : Cli} {heap : Heap} {s t : Client.State} {more : List Client.Action}
    (path : Client.system.exec s more = some t) :
    program.exec (.client cli heap s) (more.map .client) = some (.client cli heap t) := by
  induction more generalizing s with
  | nil =>
      obtain rfl : s = t := by simpa [System.exec] using path
      rfl
  | cons a rest ih =>
      obtain ⟨next, step, onward⟩ := Option.bind_eq_some_iff.mp path
      have stepped : program.step (.client cli heap s) (.client a) =
          some (.client cli heap next) := by
        simp [program, Program.step, step]
      simpa [System.exec, stepped] using ih onward

def ProgramAction.OfReturn : ProgramAction → Prop
  | .server a => a.OfReturn
  | .serverReturned _ => True
  | .main _ _ | .client _ | .clientReturned _ _ => False

/-- The client goes on by itself. Only a server that has not closed can make it wait. -/
def ProgramAction.OfClientReturn (s : Client.State) : ProgramAction → Prop
  | .client a => a.cost ≠ 0 ∧ (a.waited = true → s.socket.serverClosed = false)
  | .clientReturned _ _ => True
  | .main _ _ | .server _ | .serverReturned _ => False

/-- main() comes to its end by itself: with 0 from a server that has its child in the program and
writes nothing, and from the client with what main_client makes of its status, unless the client
dies. -/
structure ProgramExits (s : Program) : Prop where
  server : ∀ cli heap call, s = .server cli heap call → call.Serving →
    ∃ more, program.exec s more = some (.exited 0 []) ∧ more.length ≤ 1855 ∧
      ∀ a ∈ more, a.OfReturn
  client : ∀ cli heap c, s = .client cli heap c →
    ∃ more t, program.exec s more = some t ∧ (∀ a ∈ more, a.OfClientReturn c) ∧
      ((∃ ret jokeMsg code stderr, mainClientSwitch jokeMsg ret = some (code, stderr) ∧
        t = .exited code stderr) ∨
        ∃ d, t = .client cli heap d ∧ d.fate ≠ .running)

def forwardsData : List Server.Action :=
  [.clientConnection (.callWriteAll [104, 105] 5),
   .clientConnection (.wrote (.call 5 [104, 105]) (.pipe .main .write) 2),
   .clientConnection .load]

/-- A client is connected, and its data has come to the program. -/
def servesData : List ProgramAction :=
  .main .shell [] ::
    (Server.setUp ++ (Server.timelyData ++ forwardsData).map Server.CallAction.threads).map .server

def Program.Serving : Program → Prop
  | .server _ _ call => call.Serving
  | .start _ _ _ | .client _ _ _ | .exited _ _ | .unreachable => False

instance : ∀ s : Program, Decidable s.Serving
  | .server _ _ call => inferInstanceAs (Decidable call.Serving)
  | .start _ _ _ | .client _ _ _ | .exited _ _ | .unreachable => inferInstanceAs (Decidable False)

end Usockit
