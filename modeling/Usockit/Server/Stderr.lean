import Usockit.Server.Closing
import Usockit.Server.ExecTable

namespace Usockit.Server
open Foundation Kernel

variable {s s' : State} {actions : List Action} {j : Nat}

/-! ## Where perror() writes to -/

/-- A file through which the server talks to a client or to the child. -/
def File.isPeer : File → Bool
  | .connection _ | .pipe .main .write => true
  | _ => false

/-- perror() writes its text. -/
def Action.callsPerror : Action → Bool
  | .accept (.perror _ _ _) | .parent (.perror _ _ _ _) => true
  | _ => false

/-- perror() is not called while descriptor 2 is the write end of the main pipe. -/
def SparesStdin (s : State) (a : Action) : Prop :=
  a.callsPerror = true → s.kernel.fds.fileAt stderrFileno ≠ some (.pipe .main .write)

/-- perror() is not called while descriptor 2 is that pipe or a connection. -/
def SparesPeers (s : State) (a : Action) : Prop :=
  a.callsPerror = true → ∀ f ∈ s.kernel.fds.fileAt stderrFileno, f.isPeer = false

instance (s : State) (a : Action) : Decidable (SparesStdin s a) := inferInstanceAs (Decidable (_ → _))

instance (s : State) (a : Action) : Decidable (SparesPeers s a) := inferInstanceAs (Decidable (_ → _))

theorem SparesPeers.stdin {a : Action} (spares : SparesPeers s a) : SparesStdin s a :=
  fun calls main => absurd (spares calls _ main) (by simp [File.isPeer])

theorem SparesPeers.client (s : State) (a : ClientAction) : SparesPeers s (.client a) := by
  simp [SparesPeers, Action.callsPerror]

/-! ## A descriptor 2 that was open at the start -/

theorem inherited_of_act {ok : State → Action → Prop} {a : Action} {n : Nat}
    (run : system.RunWhere ok actions s) (taken : act s a = some s')
    (here : s.kernel.fds.fileAt n = some (.inherited j)) :
    s'.kernel.fds.fileAt n = some (.inherited j) := by
  have desc := Descriptors.run run
  refine act_fileAt desc taken nofun (fun d closes same => ?_) here
  have refers : s.Refers d ∨ s.Closed d := by
    cases a with
    | accept b =>
        cases b <;> simp only [Action.closes, reduceCtorEq, Option.some.injEq] at closes <;>
          subst closes <;> simp only [Server.act, threadRoutineAccept, require_eq_some] at taken
        case popClose => exact .inl (desc.unpublished _ (by simp [taken.1]))
        case cleanupClose => exact desc.revocable _ (by simp [taken.1])
    | clientConnection b =>
        cases b <;> simp only [Action.closes, reduceCtorEq] at closes
        case cleanupClose =>
          subst closes
          simp only [Server.act, threadRoutineClientConnection, require_eq_some] at taken
          exact (desc.held d (.inr (by simp [taken.1]))).imp_right And.left
    | _ => simp [Action.closes] at closes
  simp [State.Refers, State.Closed, same, here] at refers

theorem sparesPeers_of_inherited {a : Action}
    (here : s.kernel.fds.fileAt stderrFileno = some (.inherited j)) : SparesPeers s a := by
  simp [SparesPeers, here, File.isPeer]

/-- A server that is started with an open descriptor 2 reports its errors to nobody else. -/
theorem sparesPeers_of_stderr {config : Config} (run : (systemFrom config).Run actions s)
    (stderr : config.inherited.fileAt stderrFileno = some j) :
    system.RunWhere SparesPeers actions s := by
  suffices kept : system.RunWhere SparesPeers actions s ∧
      s.kernel.fds.fileAt stderrFileno = some (.inherited j) from kept.1
  refine run.invariant (I := fun actions s => system.RunWhere SparesPeers actions s ∧
    s.kernel.fds.fileAt stderrFileno = some (.inherited j)) ?_ ?_
  · rintro _ rfl
    have here : (config.inherited.map File.inherited).fileAt stderrFileno =
        some (.inherited j) := by
      simp [stderr]
    refine ⟨.start ⟨config, rfl⟩, ?_⟩
    simp [State.start, DescriptorTable.ne_lowestFree here, stderr]
  · rintro actions s a s' - ⟨run, here⟩ - step
    exact ⟨.snoc run (sparesPeers_of_inherited here) step,
      inherited_of_act run (system_step.mp step).2 here⟩

end Usockit.Server
