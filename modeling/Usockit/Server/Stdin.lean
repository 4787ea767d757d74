import Usockit.Server.Descriptors

namespace Usockit.Server
open Foundation Kernel

variable {s s' : State} {actions : List Action}

/-- The connection thread has data for the child: it is about to call write_all or inside it. -/
def ClientConnectionPc.forwarding : ClientConnectionPc → Bool
  | .callWriteAll _ | .write _ => true
  | _ => false

attribute [simp] ClientConnectionPc.forwarding.eq_1 ClientConnectionPc.forwarding.eq_2
  ClientConnectionPc.forwarding.eq_3

@[simp] theorem ClientConnectionPc.forwarding_signalled (pc : ClientConnectionPc) :
    pc.signalled.forwarding = pc.forwarding := by
  cases pc <;> rfl

@[simp] theorem ClientConnectionPc.forwarding_afterCleanup (cancelled : Bool) :
    (ClientConnectionPc.afterCleanup cancelled).forwarding = false := by
  cases cancelled <;> rfl

theorem ClientConnectionPc.serving_of_forwarding {pc : ClientConnectionPc}
    (forwarding : pc.forwarding = true) : pc.serving = true := by
  cases pc <;> simp_all

/-- The descriptor that the thread would use in its next write(). -/
def State.stdinInUse (s : State) : Option Nat :=
  match s.clientConnection with
  | .callWriteAll _ => s.childStdinFdCell
  | .write w => some w.fd
  | _ => none

/-! ## The descriptor is the one that main stored -/

theorem childStdinFdCell_of_step {a : Action} {fd : Nat} (progress : Progress s)
    (taken : act s a = some s') (before : s.childStdinFdCell = some fd) :
    s'.childStdinFdCell = some fd := by
  cases a with
  | setupThreads a =>
      cases a <;> simp only [act, setupThreads, require_eq_some] at taken <;>
        obtain ⟨-, rfl⟩ := taken <;> exact before
  | setupChild a =>
      cases a <;> simp only [act, setupChild, require_eq_some] at taken <;>
        obtain ⟨guard, rfl⟩ := taken
      case storeChildStdinFd =>
        have unstored := progress.stdinUnstored (by simp [guard, MainPc.stdinUnstored])
        simp [unstored] at before
      all_goals exact before
  | parent a =>
      cases a <;> simp only [act, parent, require_eq_some] at taken <;>
        obtain ⟨-, rfl⟩ := taken <;> exact before
  | childWait | accept | clientConnection | child | client =>
      rw [(act_sameMain taken id).childStdinFdCell, before]

@[simp] theorem ClientConnectionPc.signalled_eq_write (pc : ClientConnectionPc) (w : WriteAll) :
    pc.signalled = .write w ↔ pc = .write w := by
  cases pc <;> simp [signalled]

theorem write_stdin {ok : State → Action → Prop} (run : system.RunWhere ok actions s) :
    ∀ w, s.clientConnection = .write w → s.childStdinFdCell = some w.fd := by
  refine run.stateInvariant
    (I := fun s => ∀ w, s.clientConnection = .write w → s.childStdinFdCell = some w.fd) ?_ ?_
  · rintro _ ⟨config, rfl⟩
    simp [State.start]
  · rintro _ s a s' run before - step w here
    have taken := (system_step.mp step).2
    by_cases own : ∃ b, a = .clientConnection b
    · obtain ⟨b, rfl⟩ := own
      cases b <;> simp only [act, threadRoutineClientConnection, require_eq_some] at taken <;>
        obtain ⟨guard, rfl⟩ := taken
      case wrote v f k =>
        simp only [ClientConnectionPc.afterWrite] at here
        split at here
        · next next =>
          obtain rfl : _ = w := by simpa using here
          rw [WriteAll.accepted_fd next]
          exact before v guard.1
        · cases here
      case cleanupClose fd flag => cases flag <;> simp [ClientConnectionPc.afterCleanup] at here
      case callWriteAll buffer fd =>
        obtain rfl : WriteAll.call fd buffer = w := by simpa using here
        exact guard.2
      all_goals simp_all
    · have was : s.clientConnection = .write w := by
        rcases act_sameClientConnection taken fun b equal => own ⟨b, equal⟩ with
          same | same | ⟨-, same⟩ <;> simp_all
      exact childStdinFdCell_of_step (.run run) taken (before w was)

/-! ## When it is closed -/

/-- usockit_server_setup_child closes the write end of the main pipe only while the connection
thread has no data for it, and after that this thread reads no more data. -/
def ClosesIdleStdin (s : State) : Action → Prop
  | .setupChild (.close .main .write _ _) => s.clientConnection.forwarding = false
  | .clientConnection (.received _ _ _) => s.main.hasOpen .main .write = true
  | _ => True

instance (s : State) (a : Action) : Decidable (ClosesIdleStdin s a) := by
  unfold ClosesIdleStdin
  split <;> infer_instance

theorem hasOpen_of_step {a : Action} (taken : act s a = some s')
    (isOpen : s.main.hasOpen .main .write = true)
    (other : ∀ rest ret, a ≠ .setupChild (.close .main .write rest ret)) :
    s'.main.hasOpen .main .write = true := by
  cases a with
  | setupThreads a =>
      cases a <;> simp only [act, setupThreads, require_eq_some] at taken <;>
        obtain ⟨guard, rfl⟩ := taken <;> simp_all [MainPc.hasOpen]
  | setupChild a =>
      cases a <;> simp only [act, setupChild, require_eq_some] at taken <;>
        obtain ⟨guard, rfl⟩ := taken
      case close p e rest ret =>
        have kept : (Pipe.main, PipeEnd.write) ∈ rest := by
          rw [guard] at isOpen
          rcases (by simpa [MainPc.hasOpen] using isOpen) with ⟨rfl, rfl⟩ | here
          · exact absurd rfl (other rest ret)
          · exact here
        cases rest with
        | nil => simp at kept
        | cons next rest => simpa [MainPc.hasOpen, MainPc.closeEnds] using kept
      case reportingPipe =>
        cases s.pipe2Support <;> simp_all [MainPc.hasOpen, MainPc.reportingPipeCreated]
      all_goals simp_all [MainPc.hasOpen, MainPc.closeEnds]
  | parent a =>
      cases a <;> simp only [act, parent, require_eq_some] at taken <;>
        obtain ⟨guard, rfl⟩ := taken
      case waitpid error | waitpidFailed error =>
        cases error <;> simp [MainPc.afterChildError, MainPc.hasOpen]
      all_goals simp_all [MainPc.hasOpen, MainPc.parentReturned, MainPc.closeEnds]
  | childWait | accept | clientConnection | child | client =>
      rw [(act_sameMain taken id).main]
      exact isOpen

theorem forwarding_hasOpen (run : system.RunWhere ClosesIdleStdin actions s) :
    s.clientConnection.forwarding = true → s.main.hasOpen .main .write = true := by
  refine run.stateInvariant (I := fun s => s.clientConnection.forwarding = true →
    s.main.hasOpen .main .write = true) ?_ ?_
  · rintro _ ⟨config, rfl⟩
    simp [State.start]
  · intro _ s a s' run before idle step forwarding
    have taken := (system_step.mp step).2
    by_cases was : s.clientConnection.forwarding = true
    · refine hasOpen_of_step taken (before was) ?_
      rintro rest ret rfl
      simp [ClosesIdleStdin, was] at idle
    · cases a with
      | clientConnection b =>
          rw [(act_sameMain taken id).main]
          cases b <;> simp only [act, threadRoutineClientConnection, require_eq_some] at taken <;>
            obtain ⟨guard, rfl⟩ := taken
          case received => exact idle
          all_goals simp_all
      | setupThreads | setupChild | parent | childWait | accept | child | client =>
          rcases act_sameClientConnection taken (by simp) with same | same | ⟨-, same⟩ <;>
            simp_all

theorem stdin_used_open (run : system.RunWhere ClosesIdleStdin actions s)
    (forwarding : s.clientConnection.forwarding = true) :
    ∃ fd, s.stdinInUse = some fd ∧ s.childStdinFdCell = some fd ∧
      s.kernel.fds.fileAt fd = some (.pipe .main .write) := by
  have stored := serving_stdin run (ClientConnectionPc.serving_of_forwarding forwarding)
  have isOpen := ((Descriptors.run run).pipes _ _ _).mpr ⟨forwarding_hasOpen run forwarding, rfl⟩
  refine ⟨_, ?_, stored, isOpen⟩
  unfold State.stdinInUse
  split
  · exact stored
  · next w here => rw [← write_stdin run w here, stored]
  · simp_all

def timelyData : List Action :=
  startUp ++ handOver ⟨4, 0⟩ ++
    [.clientConnection .relock, .clientConnection (.take ⟨4, 0⟩), .clientConnection .load,
     .client (.send 0 [104, 105]), .clientConnection (.received ⟨4, 0⟩ 0 2)]

theorem stdin_used_open_timelyData :
    ∃ s, system.exec (.start .shell) timelyData = some s ∧
      s.kernel.fds.fileAt 5 = some (.pipe .main .write) := by
  obtain ⟨s, path, forwarding, used⟩ :
      ∃ s, system.exec (.start .shell) timelyData = some s ∧
        s.clientConnection.forwarding = true ∧ s.stdinInUse = some 5 :=
    System.exists_exec (by decide +kernel)
  have run : system.RunWhere ClosesIdleStdin timelyData s :=
    System.runWhere_of_exec ⟨_, rfl⟩ path (by decide +kernel)
  obtain ⟨fd, same, -, isOpen⟩ := stdin_used_open run forwarding
  obtain rfl : 5 = fd := by simpa [used] using same
  exact ⟨s, path, isOpen⟩

/-- The child exits while a client's data is on its way: main closes the write end before it
cancels the connection thread. -/
def lateData : List Action :=
  startUp ++ handOver ⟨4, 0⟩ ++
    [.clientConnection .relock, .clientConnection (.take ⟨4, 0⟩), .clientConnection .load,
     .child .programExits, .childWait .waitpid, .parent .joinChildWait, .parent .cancelAccept,
     .accept .cancelAccept, .parent .joinAccept,
     .setupChild (.close .reporting .read [(.main, .write)] .success),
     .setupChild (.close .main .write [] .success),
     .client (.send 0 [104, 105]), .clientConnection (.received ⟨4, 0⟩ 0 2)]

theorem stdin_used_closed :
    ¬ ∀ actions s, system.Run actions s → s.clientConnection.forwarding = true →
      ∃ fd, s.stdinInUse = some fd ∧ s.kernel.fds.fileAt fd = some (.pipe .main .write) := by
  intro claim
  obtain ⟨s, path, forwarding, used, closed⟩ :
      ∃ s, system.exec (.start .shell) lateData = some s ∧
        s.clientConnection.forwarding = true ∧ s.stdinInUse = some 5 ∧
        s.kernel.fds.fileAt 5 = none :=
    System.exists_exec (by decide +kernel)
  obtain ⟨fd, same, isOpen⟩ := claim _ s (System.run_of_exec ⟨_, rfl⟩ path) forwarding
  obtain rfl : 5 = fd := by simpa [used] using same
  simp [closed] at isOpen

end Usockit.Server
