import Usockit.Server.Step

namespace Usockit.Server
open Foundation

variable {s s' : State}

def Action.OfMain : Action → Prop
  | .setupThreads _ | .setupChild _ | .parent _ => True
  | _ => False

instance : ∀ a : Action, Decidable a.OfMain
  | .setupThreads _ | .setupChild _ | .parent _ => inferInstanceAs (Decidable True)
  | .childWait _ | .accept _ | .clientConnection _ | .child _ | .client _ =>
      inferInstanceAs (Decidable False)

def Action.thread : Action → Option Thread
  | .setupThreads _ | .setupChild _ | .parent _ => some .main
  | .childWait _ => some .childWait
  | .accept _ => some .accept
  | .clientConnection _ => some .clientConnection
  | .child _ | .client _ => none

/-- What only main writes is the same in both states. -/
structure SameMain (s s' : State) : Prop where
  main : s'.main = s.main
  cancelRequested : s'.cancelRequested = s.cancelRequested
  condition : s'.childReady.condition = s.childReady.condition
  childPidCell : s'.childPidCell = s.childPidCell
  childStdinFdCell : s'.childStdinFdCell = s.childStdinFdCell
  socketFd : s'.socketFd = s.socketFd
  pipeFds : s'.pipeFds = s.pipeFds
  childPid : s'.childPid = s.childPid
  pipe2Support : s'.pipe2Support = s.pipe2Support

theorem SameMain.rfl : SameMain s s := by
  constructor <;> rfl

theorem waitForChildReady_condition {t : Thread} {requested : Bool} {info : ChildReadyInfo}
    {w : WaitPc} {a : WaitAction} {r : WaitOutcome × ChildReadyInfo}
    (taken : waitForChildReady t requested info w a = some r) :
    r.2.condition = info.condition := by
  cases a <;> simp only [waitForChildReady, require_eq_some] at taken <;>
    obtain ⟨guard, rfl⟩ := taken <;> rfl

theorem threadRoutineChildWait_sameMain {a : ChildWaitAction}
    (taken : threadRoutineChildWait s a = some s') : SameMain s s' := by
  cases a <;> simp only [threadRoutineChildWait, require_eq_some] at taken
  case waitForChildReady w a =>
    simp only [Option.ite_none_right_eq_some, Option.map_eq_some_iff] at taken
    obtain ⟨-, r, waited, rfl⟩ := taken
    exact { SameMain.rfl with condition := waitForChildReady_condition waited }
  all_goals
    obtain ⟨-, rfl⟩ := taken
    constructor <;> rfl

theorem threadRoutineAccept_sameMain {a : AcceptAction}
    (taken : threadRoutineAccept s a = some s') : SameMain s s' := by
  cases a <;> simp only [threadRoutineAccept, require_eq_some] at taken
  case waitForChildReady w a =>
    simp only [Option.ite_none_right_eq_some, Option.map_eq_some_iff] at taken
    obtain ⟨-, r, waited, rfl⟩ := taken
    exact { SameMain.rfl with condition := waitForChildReady_condition waited }
  all_goals
    obtain ⟨-, rfl⟩ := taken
    constructor <;> rfl

theorem threadRoutineClientConnection_sameMain {a : ClientConnectionAction}
    (taken : threadRoutineClientConnection s a = some s') : SameMain s s' := by
  cases a <;> simp only [threadRoutineClientConnection, require_eq_some] at taken
  all_goals
    obtain ⟨-, rfl⟩ := taken
    constructor <;> rfl

theorem act_sameMain {a : Action} (taken : act s a = some s') (other : ¬ a.OfMain) :
    SameMain s s' := by
  cases a with
  | setupThreads a => exact absurd trivial other
  | setupChild a => exact absurd trivial other
  | parent a => exact absurd trivial other
  | childWait a => exact threadRoutineChildWait_sameMain taken
  | accept a => exact threadRoutineAccept_sameMain taken
  | clientConnection a => exact threadRoutineClientConnection_sameMain taken
  | child a =>
      simp only [act, Option.map_eq_some_iff] at taken
      obtain ⟨k, -, rfl⟩ := taken
      constructor <;> rfl
  | client a =>
      simp only [act, Option.map_eq_some_iff] at taken
      obtain ⟨k, -, rfl⟩ := taken
      constructor <;> rfl

theorem act_constants {a : Action} (taken : act s a = some s') :
    s'.pipe2Support = s.pipe2Support ∧ s'.socketFd = s.socketFd := by
  cases a with
  | setupThreads a =>
      cases a <;> simp only [act, setupThreads, require_eq_some] at taken <;>
        obtain ⟨-, rfl⟩ := taken <;> exact ⟨rfl, rfl⟩
  | setupChild a =>
      cases a <;> simp only [act, setupChild, require_eq_some] at taken <;>
        obtain ⟨-, rfl⟩ := taken <;> exact ⟨rfl, rfl⟩
  | parent a =>
      cases a <;> simp only [act, parent, require_eq_some] at taken <;>
        obtain ⟨-, rfl⟩ := taken <;> exact ⟨rfl, rfl⟩
  | childWait | accept | clientConnection | child | client =>
      have same := act_sameMain taken id
      exact ⟨same.pipe2Support, same.socketFd⟩

def Action.OfHandoff : Action → Prop
  | .accept _ | .clientConnection _ => True
  | _ => False

/-- Of what the accept thread and the connection thread work on, the step at most created one of
the two or woke the accept thread. -/
structure SameHandoff (s s' : State) : Prop where
  clientReady : s'.clientReady = s.clientReady
  accept : s'.accept = s.accept ∨ s'.accept = s.accept.signalled ∨
    s.main = .create .accept ∧ s'.accept = .waitForChildReady .lock
  clientConnection : s'.clientConnection = s.clientConnection ∨
    s.main = .create .clientConnection ∧ s'.clientConnection = .lock

theorem act_sameHandoff {a : Action} (taken : act s a = some s') (other : ¬ a.OfHandoff) :
    SameHandoff s s' := by
  cases a with
  | accept a => exact absurd trivial other
  | clientConnection a => exact absurd trivial other
  | childWait a =>
      cases a <;> simp only [act, threadRoutineChildWait, require_eq_some,
        Option.ite_none_right_eq_some, Option.map_eq_some_iff] at taken
      case waitForChildReady w a =>
        obtain ⟨-, r, -, rfl⟩ := taken
        exact ⟨rfl, .inl rfl, .inl rfl⟩
      all_goals
        obtain ⟨-, rfl⟩ := taken
        exact ⟨rfl, .inl rfl, .inl rfl⟩
  | setupThreads a =>
      cases a <;> simp only [act, setupThreads, require_eq_some] at taken <;>
        obtain ⟨guard, rfl⟩ := taken
      case createClientConnection => exact ⟨rfl, .inl rfl, .inr ⟨guard, rfl⟩⟩
      case createAccept => exact ⟨rfl, .inr (.inr ⟨guard, rfl⟩), .inl rfl⟩
      all_goals exact ⟨rfl, .inl rfl, .inl rfl⟩
  | setupChild a =>
      cases a <;> simp only [act, setupChild, require_eq_some] at taken <;>
        obtain ⟨-, rfl⟩ := taken
      all_goals exact ⟨rfl, .inl rfl, .inl rfl⟩
  | parent a =>
      cases a <;> simp only [act, parent, require_eq_some] at taken <;>
        obtain ⟨-, rfl⟩ := taken
      case broadcast => exact ⟨rfl, .inr (.inl rfl), .inl rfl⟩
      all_goals exact ⟨rfl, .inl rfl, .inl rfl⟩
  | child a | client a =>
      simp only [act, Option.map_eq_some_iff] at taken
      obtain ⟨k, -, rfl⟩ := taken
      exact ⟨rfl, .inl rfl, .inl rfl⟩

theorem act_sameAccept {a : Action} (taken : act s a = some s') (other : ∀ b, a ≠ .accept b) :
    s'.accept = s.accept ∨ s'.accept = s.accept.signalled ∨
      s.main = .create .accept ∧ s'.accept = .waitForChildReady .lock := by
  cases a with
  | accept b => exact absurd rfl (other b)
  | clientConnection a =>
      cases a <;> simp only [act, threadRoutineClientConnection, require_eq_some] at taken <;>
        obtain ⟨-, rfl⟩ := taken <;> exact .inl rfl
  | setupThreads | setupChild | parent | childWait | child | client =>
      exact (act_sameHandoff taken id).accept

theorem act_sameClientConnection {a : Action} (taken : act s a = some s')
    (other : ∀ b, a ≠ .clientConnection b) :
    s'.clientConnection = s.clientConnection ∨
      s'.clientConnection = s.clientConnection.signalled ∨
      s.main = .create .clientConnection ∧ s'.clientConnection = .lock := by
  cases a with
  | clientConnection b => exact absurd rfl (other b)
  | accept a =>
      cases a <;> simp only [act, threadRoutineAccept, require_eq_some,
        Option.ite_none_right_eq_some, Option.map_eq_some_iff] at taken
      case waitForChildReady w a =>
        obtain ⟨-, r, -, rfl⟩ := taken
        exact .inl rfl
      case signal =>
        obtain ⟨-, rfl⟩ := taken
        exact .inr (.inl rfl)
      all_goals
        obtain ⟨-, rfl⟩ := taken
        exact .inl rfl
  | setupThreads | setupChild | parent | childWait | child | client =>
      exact (act_sameHandoff taken id).clientConnection.imp_right .inr

theorem act_sameChildWait {a : Action} (taken : act s a = some s')
    (other : ∀ b, a ≠ .childWait b) :
    s'.childWait = s.childWait ∨ s'.childWait = s.childWait.signalled ∨
      s.main = .create .childWait ∧ s'.childWait = .waitForChildReady .lock := by
  cases a with
  | childWait b => exact absurd rfl (other b)
  | setupThreads a =>
      cases a <;> simp only [act, setupThreads, require_eq_some] at taken <;>
        obtain ⟨guard, rfl⟩ := taken
      case createChildWait => exact .inr (.inr ⟨guard, rfl⟩)
      all_goals exact .inl rfl
  | setupChild a =>
      cases a <;> simp only [act, setupChild, require_eq_some] at taken <;>
        obtain ⟨-, rfl⟩ := taken <;> exact .inl rfl
  | parent a =>
      cases a <;> simp only [act, parent, require_eq_some] at taken <;>
        obtain ⟨-, rfl⟩ := taken
      case broadcast => exact .inr (.inl rfl)
      all_goals exact .inl rfl
  | accept a =>
      cases a <;> simp only [act, threadRoutineAccept, require_eq_some,
        Option.ite_none_right_eq_some, Option.map_eq_some_iff] at taken
      case waitForChildReady w a =>
        obtain ⟨-, r, -, rfl⟩ := taken
        exact .inl rfl
      all_goals
        obtain ⟨-, rfl⟩ := taken
        exact .inl rfl
  | clientConnection a =>
      cases a <;> simp only [act, threadRoutineClientConnection, require_eq_some] at taken <;>
        obtain ⟨-, rfl⟩ := taken <;> exact .inl rfl
  | child a | client a =>
      simp only [act, Option.map_eq_some_iff] at taken
      obtain ⟨k, -, rfl⟩ := taken
      exact .inl rfl

def Action.OfStreams : Action → Prop
  | .accept _ | .clientConnection _ | .child _ | .client _ => True
  | .parent (.perror _ _ _ _) | .parent (.perrorSigpipe _ _) => True
  | _ => False

/-- No connection and not the child's input changed, and nobody met SIGPIPE. -/
structure SameStreams (s s' : State) : Prop where
  connections : s'.kernel.connections = s.kernel.connections
  mainPipe : s'.kernel.mainPipe = s.kernel.mainPipe
  sigpipeIgnored : s'.kernel.sigpipeIgnored = s.kernel.sigpipeIgnored
  killed : s'.killed = s.killed

theorem act_sameStreams {a : Action} (taken : act s a = some s') (other : ¬ a.OfStreams) :
    SameStreams s s' := by
  cases a with
  | accept a => exact absurd trivial other
  | clientConnection a => exact absurd trivial other
  | child a => exact absurd trivial other
  | client a => exact absurd trivial other
  | setupThreads a =>
      cases a <;> simp only [act, setupThreads, require_eq_some] at taken <;>
        obtain ⟨-, rfl⟩ := taken <;> constructor <;> rfl
  | setupChild a =>
      cases a <;> simp only [act, setupChild, require_eq_some] at taken <;>
        obtain ⟨-, rfl⟩ := taken <;> constructor <;> rfl
  | parent a =>
      cases a <;> simp only [act, parent, require_eq_some] at taken
      case perror | perrorSigpipe => exact absurd trivial other
      all_goals
        obtain ⟨-, rfl⟩ := taken
        constructor <;> rfl
  | childWait a =>
      cases a <;> simp only [act, threadRoutineChildWait, require_eq_some,
        Option.ite_none_right_eq_some, Option.map_eq_some_iff] at taken
      case waitForChildReady w a =>
        obtain ⟨-, r, -, rfl⟩ := taken
        constructor <;> rfl
      all_goals
        obtain ⟨-, rfl⟩ := taken
        constructor <;> rfl

/-! ## The threads that take the steps -/

def State.Uncancelled (s : State) : Prop := ∀ t, s.cancelRequested t = false

instance (s : State) : Decidable s.Uncancelled :=
  decidable_of_iff (s.cancelRequested .main = false ∧ s.cancelRequested .childWait = false ∧
      s.cancelRequested .clientConnection = false ∧ s.cancelRequested .accept = false) <| by
    constructor
    · rintro ⟨main, childWait, clientConnection, accept⟩ t
      cases t <;> assumption
    · exact fun uncancelled =>
        ⟨uncancelled _, uncancelled _, uncancelled _, uncancelled _⟩

def State.NotCreated (s : State) : Thread → Prop
  | .main => False
  | .childWait => s.childWait = .notCreated
  | .clientConnection => s.clientConnection = .notCreated
  | .accept => s.accept = .notCreated

def State.Gone (s : State) (t : Thread) : Prop := s.NotCreated t ∨ s.Terminated t

/-- `t` was running before the step, and the step neither created nor ended another thread. -/
structure StepOf (t : Thread) (s s' : State) : Prop where
  created : ¬ s.NotCreated t
  running : ¬ s.Terminated t
  stays : ¬ s'.NotCreated t
  notCreated : ∀ u ≠ t, s'.NotCreated u ↔ s.NotCreated u
  terminated : ∀ u ≠ t, s'.Terminated u ↔ s.Terminated u

@[simp] theorem ClientConnectionPc.signalled_eq_notCreated (pc : ClientConnectionPc) :
    pc.signalled = .notCreated ↔ pc = .notCreated := by
  cases pc <;> simp [signalled]

@[simp] theorem ClientConnectionPc.signalled_eq_ended (pc : ClientConnectionPc) :
    pc.signalled = .ended ↔ pc = .ended := by
  cases pc <;> simp [signalled]

@[simp] theorem ChildWaitPc.signalled_eq_notCreated (pc : ChildWaitPc) :
    pc.signalled = .notCreated ↔ pc = .notCreated := by
  unfold signalled
  split <;> simp

@[simp] theorem ChildWaitPc.signalled_eq_ended (pc : ChildWaitPc) :
    pc.signalled = .ended ↔ pc = .ended := by
  unfold signalled
  split <;> simp

@[simp] theorem AcceptPc.signalled_eq_notCreated (pc : AcceptPc) :
    pc.signalled = .notCreated ↔ pc = .notCreated := by
  unfold signalled
  split <;> simp

@[simp] theorem AcceptPc.signalled_eq_ended (pc : AcceptPc) :
    pc.signalled = .ended ↔ pc = .ended := by
  unfold signalled
  split <;> simp

@[simp] theorem AcceptPc.afterWait_ne_notCreated (outcome : WaitOutcome) :
    AcceptPc.afterWait outcome ≠ .notCreated := by
  cases outcome <;> simp [afterWait]

@[simp] theorem ChildWaitPc.afterWait_ne_notCreated (outcome : WaitOutcome) :
    ChildWaitPc.afterWait outcome ≠ .notCreated := by
  cases outcome <;> simp [afterWait]

@[simp] theorem AcceptPc.afterWrite_ne_notCreated (fd : ClientFd) (w : WriteAll) (k : Nat) :
    AcceptPc.afterWrite fd w k ≠ .notCreated := by
  unfold afterWrite
  split <;> simp

@[simp] theorem ClientConnectionPc.afterWrite_ne_notCreated (w : WriteAll) (k : Nat) :
    ClientConnectionPc.afterWrite w k ≠ .notCreated := by
  unfold afterWrite
  split <;> simp

@[simp] theorem ClientConnectionPc.afterCleanup_ne_notCreated (cancelled : Bool) :
    ClientConnectionPc.afterCleanup cancelled ≠ .notCreated := by
  cases cancelled <;> simp [afterCleanup]

@[simp] theorem ClientConnectionPc.signalled_ne_asleep (pc : ClientConnectionPc) :
    pc.signalled ≠ .asleep := by
  cases pc <;> simp [signalled]

@[simp] theorem ClientConnectionPc.afterWrite_ne_asleep (w : WriteAll) (k : Nat) :
    ClientConnectionPc.afterWrite w k ≠ .asleep := by
  unfold afterWrite
  split <;> simp

@[simp] theorem ClientConnectionPc.afterCleanup_ne_asleep (cancelled : Bool) :
    ClientConnectionPc.afterCleanup cancelled ≠ .asleep := by
  cases cancelled <;> simp [afterCleanup]

theorem StepOf.childWait (created : s.childWait ≠ .notCreated) (running : s.childWait ≠ .ended)
    (stays : s'.childWait ≠ .notCreated) (accept : s'.accept = s.accept)
    (clientConnection : s'.clientConnection = s.clientConnection) :
    StepOf .childWait s s' := by
  refine ⟨created, running, stays, ?_, ?_⟩ <;> intro u other <;>
    cases u <;> simp_all [State.NotCreated, State.Terminated]

theorem StepOf.clientConnection (created : s.clientConnection ≠ .notCreated)
    (running : s.clientConnection ≠ .ended) (stays : s'.clientConnection ≠ .notCreated)
    (childWait : s'.childWait = s.childWait) (accept : s'.accept = s.accept) :
    StepOf .clientConnection s s' := by
  refine ⟨created, running, stays, ?_, ?_⟩ <;> intro u other <;>
    cases u <;> simp_all [State.NotCreated, State.Terminated]

theorem StepOf.accept (created : s.accept ≠ .notCreated) (running : s.accept ≠ .ended)
    (stays : s'.accept ≠ .notCreated) (childWait : s'.childWait = s.childWait)
    (clientConnection : s'.clientConnection = s.clientConnection ∨
      s'.clientConnection = s.clientConnection.signalled) :
    StepOf .accept s s' := by
  refine ⟨created, running, stays, ?_, ?_⟩ <;> intro u other <;>
    cases u <;> rcases clientConnection with same | same <;>
    simp_all [State.NotCreated, State.Terminated]

theorem threadRoutineChildWait_stepOf {a : ChildWaitAction}
    (taken : threadRoutineChildWait s a = some s') : StepOf .childWait s s' := by
  cases a <;> simp only [threadRoutineChildWait, require_eq_some] at taken
  case waitForChildReady w a =>
    simp only [Option.ite_none_right_eq_some, Option.map_eq_some_iff] at taken
    obtain ⟨here, r, waited, rfl⟩ := taken
    exact .childWait (by simp [here]) (by simp [here]) (by simp) rfl rfl
  all_goals
    obtain ⟨guard, rfl⟩ := taken
    exact .childWait (by simp [guard.1]) (by simp [guard.1]) (by simp) rfl rfl

theorem threadRoutineAccept_stepOf {a : AcceptAction}
    (taken : threadRoutineAccept s a = some s') : StepOf .accept s s' := by
  cases a <;> simp only [threadRoutineAccept, require_eq_some] at taken
  case waitForChildReady w a =>
    simp only [Option.ite_none_right_eq_some, Option.map_eq_some_iff] at taken
    obtain ⟨here, r, waited, rfl⟩ := taken
    exact .accept (by simp [here]) (by simp [here]) (by simp) rfl (.inl rfl)
  case signal fd =>
    obtain ⟨here, rfl⟩ := taken
    exact .accept (by simp [here]) (by simp [here]) (by simp) rfl (.inr rfl)
  case cancelPushed fd =>
    obtain ⟨⟨here, -⟩, rfl⟩ := taken
    rcases AcceptPc.cancellationPoint_eq_some.mp here with here | here | ⟨w, here⟩ <;>
      exact .accept (by simp [here]) (by simp [here]) (by simp) rfl (.inl rfl)
  all_goals
    obtain ⟨here, rfl⟩ := taken
    exact .accept (by simp [here]) (by simp [here]) (by simp [here]) rfl (.inl rfl)

theorem threadRoutineClientConnection_stepOf {a : ClientConnectionAction}
    (taken : threadRoutineClientConnection s a = some s') : StepOf .clientConnection s s' := by
  cases a <;> simp only [threadRoutineClientConnection, require_eq_some] at taken
  all_goals
    obtain ⟨here, rfl⟩ := taken
    exact .clientConnection (by simp [here]) (by simp [here]) (by simp [here]) rfl rfl

/-! ## The child -/

def Action.Reaps (a : Action) : Prop :=
  a = .childWait .waitpid ∨ ∃ error, a = .parent (.waitpid error)

theorem act_child {a : Action} (taken : act s a = some s') :
    s'.kernel.child = s.kernel.child ∨
    (∃ pid, a = .setupChild (.fork pid) ∧ s.main = .fork ∧ 0 < pid ∧ s'.childPid = pid ∧
      s'.kernel.child = ⟨.closeReportingRead, pid, s.kernel.fds⟩) ∨
    (a.Reaps ∧ s.kernel.child.pc = .zombie ∧
      s'.kernel.child = { s.kernel.child with pc := .reaped }) ∨
    ∃ b, a = .child b ∧ child s b = some s'.kernel := by
  cases a with
  | setupThreads a =>
      cases a <;> simp only [act, setupThreads, require_eq_some] at taken <;>
        obtain ⟨-, rfl⟩ := taken <;> exact .inl rfl
  | setupChild a =>
      cases a <;> simp only [act, setupChild, require_eq_some] at taken <;>
        obtain ⟨guard, rfl⟩ := taken
      case fork pid => exact .inr (.inl ⟨pid, rfl, guard.1, guard.2, rfl, rfl⟩)
      all_goals exact .inl rfl
  | parent a =>
      cases a <;> simp only [act, parent, require_eq_some] at taken <;>
        obtain ⟨guard, rfl⟩ := taken
      case waitpid error =>
        exact .inr (.inr (.inl ⟨.inr ⟨error, rfl⟩, guard.2.2, rfl⟩))
      case perror => exact .inl (by simp)
      all_goals exact .inl rfl
  | childWait a =>
      cases a <;> simp only [act, threadRoutineChildWait, require_eq_some,
        Option.ite_none_right_eq_some, Option.map_eq_some_iff] at taken
      case waitForChildReady w a =>
        obtain ⟨-, r, -, rfl⟩ := taken
        exact .inl rfl
      case waitpid =>
        obtain ⟨guard, rfl⟩ := taken
        exact .inr (.inr (.inl ⟨.inl rfl, guard.2.2, rfl⟩))
      all_goals
        obtain ⟨-, rfl⟩ := taken
        exact .inl rfl
  | accept a =>
      cases a <;> simp only [act, threadRoutineAccept, require_eq_some,
        Option.ite_none_right_eq_some, Option.map_eq_some_iff] at taken
      case waitForChildReady w a =>
        obtain ⟨-, r, -, rfl⟩ := taken
        exact .inl rfl
      all_goals
        obtain ⟨-, rfl⟩ := taken
        exact .inl (by simp)
  | clientConnection a =>
      cases a <;> simp only [act, threadRoutineClientConnection, require_eq_some] at taken <;>
        obtain ⟨-, rfl⟩ := taken <;> exact .inl (by simp)
  | child a =>
      simp only [act, Option.map_eq_some_iff] at taken
      obtain ⟨k, stepped, rfl⟩ := taken
      exact .inr (.inr (.inr ⟨a, rfl, stepped⟩))
  | client a =>
      cases a <;> simp only [act, client, Option.map_eq_some_iff, require_eq_some] at taken <;>
        obtain ⟨k, ⟨-, rfl⟩, rfl⟩ := taken <;> exact .inl rfl

theorem child_alive {b : ChildAction} {k : Kernel} (taken : child s b = some k) :
    s.kernel.child.pc ≠ .unborn ∧ s.kernel.child.pc ≠ .zombie ∧ s.kernel.child.pc ≠ .reaped := by
  cases b <;> simp only [child, require_eq_some] at taken <;> obtain ⟨guard, -⟩ := taken
  case killedBySignal => exact guard
  all_goals simp [guard]

theorem act_unborn {a : Action} (taken : act s a = some s')
    (noFork : ∀ pid, a ≠ .setupChild (.fork pid)) (unborn : s.kernel.child.pc = .unborn) :
    s'.kernel.child.pc = .unborn := by
  rcases act_child taken with same | ⟨pid, fork, -⟩ | ⟨-, zombie, -⟩ | ⟨b, -, stepped⟩
  · rw [same, unborn]
  · exact absurd fork (noFork pid)
  · simp [unborn] at zombie
  · exact absurd unborn (child_alive stepped).1

theorem act_reportingPipe {a : Action} (taken : act s a = some s') (other : ∀ b, a ≠ .parent b) :
    s.kernel.reportingPipe <+: s'.kernel.reportingPipe := by
  have delivered : ∀ f bytes,
      s.kernel.reportingPipe <+: (s.kernel.deliver f bytes).reportingPipe := by
    intro f bytes
    unfold Kernel.deliver
    split <;> simp
  have reported : ∀ bytes,
      s.kernel.reportingPipe <+: (s.kernel.writeStderr bytes).reportingPipe := by
    intro bytes
    obtain same | ⟨f, -, -, same⟩ := s.kernel.writeStderr_cases bytes
    · simp [same]
    · exact same ▸ delivered f bytes
  cases a with
  | parent b => exact absurd rfl (other b)
  | setupThreads a =>
      cases a <;> simp only [act, setupThreads, require_eq_some] at taken <;>
        obtain ⟨-, rfl⟩ := taken <;> exact List.prefix_rfl
  | setupChild a =>
      cases a <;> simp only [act, setupChild, require_eq_some] at taken <;>
        obtain ⟨-, rfl⟩ := taken <;> exact List.prefix_rfl
  | childWait a =>
      cases a <;> simp only [act, threadRoutineChildWait, require_eq_some,
        Option.ite_none_right_eq_some, Option.map_eq_some_iff] at taken
      case waitForChildReady w a =>
        obtain ⟨-, r, -, rfl⟩ := taken
        exact List.prefix_rfl
      all_goals
        obtain ⟨-, rfl⟩ := taken
        exact List.prefix_rfl
  | accept a =>
      cases a <;> simp only [act, threadRoutineAccept, require_eq_some,
        Option.ite_none_right_eq_some, Option.map_eq_some_iff] at taken
      case waitForChildReady w a =>
        obtain ⟨-, r, -, rfl⟩ := taken
        exact List.prefix_rfl
      case wrote fd w f k =>
        obtain ⟨-, rfl⟩ := taken
        exact delivered _ _
      case perror =>
        obtain ⟨-, rfl⟩ := taken
        exact reported _
      all_goals
        obtain ⟨-, rfl⟩ := taken
        exact List.prefix_rfl
  | clientConnection a =>
      cases a <;> simp only [act, threadRoutineClientConnection, require_eq_some] at taken <;>
        obtain ⟨-, rfl⟩ := taken
      case wrote w f k => exact delivered _ _
      case cleanupClose fd flag => cases fd <;> exact List.prefix_rfl
      all_goals exact List.prefix_rfl
  | child a =>
      cases a <;> simp only [act, child, Option.map_eq_some_iff, require_eq_some] at taken <;>
        obtain ⟨k, ⟨-, rfl⟩, rfl⟩ := taken
      case wrote error k => exact delivered _ _
      case programWrites n f bytes => exact delivered _ _
      all_goals exact List.prefix_rfl
  | client a =>
      cases a <;> simp only [act, client, Option.map_eq_some_iff, require_eq_some] at taken <;>
        obtain ⟨k, ⟨-, rfl⟩, rfl⟩ := taken <;> exact List.prefix_rfl

end Usockit.Server
