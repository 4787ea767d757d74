import Usockit.Server.Lifecycle

namespace Usockit.Server
open Foundation

variable {s s' : State} {t : Thread}

/-! ## The mutex of client_ready_info -/

def AcceptPc.holdsClientReady : AcceptPc → Bool
  | .store _ | .unlock _ => true
  | _ => false

def ClientConnectionPc.holdsClientReady : ClientConnectionPc → Bool
  | .test | .wait | .load | .read _ | .callWriteAll _ | .write _ => true
  | .cleanupLoad _ | .cleanupStore _ _ | .cleanupUnlock _ _ => true
  | _ => false

attribute [simp] AcceptPc.holdsClientReady.eq_1 AcceptPc.holdsClientReady.eq_2
  AcceptPc.holdsClientReady.eq_3

attribute [simp] ClientConnectionPc.holdsClientReady.eq_1 ClientConnectionPc.holdsClientReady.eq_2
  ClientConnectionPc.holdsClientReady.eq_3 ClientConnectionPc.holdsClientReady.eq_4
  ClientConnectionPc.holdsClientReady.eq_5 ClientConnectionPc.holdsClientReady.eq_6
  ClientConnectionPc.holdsClientReady.eq_7 ClientConnectionPc.holdsClientReady.eq_8
  ClientConnectionPc.holdsClientReady.eq_9 ClientConnectionPc.holdsClientReady.eq_10

@[simp] theorem AcceptPc.holdsClientReady_afterWait (outcome : WaitOutcome) :
    (AcceptPc.afterWait outcome).holdsClientReady = false := by
  cases outcome <;> rfl

@[simp] theorem AcceptPc.holdsClientReady_signalled (pc : AcceptPc) :
    pc.signalled.holdsClientReady = pc.holdsClientReady := by
  unfold signalled
  split <;> rfl

@[simp] theorem AcceptPc.holdsClientReady_afterWrite (fd : ClientFd) (w : WriteAll) (k : Nat) :
    (AcceptPc.afterWrite fd w k).holdsClientReady = false := by
  unfold afterWrite
  split <;> rfl

@[simp] theorem ClientConnectionPc.holdsClientReady_afterWrite (w : WriteAll) (k : Nat) :
    (ClientConnectionPc.afterWrite w k).holdsClientReady = true := by
  unfold afterWrite
  split <;> rfl

@[simp] theorem ClientConnectionPc.holdsClientReady_afterCleanup (cancelled : Bool) :
    (ClientConnectionPc.afterCleanup cancelled).holdsClientReady = false := by
  cases cancelled <;> rfl

@[simp] theorem ClientConnectionPc.holdsClientReady_signalled (pc : ClientConnectionPc) :
    pc.signalled.holdsClientReady = pc.holdsClientReady := by
  cases pc <;> rfl

/-- Only a thread that was cancelled in pthread_cond_wait ends while it owns the mutex. -/
structure ClientReadyOwned (s : State) : Prop where
  accept : s.clientReady.mutex = some .accept ↔ s.accept.holdsClientReady = true
  held : s.clientConnection.holdsClientReady = true →
    s.clientReady.mutex = some .clientConnection
  owner : s.clientReady.mutex = some .clientConnection →
    s.clientConnection.holdsClientReady = true ∨ s.clientConnection = .ended
  main : s.clientReady.mutex ≠ some .main
  childWait : s.clientReady.mutex ≠ some .childWait

theorem ClientReadyOwned.keep (owned : ClientReadyOwned s)
    (mutex : s'.clientReady.mutex = s.clientReady.mutex)
    (accept : s'.accept.holdsClientReady = s.accept.holdsClientReady)
    (holds : s'.clientConnection.holdsClientReady = s.clientConnection.holdsClientReady)
    (ended : s.clientConnection = .ended → s'.clientConnection = .ended) :
    ClientReadyOwned s' := by
  constructor <;> rw [mutex]
  · rw [accept]
    exact owned.accept
  · rw [holds]
    exact owned.held
  · rw [holds]
    exact fun owner => (owned.owner owner).imp_right ended
  · exact owned.main
  · exact owned.childWait

theorem ClientReadyOwned.frame (owned : ClientReadyOwned s)
    (mutex : s'.clientReady.mutex = s.clientReady.mutex)
    (accept : s'.accept.holdsClientReady = s.accept.holdsClientReady)
    (clientConnection : s'.clientConnection = s.clientConnection) : ClientReadyOwned s' :=
  owned.keep mutex accept (by rw [clientConnection]) (by rw [clientConnection]; exact id)

theorem ClientReadyOwned.threadRoutineClientConnection {a : ClientConnectionAction}
    (owned : ClientReadyOwned s) (taken : threadRoutineClientConnection s a = some s') :
    ClientReadyOwned s' := by
  cases a <;> simp only [Server.threadRoutineClientConnection, require_eq_some] at taken <;>
    obtain ⟨guard, rfl⟩ := taken
  case lock | relock | relockCancelled | wait | cleanupUnlock =>
    obtain ⟨h₁, h₂, h₃, h₄, h₅⟩ := owned
    constructor <;> simp_all
  all_goals
    exact owned.keep rfl rfl (by simp [guard]) (by simp [guard])

theorem ClientReadyOwned.threadRoutineAccept {a : AcceptAction}
    (owned : ClientReadyOwned s) (taken : threadRoutineAccept s a = some s') :
    ClientReadyOwned s' := by
  cases a <;> simp only [Server.threadRoutineAccept, require_eq_some,
    Option.ite_none_right_eq_some, Option.map_eq_some_iff] at taken
  case waitForChildReady w a =>
    obtain ⟨here, r, -, rfl⟩ := taken
    exact owned.frame rfl (by simp [here]) rfl
  case trylockAcquired | unlock =>
    obtain ⟨guard, rfl⟩ := taken
    obtain ⟨h₁, h₂, h₃, h₄, h₅⟩ := owned
    constructor <;> simp_all
  case cancelPushed fd =>
    obtain ⟨⟨here, -⟩, rfl⟩ := taken
    rcases AcceptPc.cancellationPoint_eq_some.mp here with here | here | ⟨w, here⟩ <;>
      exact owned.frame rfl (by simp [here]) rfl
  case signal fd =>
    obtain ⟨guard, rfl⟩ := taken
    exact owned.keep rfl (by simp [guard]) (by simp) (by simp)
  all_goals
    obtain ⟨guard, rfl⟩ := taken
    exact owned.frame rfl (by simp [guard]) rfl

theorem ClientReadyOwned.start (config : Config) : ClientReadyOwned (.start config) := by
  constructor <;> simp [State.start]

theorem ClientReadyOwned.setupThreads {a : SetupThreadsAction} (owned : ClientReadyOwned s)
    (life : Lifecycle s) (taken : setupThreads s a = some s') : ClientReadyOwned s' := by
  cases a <;> simp only [Server.setupThreads, require_eq_some] at taken <;>
    obtain ⟨guard, rfl⟩ := taken
  case createClientConnection =>
    have fresh : s.clientConnection = .notCreated :=
      life.notCreated .clientConnection (by simp [guard, MainPc.toCreate])
    obtain ⟨h₁, h₂, h₃, h₄, h₅⟩ := owned
    constructor <;> simp_all
  case createAccept =>
    have fresh : s.accept = .notCreated :=
      life.notCreated .accept (by simp [guard, MainPc.toCreate])
    exact owned.frame rfl (by simp [fresh]) rfl
  all_goals
    exact owned.frame rfl rfl rfl

theorem ClientReadyOwned.act {a : Action} (owned : ClientReadyOwned s) (life : Lifecycle s)
    (taken : act s a = some s') : ClientReadyOwned s' := by
  cases a with
  | setupThreads a => exact owned.setupThreads life taken
  | accept a => exact owned.threadRoutineAccept taken
  | clientConnection a => exact owned.threadRoutineClientConnection taken
  | childWait a =>
      cases a <;> simp only [Server.act, threadRoutineChildWait, require_eq_some,
        Option.ite_none_right_eq_some, Option.map_eq_some_iff] at taken
      case waitForChildReady w a =>
        obtain ⟨-, r, -, rfl⟩ := taken
        exact owned.frame rfl rfl rfl
      all_goals
        obtain ⟨-, rfl⟩ := taken
        exact owned.frame rfl rfl rfl
  | setupChild a =>
      cases a <;> simp only [Server.act, setupChild, require_eq_some] at taken
      all_goals
        obtain ⟨-, rfl⟩ := taken
        exact owned.frame rfl rfl rfl
  | parent a =>
      cases a <;> simp only [Server.act, parent, require_eq_some] at taken
      case broadcast =>
        obtain ⟨-, rfl⟩ := taken
        exact owned.frame rfl (AcceptPc.holdsClientReady_signalled _) rfl
      all_goals
        obtain ⟨-, rfl⟩ := taken
        exact owned.frame rfl rfl rfl
  | child a | client a =>
      simp only [Server.act, Option.map_eq_some_iff] at taken
      obtain ⟨k, -, rfl⟩ := taken
      exact owned.frame rfl rfl rfl

theorem ClientReadyOwned.run {ok : State → Action → Prop} {actions : List Action}
    (run : system.RunWhere ok actions s) : ClientReadyOwned s := by
  refine run.stateInvariant ?_ ?_
  · rintro _ ⟨config, rfl⟩
    exact .start config
  · intro _ s a s' before owned _ step
    exact owned.act (.run before) (system_step.mp step).2

/-! ## The mutex of child_ready_info -/

def WaitPc.holds : WaitPc → Bool
  | .test | .wait | .unlock => true
  | _ => false

def WaitOutcome.holds : WaitOutcome → Bool
  | .inside w => w.holds
  | _ => false

def ChildWaitPc.holdsChildReady : ChildWaitPc → Bool
  | .waitForChildReady w => w.holds
  | _ => false

def AcceptPc.holdsChildReady : AcceptPc → Bool
  | .waitForChildReady w => w.holds
  | _ => false

def MainPc.holdsChildReady : MainPc → Bool
  | .setCondition | .unlock => true
  | _ => false

attribute [simp] WaitPc.holds.eq_1 WaitPc.holds.eq_2 WaitPc.holds.eq_3 WaitPc.holds.eq_4

attribute [simp] WaitOutcome.holds.eq_1 WaitOutcome.holds.eq_2

attribute [simp] ChildWaitPc.holdsChildReady.eq_1 ChildWaitPc.holdsChildReady.eq_2

attribute [simp] AcceptPc.holdsChildReady.eq_1 AcceptPc.holdsChildReady.eq_2

@[simp] theorem ChildWaitPc.holdsChildReady_afterWait (outcome : WaitOutcome) :
    (ChildWaitPc.afterWait outcome).holdsChildReady = outcome.holds := by
  cases outcome <;> rfl

@[simp] theorem AcceptPc.holdsChildReady_afterWait (outcome : WaitOutcome) :
    (AcceptPc.afterWait outcome).holdsChildReady = outcome.holds := by
  cases outcome <;> rfl

@[simp] theorem ChildWaitPc.afterWait_eq_ended (outcome : WaitOutcome) :
    ChildWaitPc.afterWait outcome = .ended ↔ outcome = .ended := by
  cases outcome <;> simp [afterWait]

@[simp] theorem AcceptPc.afterWait_eq_ended (outcome : WaitOutcome) :
    AcceptPc.afterWait outcome = .ended ↔ outcome = .ended := by
  cases outcome <;> simp [afterWait]

@[simp] theorem ChildWaitPc.holdsChildReady_signalled (pc : ChildWaitPc) :
    pc.signalled.holdsChildReady = pc.holdsChildReady := by
  unfold signalled
  split <;> rfl

@[simp] theorem AcceptPc.holdsChildReady_signalled (pc : AcceptPc) :
    pc.signalled.holdsChildReady = pc.holdsChildReady := by
  unfold signalled
  split <;> rfl

@[simp] theorem AcceptPc.holdsChildReady_afterWrite (fd : ClientFd) (w : WriteAll) (k : Nat) :
    (AcceptPc.afterWrite fd w k).holdsChildReady = false := by
  unfold afterWrite
  split <;> rfl

/-- `t` owns the mutex while it is inside, and after that only when it ended by a cancellation. -/
structure Owns (mutex : Option Thread) (t : Thread) (holds : Bool) (ended : Prop) : Prop where
  held : holds = true → mutex = some t
  owner : mutex = some t → holds = true ∨ ended

structure ChildReadyOwned (s : State) : Prop where
  main : Owns s.childReady.mutex .main s.main.holdsChildReady False
  childWait : Owns s.childReady.mutex .childWait s.childWait.holdsChildReady
    (s.childWait = .ended ∧ s.cancelRequested .childWait = true)
  accept : Owns s.childReady.mutex .accept s.accept.holdsChildReady (s.accept = .ended)
  clientConnection : s.childReady.mutex ≠ some .clientConnection

theorem Owns.mono {mutex : Option Thread} {t : Thread} {holds : Bool} {ended ended' : Prop}
    (owns : Owns mutex t holds ended) (later : ended → ended') : Owns mutex t holds ended' :=
  ⟨owns.held, fun owner => (owns.owner owner).imp_right later⟩

section
variable {t u : Thread} {requested : Bool} {info : ChildReadyInfo} {w : WaitPc} {a : WaitAction}
  {r : WaitOutcome × ChildReadyInfo} {holds : Bool} {ended : Prop}

theorem Owns.waitForChildReady (owns : Owns info.mutex t w.holds ended)
    (taken : waitForChildReady t requested info w a = some r) :
    Owns r.2.mutex t r.1.holds (ended ∨ r.1 = .ended) := by
  obtain ⟨held, owner⟩ := owns
  cases a <;> simp only [Server.waitForChildReady, require_eq_some] at taken <;>
    obtain ⟨guard, rfl⟩ := taken <;> constructor <;> simp_all

theorem waitForChildReady_mutex (held : w.holds = true → info.mutex = some t)
    (taken : waitForChildReady t requested info w a = some r) (other : t ≠ u) :
    r.2.mutex = some u ↔ info.mutex = some u := by
  cases a <;> simp only [waitForChildReady, require_eq_some] at taken <;>
    obtain ⟨guard, rfl⟩ := taken <;> simp_all

theorem Owns.other (owns : Owns info.mutex u holds ended)
    (held : w.holds = true → info.mutex = some t)
    (taken : Server.waitForChildReady t requested info w a = some r) (other : t ≠ u) :
    Owns r.2.mutex u holds ended := by
  have same := waitForChildReady_mutex held taken other
  exact ⟨fun holds => same.mpr (owns.held holds), fun owner => owns.owner (same.mp owner)⟩

end

theorem ChildReadyOwned.start (config : Config) : ChildReadyOwned (.start config) := by
  constructor
  case clientConnection => simp [State.start]
  all_goals constructor <;> simp [State.start, MainPc.holdsChildReady]

theorem ChildReadyOwned.frame (owned : ChildReadyOwned s)
    (mutex : s'.childReady.mutex = s.childReady.mutex)
    (main : s'.main.holdsChildReady = s.main.holdsChildReady)
    (childWait : s'.childWait.holdsChildReady = s.childWait.holdsChildReady)
    (childWaitEnded : s.childWait = .ended ∧ s.cancelRequested .childWait = true →
      s'.childWait = .ended ∧ s'.cancelRequested .childWait = true)
    (accept : s'.accept.holdsChildReady = s.accept.holdsChildReady)
    (acceptEnded : s.accept = .ended → s'.accept = .ended) : ChildReadyOwned s' := by
  constructor
  · rw [mutex, main]
    exact owned.main
  · rw [mutex, childWait]
    exact owned.childWait.mono childWaitEnded
  · rw [mutex, accept]
    exact owned.accept.mono acceptEnded
  · rw [mutex]
    exact owned.clientConnection

section
attribute [local simp] MainPc.holdsChildReady

theorem ChildReadyOwned.setupThreads {a : SetupThreadsAction} (owned : ChildReadyOwned s)
    (life : Lifecycle s) (taken : setupThreads s a = some s') : ChildReadyOwned s' := by
  cases a <;> simp only [Server.setupThreads, require_eq_some] at taken <;>
    obtain ⟨guard, rfl⟩ := taken
  case createChildWait =>
    have fresh : s.childWait = .notCreated :=
      life.notCreated .childWait (by simp [guard, MainPc.toCreate])
    apply owned.frame <;> simp_all
  case createAccept =>
    have fresh : s.accept = .notCreated :=
      life.notCreated .accept (by simp [guard, MainPc.toCreate])
    apply owned.frame <;> simp_all
  case join t rest ret =>
    apply owned.frame <;> cases rest <;> simp_all [MainPc.endThreads]
  all_goals
    apply owned.frame <;> simp_all [MainPc.endThreads, requestCancel_mono]

theorem ChildReadyOwned.setupChild {a : SetupChildAction} (owned : ChildReadyOwned s)
    (taken : setupChild s a = some s') : ChildReadyOwned s' := by
  cases a <;> simp only [Server.setupChild, require_eq_some] at taken <;>
    obtain ⟨guard, rfl⟩ := taken
  case close p e rest ret =>
    apply owned.frame <;> cases rest <;>
      simp_all [MainPc.closeEnds, MainPc.setupChildReturned, MainPc.endThreads]
  case reportingPipe =>
    apply owned.frame <;> cases s.pipe2Support <;> simp_all [MainPc.reportingPipeCreated]
  all_goals
    apply owned.frame <;>
      simp_all [MainPc.closeEnds, MainPc.setupChildReturned, MainPc.endThreads]

theorem ChildReadyOwned.parent {a : ParentAction} (owned : ChildReadyOwned s)
    (taken : parent s a = some s') : ChildReadyOwned s' := by
  cases a <;> simp only [Server.parent, require_eq_some] at taken <;>
    obtain ⟨guard, rfl⟩ := taken
  case lock | unlock =>
    obtain ⟨⟨h₁, h₂⟩, ⟨h₃, h₄⟩, ⟨h₅, h₆⟩, h₇⟩ := owned
    refine ⟨⟨?_, ?_⟩, ⟨?_, ?_⟩, ⟨?_, ?_⟩, ?_⟩ <;> simp_all
  case waitpid error | waitpidFailed error =>
    apply owned.frame <;> cases error <;>
      simp_all [MainPc.afterChildError]
  case readEof | readError | readShort =>
    replace guard := guard.1.1
    apply owned.frame <;> simp_all
  all_goals
    apply owned.frame <;>
      simp_all [MainPc.parentReturned, MainPc.closeEnds, requestCancel_mono]

end

theorem ChildReadyOwned.threadRoutineChildWait {a : ChildWaitAction} (owned : ChildReadyOwned s)
    (cancelled : CancelRequested s) (taken : threadRoutineChildWait s a = some s') :
    ChildReadyOwned s' := by
  cases a <;> simp only [Server.threadRoutineChildWait, require_eq_some] at taken
  case waitForChildReady w a =>
    simp only [Option.ite_none_right_eq_some, Option.map_eq_some_iff] at taken
    obtain ⟨here, r, waited, rfl⟩ := taken
    have self := owned.childWait
    simp only [here, ChildWaitPc.holdsChildReady, reduceCtorEq, false_and] at self
    refine ⟨owned.main.other self.held waited (by simp), ?_,
      owned.accept.other self.held waited (by simp), ?_⟩
    · rw [ChildWaitPc.holdsChildReady_afterWait]
      refine (self.waitForChildReady waited).mono ?_
      rintro (impossible | ended)
      · exact impossible.elim
      · refine ⟨by simp [ended], ?_⟩
        rcases waitForChildReady_cancelled waited (.inr ended) with before | requested
        · exact cancelled.childWait (by simp [here, before])
        · exact requested
    · rw [ne_eq, waitForChildReady_mutex self.held waited (by simp)]
      exact owned.clientConnection
  all_goals
    obtain ⟨guard, rfl⟩ := taken
    apply owned.frame <;> simp_all

theorem ChildReadyOwned.threadRoutineAccept {a : AcceptAction} (owned : ChildReadyOwned s)
    (taken : threadRoutineAccept s a = some s') : ChildReadyOwned s' := by
  cases a <;> simp only [Server.threadRoutineAccept, require_eq_some] at taken
  case waitForChildReady w a =>
    simp only [Option.ite_none_right_eq_some, Option.map_eq_some_iff] at taken
    obtain ⟨here, r, waited, rfl⟩ := taken
    have self := owned.accept
    simp only [here, AcceptPc.holdsChildReady, reduceCtorEq] at self
    refine ⟨owned.main.other self.held waited (by simp),
      owned.childWait.other self.held waited (by simp), ?_, ?_⟩
    · rw [AcceptPc.holdsChildReady_afterWait]
      exact (self.waitForChildReady waited).mono (by simp)
    · rw [ne_eq, waitForChildReady_mutex self.held waited (by simp)]
      exact owned.clientConnection
  case cancelPushed fd =>
    obtain ⟨⟨here, -⟩, rfl⟩ := taken
    rcases AcceptPc.cancellationPoint_eq_some.mp here with here | here | ⟨w, here⟩ <;>
      apply owned.frame <;> simp_all
  all_goals
    obtain ⟨guard, rfl⟩ := taken
    apply owned.frame <;> simp_all

theorem ChildReadyOwned.act {a : Action} (owned : ChildReadyOwned s) (life : Lifecycle s)
    (cancelled : CancelRequested s) (taken : act s a = some s') : ChildReadyOwned s' := by
  cases a with
  | setupThreads a => exact owned.setupThreads life taken
  | setupChild a => exact owned.setupChild taken
  | parent a => exact owned.parent taken
  | childWait a => exact owned.threadRoutineChildWait cancelled taken
  | accept a => exact owned.threadRoutineAccept taken
  | clientConnection a =>
      cases a <;> simp only [Server.act, threadRoutineClientConnection, require_eq_some] at taken
      all_goals
        obtain ⟨-, rfl⟩ := taken
        exact owned.frame rfl rfl rfl id rfl id
  | child a | client a =>
      simp only [Server.act, Option.map_eq_some_iff] at taken
      obtain ⟨k, -, rfl⟩ := taken
      exact owned.frame rfl rfl rfl id rfl id

theorem ChildReadyOwned.run {ok : State → Action → Prop} {actions : List Action}
    (run : system.RunWhere ok actions s) : ChildReadyOwned s := by
  refine run.stateInvariant ?_ ?_
  · rintro _ ⟨config, rfl⟩
    exact .start config
  · intro _ s a s' before owned _ step
    exact owned.act (.run before) (.run before) (system_step.mp step).2

end Usockit.Server
