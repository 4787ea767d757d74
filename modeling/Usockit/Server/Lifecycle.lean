import Usockit.Server.Progress

namespace Usockit.Server
open Foundation

variable {s s' : State}

def MainPc.toCreate : MainPc → List Thread
  | .create .childWait => [.childWait, .clientConnection, .accept]
  | .create .clientConnection => [.clientConnection, .accept]
  | .create .accept => [.accept]
  | _ => []

/-- The threads that main has created and usockit_server_setup_threads has still to join. -/
def MainPc.created : MainPc → List Thread
  | .create .childWait | .release _ _ | .returned _ => []
  | .create .clientConnection => [.childWait]
  | .create _ => [.childWait, .clientConnection]
  | .cancel t rest _ | .join t rest _ => t :: rest
  | _ => [.accept, .clientConnection, .childWait]

/-- The threads that usockit_server_parent has joined when it returned `ret`. -/
def joinedByParent (ret : RetStatus) : List Thread :=
  if ret = .success then [.childWait, .accept] else []

def MainPc.joined : MainPc → List Thread
  | .cancelAccept | .joinAccept => [.childWait]
  | .close _ ret | .cancel _ _ ret | .join _ _ ret => joinedByParent ret
  | _ => []

def WaitPc.sawReady : WaitPc → Bool
  | .unlock => true
  | _ => false

def WaitOutcome.sawReady : WaitOutcome → Bool
  | .inside w => w.sawReady
  | .returned => true
  | .ended => false

def ChildWaitPc.sawReady : ChildWaitPc → Bool
  | .waitForChildReady w => w.sawReady
  | .waitpid => true
  | _ => false

def AcceptPc.sawReady : AcceptPc → Bool
  | .waitForChildReady w => w.sawReady
  | .notCreated | .ended => false
  | _ => true

attribute [simp] WaitPc.sawReady.eq_1 WaitPc.sawReady.eq_2

attribute [simp] WaitOutcome.sawReady.eq_1 WaitOutcome.sawReady.eq_2 WaitOutcome.sawReady.eq_3

attribute [simp] ChildWaitPc.sawReady.eq_1 ChildWaitPc.sawReady.eq_2 ChildWaitPc.sawReady.eq_3

attribute [simp] AcceptPc.sawReady.eq_1 AcceptPc.sawReady.eq_2 AcceptPc.sawReady.eq_3
  AcceptPc.sawReady.eq_4

@[simp] theorem ChildWaitPc.sawReady_afterWait (outcome : WaitOutcome) :
    (ChildWaitPc.afterWait outcome).sawReady = outcome.sawReady := by
  cases outcome <;> rfl

@[simp] theorem AcceptPc.sawReady_afterWait (outcome : WaitOutcome) :
    (AcceptPc.afterWait outcome).sawReady = outcome.sawReady := by
  cases outcome <;> rfl

@[simp] theorem ChildWaitPc.sawReady_signalled (pc : ChildWaitPc) :
    pc.signalled.sawReady = pc.sawReady := by
  unfold signalled
  split <;> rfl

@[simp] theorem AcceptPc.sawReady_signalled (pc : AcceptPc) :
    pc.signalled.sawReady = pc.sawReady := by
  unfold signalled
  split <;> rfl

structure Lifecycle (s : State) : Prop where
  gone : ∀ t ≠ .main, t ∉ s.main.created ∨ t ∈ s.main.joined → s.Gone t
  notCreated : ∀ t ∈ s.main.toCreate, s.NotCreated t
  created : ∀ t ∈ s.main.created, ¬ s.NotCreated t
  childWait : s.childWait.sawReady = true → s.main.ready = true
  accept : s.accept.sawReady = true → s.main.ready = true
  slot : s.clientReady.clientFd ≠ none → s.main.ready = true

theorem Lifecycle.of_not_gone {t : Thread} (life : Lifecycle s) (other : t ≠ .main)
    (alive : ¬ s.Gone t) : t ∈ s.main.created ∧ t ∉ s.main.joined := by
  by_contra absent
  apply alive (life.gone t other _)
  by_cases created : t ∈ s.main.created
  · right
    by_contra notJoined
    exact absent ⟨created, notJoined⟩
  · exact .inl created

/-! ## The steps of main -/

structure SameThreads (s s' : State) : Prop where
  slot : s'.clientReady.clientFd = s.clientReady.clientFd
  childWait : s'.childWait = s.childWait
  clientConnection : s'.clientConnection = s.clientConnection
  accept : s'.accept = s.accept

theorem SameThreads.notCreated (same : SameThreads s s') (t : Thread) :
    s'.NotCreated t ↔ s.NotCreated t := by
  cases t <;> simp [State.NotCreated, same.childWait, same.clientConnection, same.accept]

theorem SameThreads.terminated (same : SameThreads s s') (t : Thread) :
    s'.Terminated t ↔ s.Terminated t := by
  cases t <;> simp [State.Terminated, same.childWait, same.clientConnection, same.accept]

theorem Lifecycle.advance {pc pc' : MainPc} (life : Lifecycle s) (same : SameThreads s s')
    (here : s.main = pc) (there : s'.main = pc')
    (created : ∀ t, t ∈ pc'.created → t ∈ pc.created)
    (ended : ∀ t ∈ pc.created, t ∉ pc'.created ∨ t ∈ pc'.joined →
      t ∈ pc.joined ∨ s.Terminated t)
    (toCreate : pc'.toCreate = []) (ready : pc.ready = true → pc'.ready = true) :
    Lifecycle s' := by
  subst here there
  constructor
  · intro t other absent
    rw [State.Gone, same.notCreated, same.terminated]
    by_cases before : t ∈ s.main.created
    · rcases ended t before absent with joined | ended
      · exact life.gone t other (.inr joined)
      · exact .inr ended
    · exact life.gone t other (.inl before)
  · simp [toCreate]
  · intro t here
    rw [same.notCreated]
    exact life.created t (created t here)
  · rw [same.childWait]
    exact fun saw => ready (life.childWait saw)
  · rw [same.accept]
    exact fun saw => ready (life.accept saw)
  · rw [same.slot]
    exact fun occupied => ready (life.slot occupied)

section
attribute [local simp] MainPc.toCreate MainPc.created MainPc.joined joinedByParent MainPc.ready

theorem Lifecycle.start (config : Config) : Lifecycle (.start config) := by
  constructor
  · intro t other _
    cases t <;> simp_all [State.start, State.Gone, State.NotCreated]
  all_goals
    simp [State.start, State.NotCreated, ChildWaitPc.sawReady, AcceptPc.sawReady]

theorem Lifecycle.createThread {a : SetupThreadsAction} (life : Lifecycle s)
    (taken : setupThreads s a = some s')
    (creates : a = .createChildWait ∨ a = .createClientConnection ∨ a = .createAccept) :
    Lifecycle s' := by
  obtain ⟨gone, notCreated, created, childWait, accept, slot⟩ := life
  rcases creates with rfl | rfl | rfl <;> simp only [Server.setupThreads, require_eq_some] at taken <;>
    obtain ⟨here, rfl⟩ := taken <;> rw [here] at gone notCreated created childWait accept slot
  all_goals
    constructor
    · intro t other absent
      specialize gone t other
      cases t <;> simp_all [State.Gone, State.NotCreated, State.Terminated]
    · intro t absent
      specialize notCreated t
      cases t <;> simp_all [State.NotCreated]
    · intro t absent
      specialize created t
      cases t <;> simp_all [State.NotCreated]
    all_goals simp_all [ChildWaitPc.sawReady, AcceptPc.sawReady, WaitPc.sawReady]

theorem Lifecycle.setupThreads {a : SetupThreadsAction} (life : Lifecycle s)
    (taken : setupThreads s a = some s') : Lifecycle s' := by
  cases a
  case createChildWait => exact life.createThread taken (by simp)
  case createClientConnection => exact life.createThread taken (by simp)
  case createAccept => exact life.createThread taken (by simp)
  case join t rest ret =>
    simp only [Server.setupThreads, require_eq_some] at taken
    obtain ⟨⟨here, ended⟩, rfl⟩ := taken
    refine life.advance ⟨rfl, rfl, rfl, rfl⟩ here rfl ?_ ?_ ?_ ?_ <;> cases rest <;>
      simp_all [MainPc.endThreads]
  case cancel t rest ret =>
    simp only [Server.setupThreads, require_eq_some] at taken
    obtain ⟨here, rfl⟩ := taken
    refine life.advance ⟨rfl, rfl, rfl, rfl⟩ here rfl ?_ ?_ ?_ ?_ <;> simp
    grind
  all_goals
    simp only [Server.setupThreads, require_eq_some] at taken
    obtain ⟨here, rfl⟩ := taken
    refine life.advance ⟨rfl, rfl, rfl, rfl⟩ here rfl ?_ ?_ ?_ ?_ <;> simp [MainPc.endThreads]

theorem Lifecycle.setupChild {a : SetupChildAction} (life : Lifecycle s)
    (taken : setupChild s a = some s') : Lifecycle s' := by
  cases a <;> simp only [Server.setupChild, require_eq_some] at taken <;>
    obtain ⟨here, rfl⟩ := taken
  case close p e rest ret =>
    refine life.advance ⟨rfl, rfl, rfl, rfl⟩ here rfl ?_ ?_ ?_ ?_ <;> cases rest <;>
      simp +contextual [MainPc.closeEnds, MainPc.setupChildReturned, MainPc.endThreads]
  case reportingPipe =>
    refine life.advance ⟨rfl, rfl, rfl, rfl⟩ here rfl ?_ ?_ ?_ ?_ <;> cases s.pipe2Support <;>
      simp [MainPc.reportingPipeCreated]
  case fork pid =>
    refine life.advance ⟨rfl, rfl, rfl, rfl⟩ here.1 rfl ?_ ?_ ?_ ?_ <;> simp
  all_goals
    refine life.advance ⟨rfl, rfl, rfl, rfl⟩ here rfl ?_ ?_ ?_ ?_ <;>
      simp [MainPc.closeEnds, MainPc.setupChildReturned, MainPc.endThreads]

theorem Lifecycle.parent {a : ParentAction} (life : Lifecycle s)
    (taken : parent s a = some s') : Lifecycle s' := by
  cases a <;> simp only [Server.parent, require_eq_some] at taken <;>
    obtain ⟨here, rfl⟩ := taken
  case broadcast =>
    refine ⟨?_, by simp, ?_, by simp, by simp, by simp⟩
    · intro t other absent
      have before := life.gone t other (by simpa [here] using absent)
      cases t <;> simp_all
    · intro t created
      have before := life.created t (by simpa [here] using created)
      cases t <;> simp_all [State.NotCreated]
  case joinChildWait | joinAccept =>
    obtain ⟨here, ended⟩ := here
    refine life.advance ⟨rfl, rfl, rfl, rfl⟩ here rfl ?_ ?_ ?_ ?_ <;>
      simp_all [MainPc.parentReturned, MainPc.closeEnds]
  case waitpid error | waitpidFailed error =>
    refine life.advance ⟨rfl, rfl, rfl, rfl⟩ here.1 rfl ?_ ?_ ?_ ?_ <;> cases error <;>
      simp [MainPc.afterChildError]
  case readEof | readError | readShort =>
    refine life.advance ⟨rfl, rfl, rfl, rfl⟩ here.1.1 rfl ?_ ?_ ?_ ?_ <;> simp
  case lock | perror =>
    refine life.advance ⟨rfl, rfl, rfl, rfl⟩ here.1 rfl ?_ ?_ ?_ ?_ <;>
      simp [MainPc.parentReturned, MainPc.closeEnds]
  case perrorSigpipe =>
    refine life.advance ⟨rfl, rfl, rfl, rfl⟩ here.1 here.1 ?_ ?_ ?_ ?_ <;> simp
  all_goals
    refine life.advance ⟨rfl, rfl, rfl, rfl⟩ here rfl ?_ ?_ ?_ ?_ <;> simp

end

/-! ## The steps of the threads -/

theorem waitForChildReady_sawReady {t : Thread} {requested : Bool} {info : ChildReadyInfo}
    {w : WaitPc} {a : WaitAction} {r : WaitOutcome × ChildReadyInfo}
    (taken : waitForChildReady t requested info w a = some r) (saw : r.1.sawReady = true) :
    w.sawReady = true ∨ info.condition = true := by
  cases a <;> simp only [waitForChildReady, require_eq_some] at taken <;>
    obtain ⟨guard, rfl⟩ := taken <;> simp_all

theorem Lifecycle.thread {t : Thread} (life : Lifecycle s) (other : t ≠ .main)
    (same : SameMain s s') (step : StepOf t s s')
    (childWait : s'.childWait.sawReady = true → s.main.ready = true)
    (accept : s'.accept.sawReady = true → s.main.ready = true)
    (slot : s'.clientReady.clientFd ≠ none → s.main.ready = true) : Lifecycle s' := by
  have alive := life.of_not_gone other fun gone => gone.elim step.created step.running
  constructor
  · intro u notMain absent
    rw [same.main] at absent
    have different : u ≠ t := by
      rintro rfl
      exact absent.elim (· alive.1) alive.2
    rw [State.Gone, step.notCreated u different, step.terminated u different]
    exact life.gone u notMain absent
  · intro u here
    rw [same.main] at here
    have different : u ≠ t := by
      rintro rfl
      exact step.created (life.notCreated u here)
    exact (step.notCreated u different).mpr (life.notCreated u here)
  · intro u here
    rw [same.main] at here
    by_cases self : u = t
    · exact self ▸ step.stays
    · rw [step.notCreated u self]
      exact life.created u here
  · rw [same.main]
    exact childWait
  · rw [same.main]
    exact accept
  · rw [same.main]
    exact slot

theorem Lifecycle.threadRoutineChildWait {a : ChildWaitAction} (life : Lifecycle s)
    (progress : Progress s) (taken : threadRoutineChildWait s a = some s') : Lifecycle s' := by
  have same := threadRoutineChildWait_sameMain taken
  have step := threadRoutineChildWait_stepOf taken
  cases a <;> simp only [Server.threadRoutineChildWait, require_eq_some] at taken
  case waitForChildReady w a =>
    simp only [Option.ite_none_right_eq_some, Option.map_eq_some_iff] at taken
    obtain ⟨here, r, waited, rfl⟩ := taken
    refine life.thread (by simp) same step (fun saw => ?_) life.accept life.slot
    rcases waitForChildReady_sawReady waited (by simpa using saw) with before | ready
    · exact life.childWait (by simpa [here] using before)
    · exact progress.condition ▸ ready
  all_goals
    obtain ⟨-, rfl⟩ := taken
    exact life.thread (by simp) same step (by simp) life.accept life.slot

theorem Lifecycle.threadRoutineAccept {a : AcceptAction} (life : Lifecycle s)
    (progress : Progress s) (taken : threadRoutineAccept s a = some s') : Lifecycle s' := by
  have same := threadRoutineAccept_sameMain taken
  have step := threadRoutineAccept_stepOf taken
  cases a <;> simp only [Server.threadRoutineAccept, require_eq_some] at taken
  case waitForChildReady w a =>
    simp only [Option.ite_none_right_eq_some, Option.map_eq_some_iff] at taken
    obtain ⟨here, r, waited, rfl⟩ := taken
    refine life.thread (by simp) same step life.childWait (fun saw => ?_) life.slot
    rcases waitForChildReady_sawReady waited (by simpa using saw) with before | ready
    · exact life.accept (by simpa [here] using before)
    · exact progress.condition ▸ ready
  case cancelPushed fd =>
    obtain ⟨⟨here, -⟩, rfl⟩ := taken
    refine life.thread (by simp) same step life.childWait (fun _ => life.accept ?_) life.slot
    rcases AcceptPc.cancellationPoint_eq_some.mp here with here | here | ⟨w, here⟩ <;> simp [here]
  case store fd =>
    obtain ⟨here, rfl⟩ := taken
    have ready := life.accept (by simp [here])
    exact life.thread (by simp) same step life.childWait (fun _ => ready) fun _ => ready
  all_goals
    obtain ⟨here, rfl⟩ := taken
    exact life.thread (by simp) same step life.childWait
      (fun _ => life.accept (by simp [here])) life.slot

theorem Lifecycle.threadRoutineClientConnection {a : ClientConnectionAction} (life : Lifecycle s)
    (taken : threadRoutineClientConnection s a = some s') : Lifecycle s' := by
  have same := threadRoutineClientConnection_sameMain taken
  have step := threadRoutineClientConnection_stepOf taken
  cases a <;> simp only [Server.threadRoutineClientConnection, require_eq_some] at taken
  case cleanupStore =>
    obtain ⟨-, rfl⟩ := taken
    exact life.thread (by simp) same step life.childWait life.accept (by simp)
  all_goals
    obtain ⟨-, rfl⟩ := taken
    exact life.thread (by simp) same step life.childWait life.accept life.slot

theorem Lifecycle.kernel {k : Kernel} (life : Lifecycle s) : Lifecycle { s with kernel := k } := by
  have same : SameThreads s { s with kernel := k } := ⟨rfl, rfl, rfl, rfl⟩
  refine ⟨?_, ?_, ?_, life.childWait, life.accept, life.slot⟩
  · intro t
    rw [State.Gone, same.notCreated, same.terminated]
    exact life.gone t
  · intro t
    rw [same.notCreated]
    exact life.notCreated t
  · intro t
    rw [same.notCreated]
    exact life.created t

theorem Lifecycle.act {a : Action} (life : Lifecycle s) (progress : Progress s)
    (taken : act s a = some s') : Lifecycle s' := by
  cases a with
  | setupThreads a => exact life.setupThreads taken
  | setupChild a => exact life.setupChild taken
  | parent a => exact life.parent taken
  | childWait a => exact life.threadRoutineChildWait progress taken
  | accept a => exact life.threadRoutineAccept progress taken
  | clientConnection a => exact life.threadRoutineClientConnection taken
  | child a =>
      simp only [Server.act, Option.map_eq_some_iff] at taken
      obtain ⟨k, -, rfl⟩ := taken
      exact life.kernel
  | client a =>
      simp only [Server.act, Option.map_eq_some_iff] at taken
      obtain ⟨k, -, rfl⟩ := taken
      exact life.kernel

theorem Lifecycle.run {ok : State → Action → Prop} {actions : List Action}
    (run : system.RunWhere ok actions s) : Lifecycle s := by
  refine run.stateInvariant ?_ ?_
  · rintro _ ⟨config, rfl⟩
    exact .start config
  · intro _ s a s' before life _ step
    exact life.act (.run before) (system_step.mp step).2

/-! ## Cancelled threads -/

def ChildWaitPc.cancelled : ChildWaitPc → Bool
  | .waitForChildReady .cancelled => true
  | _ => false

def AcceptPc.cancelled : AcceptPc → Bool
  | .waitForChildReady .cancelled | .cleanupRoutine _ | .ended => true
  | _ => false

def ClientConnectionPc.isCancelled : ClientConnectionPc → Bool
  | .cleanupLoad flag | .cleanupStore _ flag => flag
  | .cleanupUnlock _ flag | .cleanupClose _ flag => flag
  | .cancelled | .ended => true
  | _ => false

structure CancelRequested (s : State) : Prop where
  childWait : s.childWait.cancelled = true → s.cancelRequested .childWait = true
  accept : s.accept.cancelled = true → s.cancelRequested .accept = true
  clientConnection : s.clientConnection.isCancelled = true →
    s.cancelRequested .clientConnection = true

attribute [simp] ChildWaitPc.cancelled.eq_1 ChildWaitPc.cancelled.eq_2

attribute [simp] AcceptPc.cancelled.eq_1 AcceptPc.cancelled.eq_2 AcceptPc.cancelled.eq_3
  AcceptPc.cancelled.eq_4

attribute [simp] ClientConnectionPc.isCancelled.eq_1 ClientConnectionPc.isCancelled.eq_2
  ClientConnectionPc.isCancelled.eq_3 ClientConnectionPc.isCancelled.eq_4
  ClientConnectionPc.isCancelled.eq_5 ClientConnectionPc.isCancelled.eq_6
  ClientConnectionPc.isCancelled.eq_7

@[simp] theorem ChildWaitPc.cancelled_afterWait (outcome : WaitOutcome) :
    (ChildWaitPc.afterWait outcome).cancelled = decide (outcome = .inside .cancelled) := by
  rcases outcome with w | _ | _
  · cases w <;> rfl
  all_goals rfl

@[simp] theorem AcceptPc.cancelled_afterWait (outcome : WaitOutcome) :
    (AcceptPc.afterWait outcome).cancelled = decide (outcome = .inside .cancelled ∨ outcome = .ended) := by
  rcases outcome with w | _ | _
  · cases w <;> rfl
  all_goals rfl

@[simp] theorem AcceptPc.cancelled_waitForChildReady (w : WaitPc) :
    (AcceptPc.waitForChildReady w).cancelled = decide (w = .cancelled) := by
  cases w <;> rfl

@[simp] theorem ChildWaitPc.cancelled_waitForChildReady (w : WaitPc) :
    (ChildWaitPc.waitForChildReady w).cancelled = decide (w = .cancelled) := by
  cases w <;> rfl

@[simp] theorem ChildWaitPc.cancelled_signalled (pc : ChildWaitPc) :
    pc.signalled.cancelled = pc.cancelled := by
  unfold signalled
  split <;> rfl

@[simp] theorem AcceptPc.cancelled_signalled (pc : AcceptPc) :
    pc.signalled.cancelled = pc.cancelled := by
  unfold signalled
  split <;> rfl

@[simp] theorem ClientConnectionPc.isCancelled_signalled (pc : ClientConnectionPc) :
    pc.signalled.isCancelled = pc.isCancelled := by
  cases pc <;> rfl

@[simp] theorem AcceptPc.cancelled_afterWrite (fd : ClientFd) (w : WriteAll) (k : Nat) :
    (AcceptPc.afterWrite fd w k).cancelled = false := by
  unfold afterWrite
  split <;> rfl

@[simp] theorem ClientConnectionPc.isCancelled_afterWrite (w : WriteAll) (k : Nat) :
    (ClientConnectionPc.afterWrite w k).isCancelled = false := by
  unfold afterWrite
  split <;> rfl

@[simp] theorem ClientConnectionPc.isCancelled_afterCleanup (cancelled : Bool) :
    (ClientConnectionPc.afterCleanup cancelled).isCancelled = cancelled := by
  cases cancelled <;> rfl

theorem waitForChildReady_cancelled {t : Thread} {requested : Bool} {info : ChildReadyInfo}
    {w : WaitPc} {a : WaitAction} {r : WaitOutcome × ChildReadyInfo}
    (taken : waitForChildReady t requested info w a = some r)
    (after : r.1 = .inside .cancelled ∨ r.1 = .ended) : w = .cancelled ∨ requested = true := by
  cases a <;> simp only [waitForChildReady, require_eq_some] at taken <;>
    obtain ⟨guard, rfl⟩ := taken <;> simp_all

theorem requestCancel_mono {t u : Thread} (before : s.cancelRequested u = true) :
    s.requestCancel t u = true := by
  by_cases same : u = t
  · rw [same, State.requestCancel_self]
  · rw [State.requestCancel_of_ne same, before]

theorem cancelRequested_mono {a : Action} {t : Thread} (taken : act s a = some s')
    (requested : s.cancelRequested t = true) : s'.cancelRequested t = true := by
  cases a with
  | setupThreads a =>
      cases a <;> simp only [Server.act, setupThreads, require_eq_some] at taken <;>
        obtain ⟨-, rfl⟩ := taken <;> simp [requested, requestCancel_mono]
  | setupChild a =>
      cases a <;> simp only [Server.act, setupChild, require_eq_some] at taken <;>
        obtain ⟨-, rfl⟩ := taken <;> simp [requested]
  | parent a =>
      cases a <;> simp only [Server.act, parent, require_eq_some] at taken <;>
        obtain ⟨-, rfl⟩ := taken <;> simp [requested, requestCancel_mono]
  | childWait | accept | clientConnection | child | client =>
      rw [(act_sameMain taken id).cancelRequested, requested]

theorem CancelRequested.start (config : Config) : CancelRequested (.start config) := by
  constructor <;> simp [State.start]

theorem act_childWait_cancelled {a : Action} (taken : act s a = some s')
    (after : s'.childWait.cancelled = true) :
    s.childWait.cancelled = true ∨ s.cancelRequested .childWait = true := by
  cases a with
  | childWait a =>
      cases a <;> simp only [Server.act, threadRoutineChildWait, require_eq_some,
        Option.ite_none_right_eq_some, Option.map_eq_some_iff] at taken
      case waitForChildReady w a =>
        obtain ⟨here, r, waited, rfl⟩ := taken
        simpa [here] using waitForChildReady_cancelled waited (.inl (by simpa using after))
      all_goals
        obtain ⟨guard, rfl⟩ := taken
        simp [ChildWaitPc.cancelled] at after
  | setupThreads | setupChild | parent | accept | clientConnection | child | client =>
      rcases act_sameChildWait taken (by simp) with same | same | ⟨-, same⟩ <;>
        simp only [same, ChildWaitPc.cancelled_signalled, ChildWaitPc.cancelled_waitForChildReady,
          reduceCtorEq, decide_false, Bool.false_eq_true] at after
      all_goals exact .inl after

theorem act_accept_cancelled {a : Action} (taken : act s a = some s')
    (after : s'.accept.cancelled = true) :
    s.accept.cancelled = true ∨ s.cancelRequested .accept = true := by
  cases a with
  | accept a =>
      cases a <;> simp only [Server.act, threadRoutineAccept, require_eq_some,
        Option.ite_none_right_eq_some, Option.map_eq_some_iff] at taken
      case waitForChildReady w a =>
        obtain ⟨here, r, waited, rfl⟩ := taken
        simpa [here] using waitForChildReady_cancelled waited (by simpa using after)
      all_goals
        obtain ⟨guard, rfl⟩ := taken
        first | exact .inr guard.2 | simp [guard] at after ⊢
  | setupThreads | setupChild | parent | childWait | clientConnection | child | client =>
      rcases act_sameAccept taken (by simp) with same | same | ⟨-, same⟩ <;>
        simp only [same, AcceptPc.cancelled_signalled, AcceptPc.cancelled_waitForChildReady,
          reduceCtorEq, decide_false, Bool.false_eq_true] at after
      all_goals exact .inl after

theorem act_clientConnection_cancelled {a : Action} (taken : act s a = some s')
    (after : s'.clientConnection.isCancelled = true) :
    s.clientConnection.isCancelled = true ∨ s.cancelRequested .clientConnection = true := by
  cases a with
  | clientConnection a =>
      cases a <;> simp only [Server.act, threadRoutineClientConnection, require_eq_some] at taken <;>
        obtain ⟨guard, rfl⟩ := taken
      case relockCancelled => exact .inl (by simp [guard])
      case cancelWait | cancelWoken | cancelRead | cancelWrite | cancelClose => exact .inr guard.2
      case cleanupLoad | cleanupStore | cleanupUnlock | cleanupClose =>
        exact .inl (by simpa [guard] using after)
      case writeSigpipe => exact .inl after
      all_goals simp at after
  | setupThreads | setupChild | parent | childWait | accept | child | client =>
      rcases act_sameClientConnection taken (by simp) with same | same | ⟨-, same⟩ <;>
        simp [same] at after
      all_goals exact .inl after

theorem CancelRequested.act {a : Action} (cancelled : CancelRequested s)
    (taken : act s a = some s') : CancelRequested s' := by
  refine ⟨fun after => ?_, fun after => ?_, fun after => ?_⟩ <;>
    apply cancelRequested_mono taken
  · exact (act_childWait_cancelled taken after).elim cancelled.childWait id
  · exact (act_accept_cancelled taken after).elim cancelled.accept id
  · exact (act_clientConnection_cancelled taken after).elim cancelled.clientConnection id

theorem CancelRequested.run {ok : State → Action → Prop} {actions : List Action}
    (run : system.RunWhere ok actions s) : CancelRequested s := by
  refine run.stateInvariant ?_ ?_
  · rintro _ ⟨config, rfl⟩
    exact .start config
  · intro _ s a s' _ cancelled _ step
    exact cancelled.act (system_step.mp step).2

/-- main cancels the connection thread only when it has joined the accept thread. -/
theorem Lifecycle.accept_gone (life : Lifecycle s) (progress : Progress s)
    (requested : s.cancelRequested .clientConnection = true) : s.Gone .accept := by
  by_contra alive
  obtain ⟨created, -⟩ := life.of_not_gone (by simp) alive
  have left : Thread.clientConnection ∉ s.main.uncancelled := by
    intro uncancelled
    simp [progress.uncancelled _ uncancelled] at requested
  have toJoin := progress.toJoin
  cases here : s.main <;> rw [here] at created left toJoin <;>
    simp_all [MainPc.created, MainPc.uncancelled, MainPc.toJoin, List.suffix_cons_iff]
  all_goals
    rcases toJoin with ⟨rfl, rfl⟩ | ⟨rfl, rfl⟩ | ⟨rfl, rfl⟩ <;> simp_all

end Usockit.Server
