import Usockit.Foundation.Errno
import Usockit.Client.Forwarding

namespace Usockit.Client
open Foundation Errno

variable {s s' : State} {actions : List Action} {e seen : Nat}

/-! ## The calls of main -/

/-- The calls of usockit_client and of the functions that create the threads. -/
inductive SetupCall
  | socket | calloc | mutexInit | condInit | connect
  | callocReceivingThreadRoutineArg | createReceivingThread
  | callocSendingThreadRoutineArg | createSendingThread
  deriving DecidableEq

def SetupCall.failed : SetupCall → MainAction
  | .socket => .socketFailed
  | .calloc => .callocFailed
  | .mutexInit => .mutexInitFailed
  | .condInit => .condInitFailed
  | .connect => .connectFailed
  | .callocReceivingThreadRoutineArg => .callocReceivingThreadRoutineArgFailed
  | .createReceivingThread => .createReceivingThreadFailed
  | .callocSendingThreadRoutineArg => .callocSendingThreadRoutineArgFailed
  | .createSendingThread => .createSendingThreadFailed

/-- A pthread function returns its error and may leave anything in errno. -/
def SetupCall.returnsError : SetupCall → Bool
  | .mutexInit | .condInit | .createReceivingThread | .createSendingThread => true
  | _ => false

/-- The functions that create the threads set errno when they have freed the argument. -/
def ExitOp.statements (error : Nat) : ExitOp → List (Statement ExitOp)
  | .freeReceivingThreadRoutineArg => [.call .freeReceivingThreadRoutineArg, .assign error]
  | .freeSendingThreadRoutineArg => [.call .freeSendingThreadRoutineArg, .assign error]
  | op => [.call op]

/-- `errno = 0;` right before perror(). -/
def SetupCall.resets : SetupCall → Bool
  | .mutexInit | .condInit => true
  | _ => false

def MainPc.exitOps : MainPc → List ExitOp
  | .exit ops _ => ops
  | _ => []

/-- What is executed between the failure, which leads main to `pc`, and perror(). -/
def SetupCall.statements (call : SetupCall) (error : Nat) (pc : MainPc) : List (Statement ExitOp) :=
  pc.exitOps.flatMap (ExitOp.statements error) ++ if call.resets then [.assign 0] else []

/-- The call fails with `e` in some run, and perror() may see `seen`. -/
def SetupCall.PerrorSees (call : SetupCall) (e seen : Nat) : Prop :=
  ∃ actions s errno, system.Run (actions ++ [.main call.failed]) s ∧
    (call.returnsError = false → errno = e) ∧ Leaves (call.statements e s.main) errno seen

def SetupCall.keepsErrno : SetupCall → Bool
  | .socket | .calloc => true
  | _ => false

theorem SetupCall.seen_eq {call : SetupCall} (keeps : call.keepsErrno = true)
    (sees : call.PerrorSees e seen) : seen = e := by
  obtain ⟨actions, s, errno, run, kept, leaves⟩ := sees
  obtain ⟨before, -, -, step⟩ := run.last
  have taken := (system_step.mp step).2
  have silent : call.statements e s.main = [] ∧ call.returnsError = false := by
    cases call <;> simp only [keepsErrno, reduceCtorEq] at keeps <;>
      simp only [act, failed, usockitClient, require_eq_some] at taken <;>
      obtain ⟨-, rfl⟩ := taken <;> exact ⟨rfl, rfl⟩
  obtain rfl := kept silent.2
  simpa [silent.1] using leaves

/-! ## Runs in which the calls fail -/

def SetupCall.before : SetupCall → List Action
  | .socket => []
  | .calloc => startUp.take 1
  | .mutexInit => startUp.take 2
  | .condInit => startUp.take 3
  | .connect => startUp.take 4
  | .callocReceivingThreadRoutineArg => startUp.take 5
  | .createReceivingThread => startUp.take 6
  | .callocSendingThreadRoutineArg => startUp.take 7
  | .createSendingThread => startUp.take 8

theorem SetupCall.frees_last {call : SetupCall} (lost : call.keepsErrno = false) :
    ∃ s ops, system.Run (call.before ++ [.main call.failed]) s ∧
      s.main.exitOps = ops ++ [.freeThreadsResultDest] := by
  obtain ⟨s, path, last⟩ : ∃ s,
      system.exec (.start []) (call.before ++ [.main call.failed]) = some s ∧
        s.main.exitOps.getLast? = some .freeThreadsResultDest := by
    refine System.exists_exec ?_
    cases call <;> simp only [keepsErrno, reduceCtorEq] at lost <;> decide +kernel
  obtain ⟨ops, whole⟩ := List.getLast?_eq_some_iff.mp last
  exact ⟨s, ops, System.run_of_exec ⟨[], rfl⟩ path, whole⟩

theorem exitOps_plain (ops : List ExitOp) :
    ∀ statement ∈ ops.flatMap (ExitOp.statements e), statement.Plain := by
  refine List.forall_mem_flatMap.mpr fun op _ => ?_
  cases op <;> simp [ExitOp.statements, Statement.Plain]

/-- What is freed last may set errno to any value, and `errno = 0;` sets it to 0. -/
theorem SetupCall.perrorSees_of_lost {call : SetupCall} (lost : call.keepsErrno = false)
    (resets : call.resets = true → seen = 0) (e : Nat) : call.PerrorSees e seen := by
  obtain ⟨s, ops, run, whole⟩ := call.frees_last lost
  refine ⟨_, s, e, run, fun _ => rfl, ?_⟩
  rw [statements, whole]
  split
  · next reset =>
    obtain rfl := resets reset
    exact leaves_assign_last (exitOps_plain _) e
  · rw [List.append_nil, List.flatMap_append, List.flatMap_singleton]
    exact leaves_call (exitOps_plain ops) e seen

/-! ## The calls of the threads -/

inductive ThreadCall
  | sending (func : SendingThreadResultFunc)
  | receivingRead
  deriving DecidableEq

def Action.failure : Action → Option (ThreadCall × Nat)
  | .sendingThread (.readFailed errno) => some (.sending .read, errno)
  | .sendingThread (.writeFailed _ errno) => some (.sending .write, errno)
  | .receivingThread (.readFailed errno) => some (.receivingRead, errno)
  | _ => none

/-- The call that perror() names in the switch at the end of usockit_client_connect, and what is
executed before; `none` where it is not called. -/
def ThreadsResult.perror (r : ThreadsResult) : Option (ThreadCall × List (Statement ExitOp)) :=
  match r.origin, r.threadUnion with
  | .sending, .sending sending =>
      if sending.status = 0 then none
      else some (.sending sending.func, [.assign sending.status])
  | .receiving, .receiving receiving =>
      match receiving.type with
      | .fuckOff => none
      | .readFailure => some (.receivingRead, [])
  | _, _ => none

/-- The call fails with `e` in some run, main reports it, and perror() may see `seen`. -/
def ThreadCall.PerrorSees (call : ThreadCall) (e seen : Nat) : Prop :=
  ∃ actions s result statements errno, system.Run actions s ∧
    (∃ a ∈ actions, a.failure = some (call, e)) ∧
    s.main = .exit (endThreadsOps ++ releaseOps) (some result) ∧
    result.perror = some (call, statements) ∧
    Leaves ((endThreadsOps ++ releaseOps).map .call ++ statements) errno seen

def ThreadCall.keepsErrno : ThreadCall → Bool
  | .sending _ => true
  | .receivingRead => false

/-! ## A thread fails once -/

def Action.sendingFailure (a : Action) : Option SendingThreadResult :=
  match a.failure with
  | some (.sending func, errno) => some ⟨errno, func⟩
  | _ => none

/-- How often the sending thread can still fail. -/
def SendingThreadPc.failures (pc : SendingThreadPc) : Nat := if pc.posting then 0 else 1

section
attribute [local simp] SendingThreadPc.failures SendingThreadPc.posting Action.sendingFailure
  Action.failure

theorem sendingThreadRoutine_failures {a : SendingThreadAction} (masked : Masked s)
    (taken : sendingThreadRoutine s a = some s') :
    (Action.sendingThread a).sendingFailure.toList.length + s'.sendingThread.failures ≤
      s.sendingThread.failures := by
  cases a <;> simp only [sendingThreadRoutine, require_eq_some, Option.ite_none_right_eq_some,
    Option.map_eq_some_iff] at taken
  case dispatchResult r p b =>
    obtain ⟨here, next, -, rfl⟩ := taken
    simp
  case wrote w k =>
    obtain ⟨⟨here, -⟩, rfl⟩ := taken
    have working := (SendingThreadPc.offers_afterWrite w k).2
    simp only [SendingThreadPc.failures, here, working]
    simp
  case writeFailed w errno =>
    obtain ⟨⟨here, -⟩, rfl⟩ := taken
    rw [State.writeFailed, if_neg (by simp [masked.write w here])]
    simp [here]
  all_goals
    obtain ⟨here, rfl⟩ := taken
    simp [here]

theorem act_failures {a : Action} (inv : Invariants s) (masked : Masked s)
    (taken : act s a = some s') :
    a.sendingFailure.toList.length + s'.sendingThread.failures ≤ s.sendingThread.failures := by
  cases a with
  | sendingThread a => exact sendingThreadRoutine_failures masked taken
  | main a =>
      obtain ⟨-, -, -, -, same | ⟨fresh, created⟩⟩ := usockitClient_frame inv.life taken
      · rw [same]
        exact Nat.le_of_eq (Nat.zero_add _)
      · simp [fresh, created]
  | receivingThread a =>
      rw [(receivingThreadRoutine_cases taken).2.1]
      cases a <;> exact Nat.le_of_eq (Nat.zero_add _)
  | server a =>
      simp only [act, Option.map_eq_some_iff] at taken
      obtain ⟨socket, -, rfl⟩ := taken
      exact Nat.le_of_eq (Nat.zero_add _)

end

def FailsOnce (actions : List Action) (s : State) : Prop :=
  (actions.filterMap Action.sendingFailure).length + s.sendingThread.failures ≤ 1

theorem FailsOnce.run (run : system.Run actions s) : FailsOnce actions s := by
  refine run.invariant (I := FailsOnce) ?_ ?_
  · rintro _ ⟨stdin, rfl⟩
    simp [FailsOnce, State.start, SendingThreadPc.failures, SendingThreadPc.posting]
  · intro actions s a s' before once _ step
    have now := act_failures (.run before) (.run before) (system_step.mp step).2
    have snoc : (actions ++ [a]).filterMap Action.sendingFailure =
        actions.filterMap Action.sendingFailure ++ a.sendingFailure.toList := by
      cases failure : a.sendingFailure <;> simp [failure]
    unfold FailsOnce at *
    rw [snoc, List.length_append]
    omega

theorem FailsOnce.unique {r r' : SendingThreadResult} (once : FailsOnce actions s)
    (first : r ∈ actions.filterMap Action.sendingFailure)
    (second : r' ∈ actions.filterMap Action.sendingFailure) : r = r' := by
  have few : (actions.filterMap Action.sendingFailure).length ≤ 1 :=
    Nat.le_trans (Nat.le_add_right _ _) once
  match failures : actions.filterMap Action.sendingFailure with
  | [] => simp [failures] at first
  | [only] =>
      rw [failures, List.mem_singleton] at first second
      exact first.trans second.symm
  | _ :: _ :: _ => simp [failures] at few

/-- What the sending thread posts about a failure is what its call has failed with. -/
theorem sendingFailure_of_posts {r : SendingThreadResult} (run : system.Run actions s)
    (posted : r.toThreadsResult ∈ posts actions) (failed : r.status ≠ 0) :
    r ∈ actions.filterMap Action.sendingFailure := by
  have truthful := (Forwarding.run run).posted r (posting_of_mem_posts posted)
  rw [List.mem_filterMap]
  rcases truthful.failed failed with ⟨read, earlier⟩ | ⟨write, w, earlier⟩
  · exact ⟨_, earlier, by simp [Action.sendingFailure, Action.failure, ← read]⟩
  · exact ⟨_, earlier, by simp [Action.sendingFailure, Action.failure, ← write]⟩

theorem ThreadCall.seen_eq {call : ThreadCall} (keeps : call.keepsErrno = true)
    (sees : call.PerrorSees e seen) : seen = e := by
  obtain ⟨actions, s, result, statements, errno, run, ⟨a, member, failure⟩, here, perror, leaves⟩ :=
    sees
  cases call with
  | receivingRead => simp [keepsErrno] at keeps
  | sending func =>
      have posted := (Law.run run).copied _ _ here
      rcases posted_of_mem_posts posted with ⟨r, rfl⟩ | ⟨r, rfl⟩
      · obtain ⟨failed, rfl, rfl⟩ : r.status ≠ 0 ∧ r.func = func ∧
            [.assign r.status] = statements := by
          simpa [ThreadsResult.perror, SendingThreadResult.toThreadsResult] using perror
        obtain rfl := eq_of_leaves_assign leaves
        have reported := sendingFailure_of_posts run posted failed
        have happened : ⟨e, r.func⟩ ∈ actions.filterMap Action.sendingFailure :=
          List.mem_filterMap.mpr ⟨a, member, by simp [Action.sendingFailure, failure]⟩
        exact congrArg SendingThreadResult.status ((FailsOnce.run run).unique reported happened)
      · cases type : r.type <;>
          simp [ThreadsResult.perror, ReceivingThreadResult.toThreadsResult, type] at perror

/-- Both threads are in read(), and main waits. -/
structure Waiting (s : State) : Prop where
  running : s.fate = .running
  main : s.main = .asleep
  receivingThread : s.receivingThread = .read
  mutex : s.threadsResultDest.mutex = none
  unset : s.threadsResultDest.result = .unset

def readFailure (r : ReceivingThreadResult) : List Action :=
  [.receivingThread (.readFailed r.readErrno), .receivingThread (.post r .lock .lock),
   .receivingThread (.post r .test .testStore), .receivingThread (.post r .store .store),
   .receivingThread (.post r .unlock .unlock), .receivingThread (.signal r),
   .main .relock, .main .originSet, .main .copy]

theorem exec_startUp : ∃ s, system.exec (.start []) startUp = some s ∧ Waiting s := by
  obtain ⟨s, path, running, main, receivingThread, mutex, unset⟩ :
      ∃ s, system.exec (.start []) startUp = some s ∧ s.fate = .running ∧ s.main = .asleep ∧
        s.receivingThread = .read ∧ s.threadsResultDest.mutex = none ∧
        s.threadsResultDest.result = .unset :=
    System.exists_exec (by decide +kernel)
  exact ⟨s, path, running, main, receivingThread, mutex, unset⟩

theorem Waiting.readFailure (waiting : Waiting s) (nonzero : e ≠ 0) :
    ∃ t, system.exec s (readFailure ⟨.readFailure, e⟩) = some t ∧
      t.main = .exit (endThreadsOps ++ releaseOps)
        (some (ReceivingThreadResult.toThreadsResult ⟨.readFailure, e⟩)) := by
  obtain ⟨running, main, receivingThread, mutex, unset⟩ := waiting
  simp [Client.readFailure, System.exec, system, step, act, receivingThreadRoutine, usockitClient,
    post, running, main, receivingThread, mutex, unset, nonzero, ReceivingThreadResult.replaces,
    ThreadsResult.unset, ReceivingThreadResult.toThreadsResult, MainPc.signalled, require]

/-- read_errno is not looked at. -/
theorem ThreadCall.receivingRead_perrorSees (nonzero : e ≠ 0) (seen : Nat) :
    ThreadCall.receivingRead.PerrorSees e seen := by
  obtain ⟨s, path, waiting⟩ := exec_startUp
  obtain ⟨t, path', here⟩ := waiting.readFailure nonzero
  refine ⟨_, t, _, [], 0, System.run_of_exec ⟨[], rfl⟩ (System.exec_trans path path'), ?_, here,
    rfl, ?_⟩
  · exact ⟨.receivingThread (.readFailed e), by simp [readFailure], rfl⟩
  · rw [List.append_nil]
    exact leaves_calls (by decide) 0 seen

end Usockit.Client
