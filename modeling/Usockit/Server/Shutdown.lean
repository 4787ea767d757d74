import Usockit.Server.Handoff

namespace Usockit.Server
open Foundation

variable {s s' : State} {actions : List Action}

/-! ## Threads that wait for a mutex -/

def WaitPc.locking : WaitPc → Bool
  | .lock | .woken | .cancelled => true
  | _ => false

def ChildWaitPc.locking : ChildWaitPc → Bool
  | .waitForChildReady w => w.locking
  | _ => false

def AcceptPc.locking : AcceptPc → Bool
  | .waitForChildReady w => w.locking
  | _ => false

def ClientConnectionPc.locking : ClientConnectionPc → Bool
  | .lock | .woken | .cancelled => true
  | _ => false

def State.blockedOn (s : State) : Thread → Option Thread
  | .main => if s.main = .lock then s.childReady.mutex else none
  | .childWait => if s.childWait.locking then s.childReady.mutex else none
  | .accept => if s.accept.locking then s.childReady.mutex else none
  | .clientConnection => if s.clientConnection.locking then s.clientReady.mutex else none

/-- main joins a cancelled thread that waits for a mutex which nobody will unlock. -/
def State.JoinDeadlocked (s : State) : Prop :=
  ∃ t owner, s.main.joining = some t ∧ s.blockedOn t = some owner ∧ s.Terminated owner

/-! ## The steps that a cancelled thread has left -/

def WaitPc.stepsToEnd : WaitPc → Nat
  | .lock | .woken => 5
  | .test => 4
  | .wait => 3
  | .asleep | .unlock => 2
  | .cancelled => 1

def WaitOutcome.stepsToEnd : WaitOutcome → Nat
  | .inside w => w.stepsToEnd
  | .returned => 1
  | .ended => 0

def ChildWaitPc.stepsToEnd : ChildWaitPc → Nat
  | .waitForChildReady w => w.stepsToEnd
  | .waitpid => 1
  | .notCreated | .ended => 0

def AcceptPc.stepsToEnd : AcceptPc → Nat
  | .waitForChildReady w => w.stepsToEnd
  | .trylock _ => 5
  | .store _ | .readSlot _ => 4
  | .unlock _ | .callWriteAll _ | .signal _ => 3
  | .testcancelPublished _ | .testcancelSpurious _ | .write _ _ | .cleanupPop _ _ => 2
  | .perror => 2
  | .accept | .cleanupRoutine _ => 1
  | .notCreated | .ended => 0

def ClientConnectionPc.stepsToEnd : ClientConnectionPc → Nat
  | .cleanupLoad false => 12
  | .cleanupStore _ false => 11
  | .cleanupUnlock _ false => 10
  | .cleanupClose _ false => 9
  | .lock | .woken => 8
  | .test => 7
  | .load | .callWriteAll _ => 6
  | .read _ | .write _ => 5
  | .cleanupLoad true => 4
  | .cleanupStore _ true | .wait => 3
  | .cleanupUnlock _ true | .asleep => 2
  | .cleanupClose _ true | .cancelled => 1
  | .notCreated | .ended => 0

def State.stepsToEnd (s : State) : Thread → Nat
  | .main => 0
  | .childWait => s.childWait.stepsToEnd
  | .accept => s.accept.stepsToEnd
  | .clientConnection => s.clientConnection.stepsToEnd

section
attribute [local simp] WaitPc.stepsToEnd WaitOutcome.stepsToEnd ChildWaitPc.stepsToEnd
  AcceptPc.stepsToEnd ClientConnectionPc.stepsToEnd ClientConnectionPc.afterCleanup

theorem ChildWaitPc.stepsToEnd_afterWait (outcome : WaitOutcome) :
    (ChildWaitPc.afterWait outcome).stepsToEnd = outcome.stepsToEnd := by
  cases outcome <;> rfl

theorem AcceptPc.stepsToEnd_afterWait (outcome : WaitOutcome) :
    (AcceptPc.afterWait outcome).stepsToEnd = outcome.stepsToEnd := by
  cases outcome <;> rfl

theorem waitForChildReady_advances {t : Thread} {info : ChildReadyInfo} {w : WaitPc}
    (free : w.locking = true → info.mutex = none) :
    ∃ a r, waitForChildReady t true info w a = some r ∧ r.1.stepsToEnd < w.stepsToEnd := by
  cases w with
  | lock => exact ⟨.lock, by simpa [waitForChildReady] using free rfl⟩
  | test =>
      cases ready : info.condition
      · exact ⟨.testNotReady, by simp [waitForChildReady, ready]⟩
      · exact ⟨.testReady, by simp [waitForChildReady, ready]⟩
  | wait => exact ⟨.wait, by simp [waitForChildReady]⟩
  | asleep => exact ⟨.cancel, by simp [waitForChildReady]⟩
  | woken => exact ⟨.relock, by simpa [waitForChildReady] using free rfl⟩
  | unlock => exact ⟨.unlock, by simp [waitForChildReady]⟩
  | cancelled => exact ⟨.relockCancelled, by simpa [waitForChildReady] using free rfl⟩

theorem childWait_advances (requested : s.cancelRequested .childWait = true)
    (free : s.childWait.locking = true → s.childReady.mutex = none)
    (created : ¬ s.NotCreated .childWait) (running : ¬ s.Terminated .childWait) :
    ∃ a s', threadRoutineChildWait s a = some s' ∧
      s'.childWait.stepsToEnd < s.childWait.stepsToEnd := by
  cases here : s.childWait with
  | notCreated => exact absurd here created
  | waitForChildReady w =>
      obtain ⟨a, r, waited, closer⟩ :=
        waitForChildReady_advances (t := .childWait) (w := w) fun locking =>
          free (by simpa [here, ChildWaitPc.locking] using locking)
      exact ⟨.waitForChildReady w a, { s with childWait := .afterWait r.1, childReady := r.2 },
        by simp [threadRoutineChildWait, here, requested, waited],
        by rwa [ChildWaitPc.stepsToEnd_afterWait]⟩
  | waitpid => exact ⟨.cancel, by simp [threadRoutineChildWait, here, requested]⟩
  | ended => exact absurd here running

theorem accept_advances (requested : s.cancelRequested .accept = true)
    (free : s.accept.locking = true → s.childReady.mutex = none)
    (created : ¬ s.NotCreated .accept) (running : ¬ s.Terminated .accept) :
    ∃ a s', a ≠ .acceptFailed ∧ threadRoutineAccept s a = some s' ∧
      s'.accept.stepsToEnd < s.accept.stepsToEnd := by
  cases here : s.accept with
  | notCreated => exact absurd here created
  | waitForChildReady w =>
      obtain ⟨a, r, waited, closer⟩ :=
        waitForChildReady_advances (t := .accept) (w := w) fun locking =>
          free (by simpa [here, AcceptPc.locking] using locking)
      exact ⟨.waitForChildReady w a, { s with accept := .afterWait r.1, childReady := r.2 },
        by simp, by simp [threadRoutineAccept, here, requested, waited],
        by rwa [AcceptPc.stepsToEnd_afterWait]⟩
  | accept => exact ⟨.cancelAccept, by simp [threadRoutineAccept, here, requested]⟩
  | perror => exact ⟨.cancelPerror, by simp [threadRoutineAccept, here, requested]⟩
  | trylock fd =>
      by_cases held : s.clientReady.mutex = none
      · exact ⟨.trylockAcquired fd, by simp [threadRoutineAccept, here, held]⟩
      · exact ⟨.trylockBusy fd, by simp [threadRoutineAccept, here, held]⟩
  | store fd => exact ⟨.store fd, by simp [threadRoutineAccept, here]⟩
  | unlock fd => exact ⟨.unlock fd, by simp [threadRoutineAccept, here]⟩
  | signal fd => exact ⟨.signal fd, by simp [threadRoutineAccept, here]⟩
  | readSlot fd =>
      by_cases empty : s.clientReady.clientFd = none
      · exact ⟨.slotEmpty fd, by simp [threadRoutineAccept, here, empty]⟩
      · exact ⟨.slotTaken fd, by simp [threadRoutineAccept, here, empty]⟩
  | callWriteAll fd => exact ⟨.callWriteAll fd, by simp [threadRoutineAccept, here]⟩
  | testcancelPublished fd | testcancelSpurious fd | write fd w =>
      exact ⟨.cancelPushed fd, by
        simp [threadRoutineAccept, here, requested, AcceptPc.cancellationPoint]⟩
  | cleanupPop fd doCleanup =>
      cases doCleanup
      · exact ⟨.popNoClose fd, by simp [threadRoutineAccept, here]⟩
      · exact ⟨.popClose fd, by simp [threadRoutineAccept, here]⟩
  | cleanupRoutine fd => exact ⟨.cleanupClose fd, by simp [threadRoutineAccept, here]⟩
  | ended => exact absurd here running

theorem clientConnection_advances (requested : s.cancelRequested .clientConnection = true)
    (free : s.clientConnection.locking = true → s.clientReady.mutex = none)
    (stdin : ∃ fd, s.clientConnection.serving = true → s.childStdinFdCell = some fd)
    (created : ¬ s.NotCreated .clientConnection) (running : ¬ s.Terminated .clientConnection) :
    ∃ a s', (∀ fd c k, a ≠ .received fd c k) ∧ threadRoutineClientConnection s a = some s' ∧
      s'.clientConnection.stepsToEnd < s.clientConnection.stepsToEnd := by
  cases here : s.clientConnection with
  | notCreated => exact absurd here created
  | lock =>
      exact ⟨.lock, by
        simp [threadRoutineClientConnection, here, free, ClientConnectionPc.locking]⟩
  | test =>
      cases slot : s.clientReady.clientFd with
      | none => exact ⟨.slotEmpty, by simp [threadRoutineClientConnection, here, slot]⟩
      | some fd => exact ⟨.take fd, by simp [threadRoutineClientConnection, here, slot]⟩
  | wait => exact ⟨.wait, by simp [threadRoutineClientConnection, here]⟩
  | asleep => exact ⟨.cancelWait, by simp [threadRoutineClientConnection, here, requested]⟩
  | woken =>
      exact ⟨.relock, by
        simp [threadRoutineClientConnection, here, free, ClientConnectionPc.locking]⟩
  | cancelled =>
      exact ⟨.relockCancelled, by
        simp [threadRoutineClientConnection, here, free, ClientConnectionPc.locking]⟩
  | load => exact ⟨.load, by simp [threadRoutineClientConnection, here]⟩
  | read fd => exact ⟨.cancelRead fd, by simp [threadRoutineClientConnection, here, requested]⟩
  | callWriteAll buffer =>
      obtain ⟨fd, stored⟩ := stdin
      exact ⟨.callWriteAll buffer fd, by simp [threadRoutineClientConnection, here, stored]⟩
  | write w => exact ⟨.cancelWrite w, by simp [threadRoutineClientConnection, here, requested]⟩
  | cleanupLoad flag =>
      exact ⟨.cleanupLoad flag, by cases flag <;> simp [threadRoutineClientConnection, here]⟩
  | cleanupStore fd flag =>
      exact ⟨.cleanupStore fd flag, by cases flag <;> simp [threadRoutineClientConnection, here]⟩
  | cleanupUnlock fd flag =>
      exact ⟨.cleanupUnlock fd flag, by cases flag <;> simp [threadRoutineClientConnection, here]⟩
  | cleanupClose fd flag =>
      exact ⟨.cleanupClose fd flag, by cases flag <;> simp [threadRoutineClientConnection, here]⟩
  | ended => exact absurd here running

end

/-! ## A start-up that succeeds -/

/-- No call of usockit_server_setup_child fails, and the child reports no failure. -/
def SetsUpChild (_ : State) : Action → Prop
  | .setupChild .pipeFailed | .setupChild .reportingPipeFailed => False
  | .setupChild .fcntlFailed | .setupChild .forkFailed => False
  | .parent .readError | .parent .readShort | .parent .readFailed => False
  | _ => True

instance (s : State) (a : Action) : Decidable (SetsUpChild s a) := by
  unfold SetsUpChild
  split <;> infer_instance

def MainPc.failing : MainPc → Bool
  | .close _ ret | .cancel _ _ ret | .join _ _ ret | .release _ ret | .returned ret =>
      ret ≠ .success
  | .waitpid _ | .perror _ | .unreachable => true
  | _ => false

theorem failing_notCreated {a : Action} (life : Lifecycle s)
    (before : s.main.failing = true → s.accept = .notCreated) (setsUp : SetsUpChild s a)
    (taken : act s a = some s') : s'.main.failing = true → s'.accept = .notCreated := by
  cases a with
  | setupThreads a =>
      have fresh := life.notCreated .accept
      cases a <;> simp only [act, setupThreads, require_eq_some] at taken <;>
        obtain ⟨guard, rfl⟩ := taken
      case join t rest ret =>
        cases rest <;> simp_all [MainPc.endThreads, MainPc.failing]
      all_goals
        simp_all [MainPc.endThreads, MainPc.failing, MainPc.toCreate, State.NotCreated]
  | setupChild a =>
      cases a <;> simp only [act, setupChild, require_eq_some] at taken <;>
        obtain ⟨guard, rfl⟩ := taken
      case close p e rest ret =>
        cases rest <;> simp_all [MainPc.closeEnds, MainPc.setupChildReturned, MainPc.endThreads,
          MainPc.failing]
      case reportingPipe =>
        cases s.pipe2Support <;> simp_all [MainPc.reportingPipeCreated, MainPc.failing]
      all_goals
        simp_all [SetsUpChild, MainPc.failing]
  | parent a =>
      cases a <;> simp only [act, parent, require_eq_some] at taken <;>
        obtain ⟨guard, rfl⟩ := taken
      all_goals
        simp_all [SetsUpChild, MainPc.failing, MainPc.parentReturned, MainPc.closeEnds]
  | accept a =>
      intro failing
      have stepOf := threadRoutineAccept_stepOf taken
      rw [(act_sameMain taken id).main] at failing
      exact absurd (before failing) stepOf.created
  | clientConnection a =>
      intro failing
      rw [(act_sameMain taken id).main] at failing
      have stepOf := threadRoutineClientConnection_stepOf taken
      exact (stepOf.notCreated .accept (by simp)).mpr (before failing)
  | childWait | child | client =>
      intro failing
      rw [(act_sameMain taken id).main] at failing
      have fresh := before failing
      rcases (act_sameHandoff taken id).accept with same | same | ⟨main, -⟩
      · rw [same, fresh]
      · rw [same, fresh]
        rfl
      · simp [main, MainPc.failing] at failing

theorem failing_run (run : system.RunWhere SetsUpChild actions s) :
    s.main.failing = true → s.accept = .notCreated := by
  refine run.stateInvariant (I := fun s => s.main.failing = true → s.accept = .notCreated) ?_ ?_
  · rintro _ ⟨config, rfl⟩
    simp [State.start, MainPc.failing]
  · intro _ s a s' run before setsUp step
    exact failing_notCreated (.run run) before setsUp (system_step.mp step).2

theorem MainPc.joining_eq_some {pc : MainPc} {t : Thread} (joining : pc.joining = some t) :
    pc = .joinAccept ∧ t = .accept ∨ ∃ rest ret, pc = .join t rest ret := by
  cases pc <;> simp_all [MainPc.joining]

/-- When setup_threads joins the accept or the child-wait thread after a successful run of the
child, usockit_server_parent has joined it before. -/
theorem joined_after_success {t : Thread} {rest : List Thread} (life : Lifecycle s)
    (here : s.main = .join t rest .success) (joined : t = .childWait ∨ t = .accept) :
    s.Terminated t := by
  have created := life.created t (by simp [here, MainPc.created])
  have gone := life.gone t (by rcases joined with rfl | rfl <;> simp)
    (.inr (by simp [here, MainPc.joined, joinedByParent, joined]))
  exact gone.resolve_left created

theorem ChildWaitPc.not_holds {pc : ChildWaitPc} (locking : pc.locking = true) :
    pc.holdsChildReady = false := by
  cases pc with
  | waitForChildReady w => cases w <;> simp_all [ChildWaitPc.locking, WaitPc.locking]
  | _ => rfl

theorem AcceptPc.not_holds {pc : AcceptPc} (locking : pc.locking = true) :
    pc.holdsChildReady = false := by
  cases pc with
  | waitForChildReady w => cases w <;> simp_all [AcceptPc.locking, WaitPc.locking]
  | _ => rfl

theorem ClientConnectionPc.not_holds {pc : ClientConnectionPc} (locking : pc.locking = true) :
    pc.holdsClientReady = false := by
  cases pc <;> simp_all [ClientConnectionPc.locking]

theorem ChildReadyOwned.free (owned : ChildReadyOwned s)
    (main : s.main.holdsChildReady = false) (childWait : s.childWait.holdsChildReady = false)
    (childWaitEnded : ¬ (s.childWait = .ended ∧ s.cancelRequested .childWait = true))
    (accept : s.accept.holdsChildReady = false) (acceptEnded : s.accept ≠ .ended) :
    s.childReady.mutex = none := by
  cases owner : s.childReady.mutex with
  | none => rfl
  | some t =>
      cases t with
      | main => simpa [main] using owned.main.owner owner
      | childWait => simpa [childWait, childWaitEnded] using owned.childWait.owner owner
      | accept => simpa [accept, acceptEnded] using owned.accept.owner owner
      | clientConnection => exact absurd owner owned.clientConnection

theorem ClientReadyOwned.free (owned : ClientReadyOwned s)
    (accept : s.accept.holdsClientReady = false)
    (clientConnection : s.clientConnection.holdsClientReady = false)
    (running : s.clientConnection ≠ .ended) : s.clientReady.mutex = none := by
  cases owner : s.clientReady.mutex with
  | none => rfl
  | some t =>
      cases t with
      | main => exact absurd owner owned.main
      | childWait => exact absurd owner owned.childWait
      | accept => simp [owned.accept.mp owner] at accept
      | clientConnection => simpa [clientConnection, running] using owned.owner owner

/-- While main joins a thread that has not ended, the mutex that this one may wait for is free. -/
theorem joining_free {t : Thread} (run : system.RunWhere SetsUpChild actions s)
    (joining : s.main.joining = some t) (running : ¬ s.Terminated t) :
    s.blockedOn t = none := by
  have life := Lifecycle.run run
  have progress := Progress.run run
  have owned := ChildReadyOwned.run run
  have failing := failing_run run
  have requested := progress.requested t joining
  cases t with
  | main =>
      rcases MainPc.joining_eq_some joining with ⟨here, -⟩ | ⟨rest, ret, here⟩ <;>
        simp [State.blockedOn, here]
  | childWait =>
      obtain ⟨rest, ret, here⟩ : ∃ rest ret, s.main = .join .childWait rest ret := by
        simpa using MainPc.joining_eq_some joining
      have failed : ret ≠ .success := by
        rintro rfl
        exact running (joined_after_success life here (.inl rfl))
      have notCreated := failing (by simp [here, MainPc.failing, failed])
      simp only [State.blockedOn, ite_eq_right_iff]
      intro locking
      exact owned.free (by simp [here, MainPc.holdsChildReady]) (ChildWaitPc.not_holds locking)
        (fun ended => running ended.1) (by simp [notCreated]) (by simp [notCreated])
  | accept =>
      simp only [State.blockedOn, ite_eq_right_iff]
      intro locking
      rcases MainPc.joining_eq_some joining with ⟨here, -⟩ | ⟨rest, ret, here⟩
      · have gone := life.gone .childWait (by simp) (.inr (by simp [here, MainPc.joined]))
        have notRequested := progress.uncancelled .childWait (by simp [here, MainPc.uncancelled])
        refine owned.free (by simp [here, MainPc.holdsChildReady]) ?_ (by simp [notRequested])
          (AcceptPc.not_holds locking) running
        rcases gone with notCreated | ended
        · simp_all [State.NotCreated]
        · simp_all [State.Terminated]
      · have failed : ret ≠ .success := by
          rintro rfl
          exact running (joined_after_success life here (.inr rfl))
        simp [failing (by simp [here, MainPc.failing, failed]), AcceptPc.locking] at locking
  | clientConnection =>
      simp only [State.blockedOn, ite_eq_right_iff]
      intro locking
      refine (ClientReadyOwned.run run).free ?_ (ClientConnectionPc.not_holds locking) running
      rcases life.accept_gone progress requested with notCreated | ended
      · simp_all [State.NotCreated]
      · simp_all [State.Terminated]

theorem shutdown_no_deadlock (run : system.RunWhere SetsUpChild actions s) :
    ¬ s.JoinDeadlocked ∧
      ∀ t, s.main.joining = some t → s.cancelRequested t = true ∧
        (s.killed = false → ¬ s.Terminated t →
          ∃ a s', a.thread = some t ∧ system.step s a = some s' ∧
            s'.stepsToEnd t < s.stepsToEnd t) := by
  have life := Lifecycle.run run
  have progress := Progress.run run
  constructor
  · rintro ⟨t, owner, joining, blocked, -⟩
    have running : ¬ s.Terminated t := by
      intro ended
      cases t <;> simp_all [State.Terminated, State.blockedOn, ChildWaitPc.locking,
        AcceptPc.locking, ClientConnectionPc.locking]
    simp [joining_free run joining running] at blocked
  · intro t joining
    refine ⟨progress.requested t joining, fun alive running => ?_⟩
    have requested := progress.requested t joining
    have free := joining_free run joining running
    have created : ¬ s.NotCreated t := by
      apply life.created
      rcases MainPc.joining_eq_some joining with ⟨here, rfl⟩ | ⟨rest, ret, here⟩ <;>
        simp [here, MainPc.created]
    cases t with
    | main =>
        have toJoin := progress.toJoin
        rcases MainPc.joining_eq_some joining with ⟨-, impossible⟩ | ⟨rest, ret, here⟩
        · cases impossible
        · simp [here, MainPc.toJoin, List.suffix_cons_iff] at toJoin
    | childWait =>
        obtain ⟨a, s', taken, closer⟩ := childWait_advances requested
          (by simpa [State.blockedOn] using free) created running
        exact ⟨.childWait a, s', rfl, system_step.mpr ⟨alive, taken⟩, closer⟩
    | accept =>
        obtain ⟨a, s', -, taken, closer⟩ := accept_advances requested
          (by simpa [State.blockedOn] using free) created running
        exact ⟨.accept a, s', rfl, system_step.mpr ⟨alive, taken⟩, closer⟩
    | clientConnection =>
        obtain ⟨a, s', -, taken, closer⟩ := clientConnection_advances requested
          (by simpa [State.blockedOn] using free) ⟨_, serving_stdin run⟩ created running
        exact ⟨.clientConnection a, s', rfl, system_step.mpr ⟨alive, taken⟩, closer⟩

def createFails : List Action :=
  [.setupThreads .createChildWait, .setupThreads .createClientConnectionFailed,
   .setupThreads (.cancel .childWait [] .unknown)]

theorem shutdown_no_deadlock_createFails :
    ∃ s, system.exec (.start .shell) createFails = some s ∧ ¬ s.JoinDeadlocked ∧
      ∃ a s', system.step s a = some s' ∧ s'.stepsToEnd .childWait < s.stepsToEnd .childWait := by
  obtain ⟨s, path, joining, alive, running⟩ :
      ∃ s, system.exec (.start .shell) createFails = some s ∧
        s.main.joining = some .childWait ∧ s.killed = false ∧ ¬ s.Terminated .childWait :=
    System.exists_exec (by decide +kernel)
  have run : system.RunWhere SetsUpChild createFails s :=
    System.runWhere_of_exec ⟨_, rfl⟩ path (by decide +kernel)
  obtain ⟨free, advances⟩ := shutdown_no_deadlock run
  obtain ⟨a, s', -, step, closer⟩ := (advances .childWait joining).2 alive running
  exact ⟨s, path, free, a, s', step, closer⟩

/-- fork() fails while both threads wait for the child, and all threads are cancelled. -/
def forkFails : List Action :=
  [.setupThreads .createChildWait, .setupThreads .createClientConnection,
   .setupThreads .createAccept,
   .childWait (.waitForChildReady .lock .lock),
   .childWait (.waitForChildReady .test .testNotReady),
   .childWait (.waitForChildReady .wait .wait),
   .accept (.waitForChildReady .lock .lock), .accept (.waitForChildReady .test .testNotReady),
   .accept (.waitForChildReady .wait .wait),
   .clientConnection .lock, .clientConnection .slotEmpty, .clientConnection .wait,
   .setupChild .pipe, .setupChild .reportingPipe, .setupChild .forkFailed,
   .setupChild (.close .reporting .write
     [(.reporting, .read), (.main, .write), (.main, .read)] .unknown),
   .setupChild (.close .reporting .read [(.main, .write), (.main, .read)] .unknown),
   .setupChild (.close .main .write [(.main, .read)] .unknown),
   .setupChild (.close .main .read [] .unknown),
   .setupThreads (.cancel .accept [.clientConnection, .childWait] .unknown),
   .accept (.waitForChildReady .asleep .cancel),
   .accept (.waitForChildReady .cancelled .relockCancelled),
   .setupThreads (.join .accept [.clientConnection, .childWait] .unknown),
   .setupThreads (.cancel .clientConnection [.childWait] .unknown),
   .clientConnection .cancelWait, .clientConnection .relockCancelled,
   .setupThreads (.join .clientConnection [.childWait] .unknown),
   .setupThreads (.cancel .childWait [] .unknown),
   .childWait (.waitForChildReady .asleep .cancel)]

theorem shutdown_deadlocks : ¬ ∀ actions s, system.Run actions s → ¬ s.JoinDeadlocked := by
  intro claim
  obtain ⟨s, path, joining, blocked, ended⟩ :
      ∃ s, system.exec (.start .shell) forkFails = some s ∧
        s.main.joining = some .childWait ∧ s.blockedOn .childWait = some .accept ∧
        s.Terminated .accept :=
    System.exists_exec (by decide +kernel)
  exact claim _ s (System.run_of_exec ⟨_, rfl⟩ path) ⟨_, _, joining, blocked, ended⟩

end Usockit.Server
