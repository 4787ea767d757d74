import Usockit.Server.Reaping
import Usockit.Server.Setup
import Usockit.Server.Shutdown
import Usockit.Server.Sigpipe
import Usockit.Server.Startup
import Usockit.Server.ThreadHandles
import Usockit.Server.Wakeup

namespace Usockit.Server
open Foundation

variable {s s' : State} {actions : List Action} {a : Action}

/-! ## The child that main has forked -/

def MainPc.forked : MainPc → Bool
  | .closeReportingWrite | .closeMainRead | .storeChildPid => true
  | pc => pc.pidStored

def Forked (s : State) : Prop :=
  s.main.forked = true → s.kernel.child.pc ≠ .unborn ∧ s.kernel.child.pid = s.childPid

theorem MainPc.forked_of_pidStored {pc : MainPc} (stored : pc.pidStored = true) :
    pc.forked = true := by
  unfold forked
  split <;> simp [stored]

theorem act_born (taken : act s a = some s') (noFork : ∀ pid, a ≠ .setupChild (.fork pid))
    (born : s.kernel.child.pc ≠ .unborn) :
    s'.kernel.child.pc ≠ .unborn ∧ s'.kernel.child.pid = s.kernel.child.pid := by
  rcases act_child taken with same | ⟨pid, fork, -⟩ | ⟨-, -, reaped⟩ | ⟨b, rfl, stepped⟩
  · rw [same]
    exact ⟨born, rfl⟩
  · exact absurd fork (noFork pid)
  · simp [reaped]
  · cases b <;> simp only [child, require_eq_some] at stepped <;> obtain ⟨guard, same⟩ := stepped
    case programReads | programWrites => simpa [← same] using born
    all_goals simp [← same]

section
attribute [local simp] MainPc.forked MainPc.pidStored MainPc.stdinStored MainPc.ready
  MainPc.endThreads MainPc.closeEnds MainPc.setupChildReturned MainPc.parentReturned
  MainPc.afterChildError MainPc.reportingPipeCreated

theorem act_forked (taken : act s a = some s') (noFork : ∀ pid, a ≠ .setupChild (.fork pid)) :
    (s'.main.forked = true → s.main.forked = true) ∧ s'.childPid = s.childPid := by
  cases a with
  | setupThreads a =>
      cases a <;> simp only [act, setupThreads, require_eq_some] at taken <;>
        obtain ⟨guard, rfl⟩ := taken
      case join t rest ret => cases rest <;> simp [guard]
      all_goals simp [guard]
  | setupChild a =>
      cases a <;> simp only [act, setupChild, require_eq_some] at taken <;>
        obtain ⟨guard, rfl⟩ := taken
      case fork pid => exact absurd rfl (noFork pid)
      case close p e rest ret => cases rest <;> simp [guard]
      case reportingPipe => cases s.pipe2Support <;> simp
      all_goals simp [guard]
  | parent a =>
      cases a <;> simp only [act, parent, require_eq_some] at taken <;>
        obtain ⟨guard, rfl⟩ := taken
      case waitpid error | waitpidFailed error => cases error <;> simp
      case readEof | readError | readShort => simp [guard.1.1]
      all_goals simp [guard]
  | childWait | accept | clientConnection | child | client =>
      have same := act_sameMain taken id
      exact ⟨by simp [same.main], same.childPid⟩

end

theorem Forked.act (forked : Forked s) (taken : act s a = some s') : Forked s' := by
  intro later
  by_cases fork : ∃ pid, a = .setupChild (.fork pid)
  · obtain ⟨pid, rfl⟩ := fork
    simp only [Server.act, setupChild, require_eq_some] at taken
    obtain ⟨-, rfl⟩ := taken
    simp [Kernel.fork]
  · have noFork : ∀ pid, a ≠ .setupChild (.fork pid) := fun pid same => fork ⟨pid, same⟩
    obtain ⟨earlier, childPid⟩ := act_forked taken noFork
    obtain ⟨born, pid⟩ := forked (earlier later)
    obtain ⟨stays, same⟩ := act_born taken noFork born
    exact ⟨stays, by rw [same, childPid, pid]⟩

theorem Forked.run {ok : State → Action → Prop} (run : system.RunWhere ok actions s) :
    Forked s := by
  refine run.stateInvariant ?_ ?_
  · rintro _ ⟨config, rfl⟩
    simp [Forked, State.start, MainPc.forked, MainPc.pidStored, MainPc.stdinStored, MainPc.ready]
  · exact fun _ _ _ _ _ forked _ step => forked.act (system_step.mp step).2

/-! ## A start-up that has succeeded -/

section
attribute [local simp] MainPc.failing MainPc.endThreads MainPc.closeEnds
  MainPc.setupChildReturned MainPc.parentReturned MainPc.afterChildError

theorem failing_mono (taken : act s a = some s') (failing : s.main.failing = true) :
    s'.main.failing = true := by
  cases a with
  | setupThreads a =>
      cases a <;> simp only [act, setupThreads, require_eq_some] at taken <;>
        obtain ⟨guard, rfl⟩ := taken
      case join t rest ret => cases rest <;> simp_all
      all_goals simp_all
  | setupChild a =>
      cases a <;> simp only [act, setupChild, require_eq_some] at taken <;>
        obtain ⟨guard, rfl⟩ := taken
      case close p e rest ret => cases rest <;> simp_all
      all_goals simp_all
  | parent a =>
      cases a <;> simp only [act, parent, require_eq_some] at taken <;>
        obtain ⟨guard, rfl⟩ := taken
      case waitpid error | waitpidFailed error => cases error <;> simp
      case readEof | readError | readShort => simp [guard.1.1] at failing
      all_goals simp_all
  | childWait | accept | clientConnection | child | client =>
      rw [(act_sameMain taken id).main]
      exact failing

theorem failing_of_setup (taken : act s a = some s') (fails : ¬ SetsUpChild s a) :
    s'.main.failing = true := by
  cases a with
  | setupChild a | parent a =>
      cases a <;> simp only [SetsUpChild, not_true_eq_false] at fails <;>
        simp only [act, setupChild, parent, require_eq_some] at taken <;>
        obtain ⟨guard, rfl⟩ := taken <;> simp
  | setupThreads | childWait | accept | clientConnection | child | client =>
      exact absurd trivial fails

end

/-- Only a run that main has given up has a call of the start-up that failed. -/
theorem setsUpChild_or_failing (run : system.Run actions s) :
    system.RunWhere SetsUpChild actions s ∨ s.main.failing = true := by
  induction run with
  | start initial => exact .inl (.start initial)
  | @snoc actions s a s' _ _ step ih =>
      have taken := (system_step.mp step).2
      rcases ih with setUp | failing
      · by_cases meets : SetsUpChild s a
        · exact .inl (.snoc setUp meets step)
        · exact .inr (failing_of_setup taken meets)
      · exact .inr (failing_mono taken failing)

theorem MainPc.not_failing {pc : MainPc} (saw : pc.sawEnd = true) : pc.failing = false := by
  cases pc <;> simp_all [MainPc.sawEnd, MainPc.ready, MainPc.failing]

theorem setsUpChild_of_sawEnd (run : system.Run actions s) (saw : s.main.sawEnd = true) :
    system.RunWhere SetsUpChild actions s :=
  (setsUpChild_or_failing run).resolve_right (by simp [MainPc.not_failing saw])

/-! ## The way to the return -/

def MainPc.stepsToReturn : MainPc → Nat
  | .lock => 28
  | .setCondition => 27
  | .unlock => 26
  | .broadcast => 25
  | .joinChildWait => 24
  | .cancelAccept => 23
  | .joinAccept => 22
  | .close ends _ => 19 + ends.length
  | .cancel _ rest _ => 14 + 2 * rest.length
  | .join _ rest _ => 13 + 2 * rest.length
  | .release ops _ => 1 + ops.length
  | _ => 0

structure MainPc.OnTheWay (pc : MainPc) : Prop where
  closing : ∀ ret, pc ≠ .close [] ret
  steps : pc.stepsToReturn ≤ 28

section
attribute [local simp] MainPc.stepsToReturn MainPc.endThreads MainPc.closeEnds
  MainPc.setupChildReturned MainPc.parentReturned MainPc.afterChildError
  MainPc.reportingPipeCreated

theorem MainPc.OnTheWay.act (way : s.main.OnTheWay) (taken : act s a = some s') :
    s'.main.OnTheWay := by
  have steps := way.steps
  cases a with
  | setupThreads a =>
      cases a <;> simp only [Server.act, setupThreads, require_eq_some] at taken <;>
        obtain ⟨guard, rfl⟩ := taken
      case join t rest ret =>
        simp only [guard, MainPc.stepsToReturn] at steps
        cases rest with
        | nil => constructor <;> simp [releaseOps]
        | cons u rest =>
            simp only [List.length_cons] at steps
            exact ⟨by simp, by simp only [endThreads, stepsToReturn]; omega⟩
      case cancel t rest ret =>
        simp only [guard, MainPc.stepsToReturn] at steps
        exact ⟨by simp, by simp only [stepsToReturn]; omega⟩
      case release op rest ret =>
        simp only [guard, MainPc.stepsToReturn, List.length_cons] at steps
        exact ⟨by simp, by simp only [stepsToReturn]; omega⟩
      all_goals constructor <;> simp [releaseOps]
  | setupChild a =>
      cases a <;> simp only [Server.act, setupChild, require_eq_some] at taken <;>
        obtain ⟨guard, rfl⟩ := taken
      case close p e rest ret =>
        simp only [guard, MainPc.stepsToReturn, List.length_cons] at steps
        cases rest with
        | nil => constructor <;> simp
        | cons first rest =>
            simp only [List.length_cons] at steps
            exact ⟨by simp, by simp only [closeEnds, stepsToReturn, List.length_cons]; omega⟩
      case reportingPipe => cases s.pipe2Support <;> constructor <;> simp
      all_goals constructor <;> simp
  | parent a =>
      cases a <;> simp only [Server.act, parent, require_eq_some] at taken <;>
        obtain ⟨guard, rfl⟩ := taken
      case waitpid error | waitpidFailed error => cases error <;> constructor <;> simp
      case perrorSigpipe => exact way
      all_goals constructor <;> simp
  | childWait | accept | clientConnection | child | client =>
      rwa [(act_sameMain taken id).main]

end

theorem MainPc.OnTheWay.run {ok : State → Action → Prop} (run : system.RunWhere ok actions s) :
    s.main.OnTheWay := by
  refine run.stateInvariant (I := fun s => s.main.OnTheWay) ?_ ?_
  · rintro _ ⟨config, rfl⟩
    constructor <;> simp [State.start, MainPc.stepsToReturn]
  · exact fun _ _ _ _ _ way _ step => way.act (system_step.mp step).2

def ChildPc.stepsToExit : ChildPc → Nat
  | .program | .exit => 1
  | _ => 0

/-- A step of main may wake two threads, and a step of the accept thread the connection thread. -/
def State.stepsToReturn (s : State) : Nat :=
  64 * s.main.stepsToReturn + 8 * s.accept.stepsToEnd + s.childWait.stepsToEnd +
    s.clientConnection.stepsToEnd + s.kernel.child.pc.stepsToExit

/-- A step of a thread of the server, or the exit of the child. No accept() fails, and nothing more
is read for the program. -/
def Action.Returning : Action → Prop
  | .client _ | .accept .acceptFailed | .clientConnection (.received _ _ _) => False
  | .child a => a = .programExits ∨ a = .exit
  | _ => True

/-- A step in perror(), or in the write_all of the connection thread. -/
def Action.inWrite : Action → Bool
  | .parent (.perror _ _ _ _) | .parent (.perrorSigpipe _ _) => true
  | .accept (.perror _ _ _) | .accept (.perrorSigpipe _) | .accept .cancelPerror => true
  | .clientConnection (.callWriteAll _ _) | .clientConnection (.wrote _ _ _) => true
  | .clientConnection (.writeFailed _) | .clientConnection (.cancelWrite _) => true
  | .clientConnection (.writeSigpipe _) => true
  | _ => false

def Action.OfReturn (a : Action) : Prop := a.Returning ∧ a.inWrite = false

def State.Advances (s : State) : Prop :=
  ∃ a s', a.Returning ∧ act s a = some s' ∧ s'.stepsToReturn < s.stepsToReturn

theorem AcceptPc.stepsToEnd_le (pc : AcceptPc) : pc.stepsToEnd ≤ 5 := by
  cases pc with
  | waitForChildReady w => cases w <;> decide
  | _ => simp [stepsToEnd]

theorem ChildWaitPc.stepsToEnd_le (pc : ChildWaitPc) : pc.stepsToEnd ≤ 5 := by
  cases pc with
  | waitForChildReady w => cases w <;> decide
  | _ => simp [stepsToEnd]

theorem ClientConnectionPc.stepsToEnd_le (pc : ClientConnectionPc) : pc.stepsToEnd ≤ 12 := by
  unfold stepsToEnd
  split <;> simp

theorem ChildPc.stepsToExit_le (pc : ChildPc) : pc.stepsToExit ≤ 1 := by
  unfold stepsToExit
  split <;> simp

theorem ClientConnectionPc.stepsToEnd_signalled (pc : ClientConnectionPc) :
    pc.signalled.stepsToEnd ≤ pc.stepsToEnd + 6 := by
  unfold signalled
  split
  · decide
  · omega

theorem State.Advances.main (ofMain : a.OfMain) (taken : act s a = some s')
    (closer : s'.main.stepsToReturn < s.main.stepsToReturn) : s.Advances := by
  refine ⟨a, s', ?_, taken, ?_⟩
  · cases a <;> simp_all [Action.OfMain, Action.Returning]
  · have accept := s'.accept.stepsToEnd_le
    have childWait := s'.childWait.stepsToEnd_le
    have clientConnection := s'.clientConnection.stepsToEnd_le
    have child := s'.kernel.child.pc.stepsToExit_le
    simp only [State.stepsToReturn]
    omega

theorem State.Advances.childWait {a : ChildWaitAction}
    (taken : threadRoutineChildWait s a = some s')
    (closer : s'.childWait.stepsToEnd < s.childWait.stepsToEnd) : s.Advances := by
  refine ⟨.childWait a, s', trivial, taken, ?_⟩
  have main := (threadRoutineChildWait_sameMain taken).main
  have others : s'.accept = s.accept ∧ s'.clientConnection = s.clientConnection ∧
      s'.kernel.child.pc.stepsToExit = s.kernel.child.pc.stepsToExit := by
    cases a <;> simp only [threadRoutineChildWait, require_eq_some, Option.ite_none_right_eq_some,
      Option.map_eq_some_iff] at taken
    case waitForChildReady =>
      obtain ⟨-, r, -, rfl⟩ := taken
      exact ⟨rfl, rfl, rfl⟩
    case waitpid =>
      obtain ⟨⟨-, -, zombie⟩, rfl⟩ := taken
      exact ⟨rfl, rfl, by simp [zombie, ChildPc.stepsToExit]⟩
    all_goals
      obtain ⟨-, rfl⟩ := taken
      exact ⟨rfl, rfl, rfl⟩
  simp only [State.stepsToReturn, main, others]
  omega

theorem State.Advances.accept {a : AcceptAction} (accepts : a ≠ .acceptFailed)
    (taken : threadRoutineAccept s a = some s')
    (closer : s'.accept.stepsToEnd < s.accept.stepsToEnd) : s.Advances := by
  refine ⟨.accept a, s', by cases a <;> trivial, taken, ?_⟩
  have main := (threadRoutineAccept_sameMain taken).main
  have woken := s.clientConnection.stepsToEnd_signalled
  have others : s'.childWait = s.childWait ∧ s'.kernel.child = s.kernel.child ∧
      s'.clientConnection.stepsToEnd ≤ s.clientConnection.stepsToEnd + 6 := by
    cases a <;> simp only [threadRoutineAccept, require_eq_some, Option.ite_none_right_eq_some,
      Option.map_eq_some_iff] at taken
    case waitForChildReady =>
      obtain ⟨-, r, -, rfl⟩ := taken
      exact ⟨rfl, rfl, Nat.le_add_right _ _⟩
    case signal =>
      obtain ⟨-, rfl⟩ := taken
      exact ⟨rfl, rfl, woken⟩
    all_goals
      obtain ⟨-, rfl⟩ := taken
      exact ⟨rfl, by simp, Nat.le_add_right _ _⟩
  simp only [State.stepsToReturn, main, others]
  omega

theorem State.Advances.clientConnection {a : ClientConnectionAction}
    (reads : ∀ fd c k, a ≠ .received fd c k) (taken : threadRoutineClientConnection s a = some s')
    (closer : s'.clientConnection.stepsToEnd < s.clientConnection.stepsToEnd) : s.Advances := by
  refine ⟨.clientConnection a, s', by cases a <;> first | trivial | exact reads _ _ _ rfl, taken,
    ?_⟩
  have main := (threadRoutineClientConnection_sameMain taken).main
  have others : s'.accept = s.accept ∧ s'.childWait = s.childWait ∧
      s'.kernel.child = s.kernel.child := by
    cases a <;> simp only [threadRoutineClientConnection, require_eq_some] at taken <;>
      obtain ⟨-, rfl⟩ := taken <;> simp
  simp only [State.stepsToReturn, main, others]
  omega

/-! ## What main waits for -/

section
attribute [local simp] WaitPc.stepsToEnd WaitOutcome.stepsToEnd

theorem waitForChildReady_goesOn {info : ChildReadyInfo} {w : WaitPc} (t : Thread)
    (requested : Bool) (free : w.locking = true → info.mutex = none) (awake : w ≠ .asleep)
    (uncancelled : w ≠ .cancelled) :
    ∃ a r, waitForChildReady t requested info w a = some r ∧ r.1.stepsToEnd < w.stepsToEnd := by
  cases w with
  | lock => exact ⟨.lock, by simp [waitForChildReady, free rfl]⟩
  | test =>
      cases ready : info.condition
      · exact ⟨.testNotReady, by simp [waitForChildReady, ready]⟩
      · exact ⟨.testReady, by simp [waitForChildReady, ready]⟩
  | wait => exact ⟨.wait, by simp [waitForChildReady]⟩
  | woken => exact ⟨.relock, by simp [waitForChildReady, free rfl]⟩
  | unlock => exact ⟨.unlock, by simp [waitForChildReady]⟩
  | asleep => exact absurd rfl awake
  | cancelled => exact absurd rfl uncancelled

end

theorem childWait_goesOn {w : WaitPc} (here : s.childWait = .waitForChildReady w)
    (free : w.locking = true → s.childReady.mutex = none) (awake : w ≠ .asleep)
    (uncancelled : w ≠ .cancelled) : s.Advances := by
  obtain ⟨a, r, waited, closer⟩ := waitForChildReady_goesOn .childWait
    (s.cancelRequested .childWait) free awake uncancelled
  have taken : threadRoutineChildWait s (.waitForChildReady w a) =
      some { s with childWait := .afterWait r.1, childReady := r.2 } := by
    simp [threadRoutineChildWait, here, waited]
  exact .childWait taken (by rwa [here, ChildWaitPc.stepsToEnd_afterWait])

theorem accept_goesOn {w : WaitPc} (here : s.accept = .waitForChildReady w)
    (free : w.locking = true → s.childReady.mutex = none) (awake : w ≠ .asleep)
    (uncancelled : w ≠ .cancelled) : s.Advances := by
  obtain ⟨a, r, waited, closer⟩ := waitForChildReady_goesOn .accept
    (s.cancelRequested .accept) free awake uncancelled
  have taken : threadRoutineAccept s (.waitForChildReady w a) =
      some { s with accept := .afterWait r.1, childReady := r.2 } := by
    simp [threadRoutineAccept, here, waited]
  exact .accept (by simp) taken (by rwa [here, AcceptPc.stepsToEnd_afterWait])

theorem childWait_leaves (holds : s.childWait.holdsChildReady = true) : s.Advances := by
  obtain ⟨w, here, inside⟩ : ∃ w, s.childWait = .waitForChildReady w ∧ w.holds = true := by
    cases here : s.childWait <;> simp_all
  refine childWait_goesOn here ?_ (by rintro rfl; simp at inside) (by rintro rfl; simp at inside)
  cases w <;> simp_all [WaitPc.locking]

theorem accept_leaves (holds : s.accept.holdsChildReady = true) : s.Advances := by
  obtain ⟨w, here, inside⟩ : ∃ w, s.accept = .waitForChildReady w ∧ w.holds = true := by
    cases here : s.accept <;> simp_all
  refine accept_goesOn here ?_ (by rintro rfl; simp at inside) (by rintro rfl; simp at inside)
  cases w <;> simp_all [WaitPc.locking]

/-- Whoever has the mutex of child_ready_info before main cancels a thread can leave it. -/
theorem locked_advances (run : system.Run actions s)
    (uncancelled : s.main.uncancelled = [.accept, .clientConnection, .childWait])
    (outside : s.main.holdsChildReady = false) (locked : s.childReady.mutex ≠ none) :
    s.Advances := by
  have owned := ChildReadyOwned.run run
  have progress := Progress.run run
  obtain ⟨t, owner⟩ := Option.ne_none_iff_exists'.mp locked
  cases t with
  | main => simpa [outside] using owned.main.owner owner
  | childWait =>
      have notRequested := progress.uncancelled .childWait (by simp [uncancelled])
      exact childWait_leaves ((owned.childWait.owner owner).resolve_right (by simp [notRequested]))
  | accept =>
      have notRequested := progress.uncancelled .accept (by simp [uncancelled])
      refine accept_leaves ((owned.accept.owner owner).resolve_right fun ended => ?_)
      simp [(CancelRequested.run run).accept (by simp [ended])] at notRequested
  | clientConnection => exact absurd owner owned.clientConnection

theorem childWait_waitpid_advances (run : system.Run actions s) (here : s.childWait = .waitpid) :
    s.Advances := by
  have ready := (Lifecycle.run run).childWait (by simp [here])
  have saw := MainPc.sawEnd_of_ready ready
  have stored := MainPc.pidStored_of_stdinStored (MainPc.stdinStored_of_ready ready)
  obtain ⟨born, pid⟩ := Forked.run run (MainPc.forked_of_pidStored stored)
  have cell : s.childPidCell = some s.kernel.child.pid := by
    rw [((Stores.run run).pid stored).2, pid]
  have past := (Silence.run run).closed saw
  cases child : s.kernel.child.pc with
  | zombie =>
      have taken : threadRoutineChildWait s .waitpid =
          some { s with childWait := .ended, kernel := s.kernel.reap } := by
        simp [threadRoutineChildWait, here, cell, child]
      exact .childWait taken (by simp [here, ChildWaitPc.stepsToEnd])
  | reaped =>
      have taken : threadRoutineChildWait s .waitpidFailed =
          some { s with childWait := .ended } := by
        simp [threadRoutineChildWait, here, cell, child]
      exact .childWait taken (by simp [here, ChildWaitPc.stepsToEnd])
  | program =>
      refine ⟨.child .programExits, { s with kernel := s.kernel.setChild .zombie .empty }, .inl rfl,
        by simp [act, Server.child, child], ?_⟩
      simp [State.stepsToReturn, child, ChildPc.stepsToExit]
  | exit =>
      refine ⟨.child .exit, { s with kernel := s.kernel.setChild .zombie .empty }, .inr rfl,
        by simp [act, Server.child, child], ?_⟩
      simp [State.stepsToReturn, child, ChildPc.stepsToExit]
  | unborn => exact absurd child born
  | _ => simp [child, ChildPc.beforeExit] at past

theorem joinChildWait_advances (run : system.Run actions s) (here : s.main = .joinChildWait)
    (running : ¬ s.Terminated .childWait) : s.Advances := by
  have progress := Progress.run run
  have created := (Lifecycle.run run).created .childWait (by simp [here, MainPc.created])
  cases pc : s.childWait with
  | notCreated => exact absurd pc created
  | ended => exact absurd pc running
  | waitpid => exact childWait_waitpid_advances run pc
  | waitForChildReady w =>
      by_cases free : s.childReady.mutex = none
      · refine childWait_goesOn pc (fun _ => free) ?_ ?_
        · rintro rfl
          have set : s.childReady.condition = true := by
            rw [progress.condition, here]
            rfl
          have unbroadcast := (BothAttentive.run run).childWait.asleep (by simp [pc]) set
          simp [here, MainPc.unbroadcast] at unbroadcast
        · rintro rfl
          have notRequested := progress.uncancelled .childWait (by simp [here, MainPc.uncancelled])
          simp [(CancelRequested.run run).childWait (by simp [pc])] at notRequested
      · exact locked_advances run (by simp [here, MainPc.uncancelled])
          (by simp [here, MainPc.holdsChildReady]) free

/-- main has cancelled the thread that it joins. -/
theorem joining_advances {t : Thread} (run : system.RunWhere SetsUpChild actions s)
    (joining : s.main.joining = some t) (running : ¬ s.Terminated t) : s.Advances := by
  have requested := (Progress.run run).requested t joining
  have free := joining_free run joining running
  have created : ¬ s.NotCreated t := by
    apply (Lifecycle.run run).created
    rcases MainPc.joining_eq_some joining with ⟨here, rfl⟩ | ⟨rest, ret, here⟩ <;>
      simp [here, MainPc.created]
  cases t with
  | main =>
      have toJoin := (Progress.run run).toJoin
      rcases MainPc.joining_eq_some joining with ⟨-, impossible⟩ | ⟨rest, ret, here⟩
      · cases impossible
      · simp [here, MainPc.toJoin, List.suffix_cons_iff] at toJoin
  | childWait =>
      obtain ⟨a, s', taken, closer⟩ := childWait_advances requested
        (by simpa [State.blockedOn] using free) created running
      exact .childWait taken closer
  | accept =>
      obtain ⟨a, s', accepts, taken, closer⟩ := accept_advances requested
        (by simpa [State.blockedOn] using free) created running
      exact .accept accepts taken closer
  | clientConnection =>
      obtain ⟨a, s', reads, taken, closer⟩ := clientConnection_advances requested
        (by simpa [State.blockedOn] using free) ⟨_, serving_stdin run⟩ created running
      exact .clientConnection reads taken closer

section
attribute [local simp] MainPc.stepsToReturn MainPc.endThreads MainPc.closeEnds
  MainPc.setupChildReturned MainPc.parentReturned

theorem lock_advances (run : system.Run actions s) (here : s.main = .lock) : s.Advances := by
  by_cases free : s.childReady.mutex = none
  · exact .main (a := .parent .lock) trivial (require_eq_some.mpr ⟨⟨here, free⟩, rfl⟩)
      (by simp [here])
  · exact locked_advances run (by simp [here, MainPc.uncancelled])
      (by simp [here, MainPc.holdsChildReady]) free

theorem join_advances {t : Thread} {rest : List Thread} {ret : RetStatus}
    (run : system.RunWhere SetsUpChild actions s) (here : s.main = .join t rest ret) :
    s.Advances := by
  by_cases ended : s.Terminated t
  · refine .main (a := .setupThreads (.join t rest ret)) trivial
      (require_eq_some.mpr ⟨⟨here, ended⟩, rfl⟩) ?_
    cases rest <;> simp [here, releaseOps]
    omega
  · exact joining_advances run (by simp [here, MainPc.joining]) ended

theorem close_advances {ends : List (Pipe × PipeEnd)} {ret : RetStatus}
    (run : system.Run actions s) (here : s.main = .close ends ret) : s.Advances := by
  cases ends with
  | nil => exact absurd here ((MainPc.OnTheWay.run run).closing ret)
  | cons first rest =>
      refine .main (a := .setupChild (.close first.1 first.2 rest ret)) trivial
        (require_eq_some.mpr ⟨here, rfl⟩) ?_
      cases rest <;> simp [here]

theorem release_advances {ops : List ReleaseOp} {ret : RetStatus}
    (here : s.main = .release ops ret) : s.Advances := by
  cases ops with
  | nil =>
      exact .main (a := .setupThreads (.ret ret)) trivial (require_eq_some.mpr ⟨here, rfl⟩)
        (by simp [here])
  | cons op rest =>
      exact .main (a := .setupThreads (.release op rest ret)) trivial
        (require_eq_some.mpr ⟨here, rfl⟩) (by simp [here])

/-- From the end of the reporting pipe on, the server can always come closer to its return. -/
theorem return_advances (run : system.Run actions s) (saw : s.main.sawEnd = true)
    (running : s.main ≠ .returned .success) : s.Advances := by
  have setUp := setsUpChild_of_sawEnd run saw
  cases here : s.main with
  | lock => exact lock_advances run here
  | setCondition =>
      exact .main (a := .parent .setCondition) trivial (require_eq_some.mpr ⟨here, rfl⟩)
        (by simp [here])
  | unlock =>
      exact .main (a := .parent .unlock) trivial (require_eq_some.mpr ⟨here, rfl⟩) (by simp [here])
  | broadcast =>
      exact .main (a := .parent .broadcast) trivial (require_eq_some.mpr ⟨here, rfl⟩)
        (by simp [here])
  | joinChildWait =>
      by_cases ended : s.Terminated .childWait
      · exact .main (a := .parent .joinChildWait) trivial
          (require_eq_some.mpr ⟨⟨here, ended⟩, rfl⟩) (by simp [here])
      · exact joinChildWait_advances run here ended
  | cancelAccept =>
      exact .main (a := .parent .cancelAccept) trivial (require_eq_some.mpr ⟨here, rfl⟩)
        (by simp [here])
  | joinAccept =>
      by_cases ended : s.Terminated .accept
      · exact .main (a := .parent .joinAccept) trivial
          (require_eq_some.mpr ⟨⟨here, ended⟩, rfl⟩) (by simp [here])
      · exact joining_advances setUp (by simp [here, MainPc.joining]) ended
  | close ends ret => exact close_advances run here
  | cancel t rest ret =>
      exact .main (a := .setupThreads (.cancel t rest ret)) trivial
        (require_eq_some.mpr ⟨here, rfl⟩) (by simp [here])
  | join t rest ret => exact join_advances setUp here
  | release ops ret => exact release_advances here
  | returned ret => simp_all [MainPc.sawEnd, MainPc.ready]
  | _ => simp [here, MainPc.sawEnd, MainPc.ready] at saw

end

theorem sigpipe_stays (taken : act s a = some s') (sigpipe : a.sigpipe = true) :
    s'.stepsToReturn = s.stepsToReturn := by
  cases a with
  | accept a | clientConnection a | parent a =>
      cases a <;> simp only [Action.sigpipe, Bool.false_eq_true] at sigpipe
      all_goals
        obtain ⟨-, rfl⟩ := require_eq_some.mp taken
        rfl
  | setupThreads | setupChild | childWait | child | client => simp [Action.sigpipe] at sigpipe

theorem State.Advances.step (advances : s.Advances) (alive : s.killed = false) :
    ∃ a s', a.Returning ∧ system.step s a = some s' ∧ s'.killed = false ∧
      s'.stepsToReturn < s.stepsToReturn := by
  obtain ⟨a, s', returning, taken, closer⟩ := advances
  refine ⟨a, s', returning, system_step.mpr ⟨alive, taken⟩, ?_, closer⟩
  have survives : a.sigpipe = false := by
    rw [← Bool.not_eq_true]
    intro sigpipe
    rw [sigpipe_stays taken sigpipe] at closer
    exact Nat.lt_irrefl _ closer
  simp [(act_signals taken).1, alive, survives]

theorem stepsToReturn_le (run : system.Run actions s) : s.stepsToReturn ≤ 1850 := by
  have main := (MainPc.OnTheWay.run run).steps
  have accept := s.accept.stepsToEnd_le
  have childWait := s.childWait.stepsToEnd_le
  have clientConnection := s.clientConnection.stepsToEnd_le
  have child := s.kernel.child.pc.stepsToExit_le
  simp only [State.stepsToReturn]
  omega

/-! ## Nothing is being written -/

/-- No thread is in a write() that the exit of the child could end with SIGPIPE. -/
structure State.Quiet (s : State) : Prop where
  accept : s.accept ≠ .perror
  clientConnection : s.clientConnection.forwarding = false

instance (s : State) : Decidable s.Quiet :=
  decidable_of_iff (s.accept ≠ .perror ∧ s.clientConnection.forwarding = false)
    ⟨fun ⟨accept, clientConnection⟩ => ⟨accept, clientConnection⟩,
      fun ⟨accept, clientConnection⟩ => ⟨accept, clientConnection⟩⟩

theorem AcceptPc.afterWait_ne_perror (outcome : WaitOutcome) :
    AcceptPc.afterWait outcome ≠ .perror := by
  cases outcome <;> simp [afterWait]

theorem AcceptPc.signalled_ne_perror {pc : AcceptPc} (elsewhere : pc ≠ .perror) :
    pc.signalled ≠ .perror := by
  unfold signalled
  split
  · simp
  · exact elsewhere

theorem act_accept_ne_perror (returning : a.Returning) (taken : act s a = some s')
    (elsewhere : s.accept ≠ .perror) : s'.accept ≠ .perror := by
  by_cases own : ∃ b, a = .accept b
  · obtain ⟨b, rfl⟩ := own
    cases b <;> simp only [act, threadRoutineAccept, require_eq_some,
      Option.ite_none_right_eq_some, Option.map_eq_some_iff] at taken
    case waitForChildReady =>
      obtain ⟨-, r, -, rfl⟩ := taken
      exact AcceptPc.afterWait_ne_perror r.1
    case acceptFailed => exact returning.elim
    case perrorSigpipe => exact absurd taken.1.1 elsewhere
    case writeSigpipe =>
      obtain ⟨-, rfl⟩ := taken
      exact elsewhere
    case wrote =>
      obtain ⟨-, rfl⟩ := taken
      simp only [AcceptPc.afterWrite]
      split <;> simp
    all_goals
      obtain ⟨-, rfl⟩ := taken
      simp
  · rcases act_sameAccept taken (fun b same => own ⟨b, same⟩) with same | same | ⟨-, same⟩
    · rwa [same]
    · rw [same]
      exact AcceptPc.signalled_ne_perror elsewhere
    · simp [same]

theorem act_forwarding_eq_false (returning : a.Returning) (taken : act s a = some s')
    (idle : s.clientConnection.forwarding = false) : s'.clientConnection.forwarding = false := by
  by_cases own : ∃ b, a = .clientConnection b
  · obtain ⟨b, rfl⟩ := own
    cases b <;> simp only [act, threadRoutineClientConnection, require_eq_some] at taken
    case received => exact returning.elim
    case callWriteAll | wrote | writeSigpipe => simp_all
    case cleanupClose =>
      obtain ⟨-, rfl⟩ := taken
      simp only [ClientConnectionPc.afterCleanup]
      split <;> simp
    all_goals
      obtain ⟨-, rfl⟩ := taken
      simp
  · rcases act_sameClientConnection taken (fun b same => own ⟨b, same⟩) with
      same | same | ⟨-, same⟩
    · rwa [same]
    · simpa [same] using idle
    · simp [same]

theorem State.Quiet.act (quiet : s.Quiet) (returning : a.Returning)
    (taken : Server.act s a = some s') : s'.Quiet :=
  ⟨act_accept_ne_perror returning taken quiet.accept,
    act_forwarding_eq_false returning taken quiet.clientConnection⟩

theorem State.Quiet.inWrite (quiet : s.Quiet) (saw : s.main.sawEnd = true)
    (taken : Server.act s a = some s') : a.inWrite = false := by
  cases a with
  | parent a =>
      cases a <;> simp only [Action.inWrite, Bool.true_eq_false] <;>
        simp [(require_eq_some.mp taken).1.1, MainPc.sawEnd, MainPc.ready] at saw
  | accept a =>
      cases a <;> simp only [Action.inWrite, Bool.true_eq_false] <;>
        exact quiet.accept (require_eq_some.mp taken).1.1
  | clientConnection a =>
      have idle := quiet.clientConnection
      cases a <;> simp only [Action.inWrite, Bool.true_eq_false] <;>
        simp only [Server.act, threadRoutineClientConnection, require_eq_some] at taken <;>
        simp [taken] at idle
  | setupThreads | setupChild | childWait | child | client => rfl

/-! ## The return of the threads -/

theorem returned_reaped (run : system.Run actions s) (returned : s.main = .returned .success) :
    s.kernel.child.pc = .reaped := by
  have ready : s.main.ready = true := by simp [returned, MainPc.ready]
  have stored := MainPc.pidStored_of_stdinStored (MainPc.stdinStored_of_ready ready)
  have born := (Forked.run run (MainPc.forked_of_pidStored stored)).1
  have readEof := (started_of_ready run ready).readEof
  have once := (ReadOnce.run run).once
  rcases (Reaped.run run).leaving born (by simp [returned, MainPc.leaving, MainPc.leftSetupChild])
    with reaped | short | failed
  · exact reaped
  · simpa using once _ readEof _ short rfl rfl
  · simpa using once _ readEof _ failed rfl rfl

theorem threads_return (run : system.Run actions s) (saw : s.main.sawEnd = true)
    (alive : s.killed = false) (quiet : s.Quiet) :
    ∃ more t, system.exec s more = some t ∧ more.length ≤ 1850 ∧ (∀ a ∈ more, a.OfReturn) ∧
      t.main = .returned .success ∧ t.killed = false ∧ t.kernel.child.pc = .reaped := by
  have reached := System.exists_exec_of_rank (M := system) (p := Action.OfReturn)
    (I := fun path t => system.Run path t ∧ t.main.sawEnd = true ∧ t.killed = false ∧ t.Quiet ∧
      path.length + t.stepsToReturn ≤ actions.length + s.stepsToReturn)
    (g := fun t => t.main = .returned .success) State.stepsToReturn ?_
    ⟨run, saw, alive, quiet, Nat.le_refl _⟩
  · obtain ⟨more, t, path, ofReturn, ⟨run', -, alive, -, length⟩, returned⟩ := reached
    refine ⟨more, t, path, ?_, ofReturn, returned, alive, returned_reaped run' returned⟩
    have bound := stepsToReturn_le run
    simp only [List.length_append] at length
    omega
  · rintro path s ⟨run, saw, alive, quiet, length⟩ running
    obtain ⟨a, s', returning, step, alive, closer⟩ := (return_advances run saw running).step alive
    have taken := (system_step.mp step).2
    refine ⟨a, s', ⟨returning, quiet.inWrite saw taken⟩, step, ⟨.snoc run trivial step,
      sawEnd_mono taken saw, alive, quiet.act returning taken, ?_⟩, closer⟩
    simp only [List.length_append, List.length_singleton]
    omega

/-! ## The return of usockit_server -/

theorem exec_threads {c : Call} {more : List Action} (here : c.pc = .threads)
    (path : system.exec c.threads more = some s) :
    callSystem.exec c (more.map .threads) = some { c with threads := s } := by
  induction more generalizing c with
  | nil =>
      obtain rfl : c.threads = s := by simpa [System.exec] using path
      rfl
  | cons a rest ih =>
      obtain ⟨next, step, onward⟩ := Option.bind_eq_some_iff.mp path
      have stepped : callSystem.step c (.threads a) = some { c with threads := next } := by
        simp [callSystem, usockitServer, here, step]
      simpa [System.exec, stepped] using ih (c := { c with threads := next }) here onward

/-- Nobody has to connect or to hang up for a step, the child only exits, and no write() has to find
room. -/
def CallAction.OfReturn : CallAction → Prop
  | .threads a => a.OfReturn
  | _ => True

/-- The server has its threads running, main has seen the child in its program, and nothing is being
written. -/
structure Call.Serving (c : Call) : Prop where
  here : c.pc = .threads
  saw : c.threads.main.sawEnd = true
  alive : c.threads.killed = false
  quiet : c.threads.Quiet

instance (c : Call) : Decidable c.Serving :=
  decidable_of_iff (c.pc = .threads ∧ c.threads.main.sawEnd = true ∧ c.threads.killed = false ∧
      c.threads.Quiet)
    ⟨fun ⟨here, saw, alive, quiet⟩ => ⟨here, saw, alive, quiet⟩,
      fun ⟨here, saw, alive, quiet⟩ => ⟨here, saw, alive, quiet⟩⟩

theorem call_returns {calls : List CallAction} {c : Call} (run : callSystem.Run calls c)
    (serving : c.Serving) :
    ∃ more d, callSystem.exec c more = some d ∧ more.length ≤ 1854 ∧
      (∀ a ∈ more, a.OfReturn) ∧ d.pc = .returned .success ∧
      d.threads.kernel.child.pc = .reaped := by
  have of : c.OfThreads (fun _ _ => True) calls := .ofRun (fun _ _ _ => trivial) run
  obtain ⟨s, runThreads, same⟩ := of.run
  obtain rfl := same (by simp [serving.here, CallPc.socketOpen])
  obtain ⟨more, t, path, length, ofReturn, returned, alive, reaped⟩ :=
    threads_return runThreads serving.saw serving.alive serving.quiet
  have exits : callSystem.exec { c with threads := t }
      [.setupThreadsReturned .success, .exit .unlink [.close] .success, .exit .close [] .success,
       .ret .success] = some ⟨.returned .success, SocketOp.close.act t⟩ := by
    simp [System.exec, callSystem, usockitServer, require, serving.here, returned, alive,
      CallPc.setupThreadsReturned, SocketOp.act]
  refine ⟨_, _, System.exec_trans (exec_threads serving.here path) exits, ?_, ?_, rfl, reaped⟩
  · simp only [List.length_append, List.length_map, List.length_cons, List.length_nil]
    omega
  · intro a member
    rcases List.mem_append.mp member with threads | exit
    · obtain ⟨b, there, rfl⟩ := List.mem_map.mp threads
      exact ofReturn b there
    · simp only [List.mem_cons, List.not_mem_nil, or_false] at exit
      rcases exit with rfl | rfl | rfl | rfl <;> trivial

end Usockit.Server
