import Usockit.Foundation.Race
import Usockit.Server.Startup

namespace Usockit.Server
open Foundation

variable {s s' : State} {actions : List Action}

/-! ## The objects that the threads share -/

inductive Object
  | acceptThreadRoutineArg | clientConnectionThreadRoutineArg | childWaitThreadRoutineArg
  | childPid | childStdinFd
  | childReadyMutex | childReadyCondition | childReadyCond
  | clientReadyMutex | clientFd | clientReadyCond
  deriving DecidableEq

def ReleaseOp.objects : ReleaseOp → List Object
  | .freeAcceptThreadRoutineArg => [.acceptThreadRoutineArg]
  | .freeChildStdinFdPtr => [.childStdinFd]
  | .freeClientConnectionThreadRoutineArg => [.clientConnectionThreadRoutineArg]
  | .freeChildPidPtr => [.childPid]
  | .freeChildWaitThreadRoutineArg => [.childWaitThreadRoutineArg]
  | .destroyClientReadyCond => [.clientReadyCond]
  | .destroyClientReadyMutex => [.clientReadyMutex]
  | .freeClientReadyInfo => [.clientReadyMutex, .clientFd, .clientReadyCond]
  | .destroyChildReadyCond => [.childReadyCond]
  | .destroyChildReadyMutex => [.childReadyMutex]
  | .freeChildReadyInfo => [.childReadyMutex, .childReadyCondition, .childReadyCond]

def MainPc.accesses : MainPc → List (Access Object)
  | .storeChildPid => [⟨.childPid, .write⟩]
  | .storeChildStdinFd => [⟨.childStdinFd, .write⟩]
  | .lock | .unlock => [⟨.childReadyMutex, .sync⟩]
  | .setCondition => [⟨.childReadyCondition, .write⟩]
  | .broadcast => [⟨.childReadyCond, .sync⟩]
  | .release (op :: _) _ => op.objects.map fun object => ⟨object, .write⟩
  | _ => []

/-- A thread that is asleep in pthread_cond_wait still uses the condition variable. -/
def WaitPc.accesses : WaitPc → List (Access Object)
  | .lock | .woken | .unlock | .cancelled => [⟨.childReadyMutex, .sync⟩]
  | .test => [⟨.childReadyCondition, .read⟩]
  | .wait => [⟨.childReadyMutex, .sync⟩, ⟨.childReadyCond, .sync⟩]
  | .asleep => [⟨.childReadyCond, .sync⟩]

/-- The argument is copied before the first call. -/
def ChildWaitPc.accesses : ChildWaitPc → List (Access Object)
  | .waitForChildReady .lock => ⟨.childWaitThreadRoutineArg, .read⟩ :: WaitPc.lock.accesses
  | .waitForChildReady w => w.accesses
  | .waitpid => [⟨.childPid, .read⟩]
  | .notCreated | .ended => []

def AcceptPc.accesses : AcceptPc → List (Access Object)
  | .waitForChildReady .lock => ⟨.acceptThreadRoutineArg, .read⟩ :: WaitPc.lock.accesses
  | .waitForChildReady w => w.accesses
  | .trylock _ | .unlock _ => [⟨.clientReadyMutex, .sync⟩]
  | .store _ => [⟨.clientFd, .write⟩]
  | .signal _ => [⟨.clientReadyCond, .sync⟩]
  | .readSlot _ => [⟨.clientFd, .read⟩]
  | _ => []

/-- `lock` is also where the thread starts. -/
def ClientConnectionPc.accesses : ClientConnectionPc → List (Access Object)
  | .lock => [⟨.clientConnectionThreadRoutineArg, .read⟩, ⟨.clientReadyMutex, .sync⟩]
  | .woken | .cancelled | .cleanupUnlock _ _ => [⟨.clientReadyMutex, .sync⟩]
  | .test | .load | .cleanupLoad _ => [⟨.clientFd, .read⟩]
  | .wait => [⟨.clientReadyMutex, .sync⟩, ⟨.clientReadyCond, .sync⟩]
  | .asleep => [⟨.clientReadyCond, .sync⟩]
  | .callWriteAll _ => [⟨.childStdinFd, .read⟩]
  | .cleanupStore _ _ => [⟨.clientFd, .write⟩]
  | .notCreated | .read _ | .write _ | .cleanupClose _ _ | .ended => []

def State.accesses (s : State) : Thread → List (Access Object)
  | .main => s.main.accesses
  | .childWait => s.childWait.accesses
  | .accept => s.accept.accesses
  | .clientConnection => s.clientConnection.accesses

def State.Touches (s : State) (a : Action) (access : Access Object) : Prop :=
  ∃ t, a.thread = some t ∧ access ∈ s.accesses t

/-- The step of a thread changes what it is about to access, and no more. -/
structure Accessed (s : State) (a : Action) (s' : State) : Prop where
  childPid : s'.childPidCell = s.childPidCell ∨ s.Touches a ⟨.childPid, .write⟩
  childStdinFd : s'.childStdinFdCell = s.childStdinFdCell ∨ s.Touches a ⟨.childStdinFd, .write⟩
  childReadyMutex : s'.childReady.mutex = s.childReady.mutex ∨
    s.Touches a ⟨.childReadyMutex, .sync⟩
  condition : s'.childReady.condition = s.childReady.condition ∨
    s.Touches a ⟨.childReadyCondition, .write⟩
  clientReadyMutex : s'.clientReady.mutex = s.clientReady.mutex ∨
    s.Touches a ⟨.clientReadyMutex, .sync⟩
  clientFd : s'.clientReady.clientFd = s.clientReady.clientFd ∨ s.Touches a ⟨.clientFd, .write⟩

section
attribute [local simp] State.accesses MainPc.accesses ChildWaitPc.accesses AcceptPc.accesses
  ClientConnectionPc.accesses WaitPc.accesses

theorem Accessed.same {a : Action} (childPid : s'.childPidCell = s.childPidCell)
    (childStdinFd : s'.childStdinFdCell = s.childStdinFdCell)
    (childReady : s'.childReady = s.childReady) (clientReady : s'.clientReady = s.clientReady) :
    Accessed s a s' :=
  ⟨.inl childPid, .inl childStdinFd, .inl (by rw [childReady]), .inl (by rw [childReady]),
    .inl (by rw [clientReady]), .inl (by rw [clientReady])⟩

theorem waitForChildReady_accessed {t : Thread} {requested : Bool} {info : ChildReadyInfo}
    {w : WaitPc} {a : WaitAction} {r : WaitOutcome × ChildReadyInfo}
    (taken : waitForChildReady t requested info w a = some r) :
    r.2.mutex = info.mutex ∨ ⟨.childReadyMutex, .sync⟩ ∈ w.accesses := by
  cases a <;> simp only [waitForChildReady, require_eq_some] at taken <;>
    obtain ⟨guard, rfl⟩ := taken <;> simp [guard]

theorem act_accessed {a : Action} (taken : act s a = some s') : Accessed s a s' := by
  cases a with
  | setupThreads a =>
      cases a <;> simp only [act, setupThreads, require_eq_some] at taken <;>
        obtain ⟨-, rfl⟩ := taken <;> exact .same rfl rfl rfl rfl
  | setupChild a =>
      cases a <;> simp only [act, setupChild, require_eq_some] at taken <;>
        obtain ⟨guard, rfl⟩ := taken
      case storeChildPid | storeChildStdinFd =>
        constructor <;> simp [State.Touches, Action.thread, guard]
      all_goals exact .same rfl rfl rfl rfl
  | parent a =>
      cases a <;> simp only [act, parent, require_eq_some] at taken <;>
        obtain ⟨guard, rfl⟩ := taken
      case lock | setCondition | unlock =>
        constructor <;> simp [State.Touches, Action.thread, guard]
      all_goals exact .same rfl rfl rfl rfl
  | childWait a =>
      cases a <;> simp only [act, threadRoutineChildWait, require_eq_some,
        Option.ite_none_right_eq_some, Option.map_eq_some_iff] at taken
      case waitForChildReady w a =>
        obtain ⟨here, r, waited, rfl⟩ := taken
        have inside : w.accesses ⊆ s.childWait.accesses := by
          rw [here]
          cases w <;> simp
        exact ⟨.inl rfl, .inl rfl, (waitForChildReady_accessed waited).imp_right fun sync =>
          ⟨.childWait, rfl, inside sync⟩, .inl (waitForChildReady_condition waited), .inl rfl,
          .inl rfl⟩
      all_goals
        obtain ⟨-, rfl⟩ := taken
        exact .same rfl rfl rfl rfl
  | accept a =>
      cases a <;> simp only [act, threadRoutineAccept, require_eq_some,
        Option.ite_none_right_eq_some, Option.map_eq_some_iff] at taken
      case waitForChildReady w a =>
        obtain ⟨here, r, waited, rfl⟩ := taken
        have inside : w.accesses ⊆ s.accept.accesses := by
          rw [here]
          cases w <;> simp
        exact ⟨.inl rfl, .inl rfl, (waitForChildReady_accessed waited).imp_right fun sync =>
          ⟨.accept, rfl, inside sync⟩, .inl (waitForChildReady_condition waited), .inl rfl,
          .inl rfl⟩
      case trylockAcquired | store | unlock =>
        obtain ⟨guard, rfl⟩ := taken
        constructor <;> simp [State.Touches, Action.thread, guard]
      all_goals
        obtain ⟨-, rfl⟩ := taken
        exact .same rfl rfl rfl rfl
  | clientConnection a =>
      cases a <;> simp only [act, threadRoutineClientConnection, require_eq_some] at taken <;>
        obtain ⟨guard, rfl⟩ := taken
      case lock | wait | relock | relockCancelled | cleanupStore | cleanupUnlock =>
        constructor <;> simp [State.Touches, Action.thread, guard]
      all_goals exact .same rfl rfl rfl rfl
  | child a | client a =>
      obtain ⟨k, -, rfl⟩ := Option.map_eq_some_iff.mp taken
      exact .same rfl rfl rfl rfl

end

/-! ## The permissions -/

def MainPc.releasing : MainPc → Bool
  | .release _ _ => true
  | _ => false

def AcceptPc.readsSlot : AcceptPc → Bool
  | .readSlot _ => true
  | _ => false

/-- main owns what nobody reads yet or any more. The accept thread reads the slot without its
mutex. -/
def State.permission (s : State) (object : Object) : Permission Thread :=
  if s.main.releasing then .owned .main
  else match object with
    | .acceptThreadRoutineArg | .clientConnectionThreadRoutineArg => .readOnly
    | .childWaitThreadRoutineArg => .readOnly
    | .childPid => if s.main.pidStored then .readOnly else .owned .main
    | .childStdinFd => if s.main.stdinStored then .readOnly else .owned .main
    | .childReadyMutex | .childReadyCond | .clientReadyMutex | .clientReadyCond => .synchronized
    | .childReadyCondition => .guarded s.childReady.mutex
    | .clientFd => if s.accept.readsSlot then .readOnly else .guarded s.clientReady.mutex

theorem accesses_gone {t : Thread} (gone : s.Gone t) : s.accesses t = [] := by
  cases t with
  | main => exact gone.elim False.elim False.elim
  | childWait | accept | clientConnection =>
      rcases gone with fresh | ended
      · rw [State.accesses, show _ = _ from fresh]
        rfl
      · rw [State.accesses, show _ = _ from ended]
        rfl

theorem accesses_releasing {t : Thread} (life : Lifecycle s) (releasing : s.main.releasing = true)
    (other : t ≠ .main) : s.accesses t = [] := by
  have none : s.main.created = [] := by
    cases here : s.main <;> simp_all [MainPc.releasing, MainPc.created]
  exact accesses_gone (life.gone t other (.inl (by simp [none])))

section
attribute [local simp] MainPc.accesses WaitPc.accesses ChildWaitPc.accesses AcceptPc.accesses
  ClientConnectionPc.accesses State.permission

theorem main_permitted (run : system.Run actions s) :
    ∀ a ∈ s.main.accesses, (s.permission a.object).Allows .main a.kind := by
  have owned := (ChildReadyOwned.run run).main
  cases here : s.main with
  | storeChildPid =>
      simp [here, MainPc.releasing, MainPc.pidStored, MainPc.stdinStored, MainPc.ready]
  | storeChildStdinFd => simp [here, MainPc.releasing, MainPc.stdinStored, MainPc.ready]
  | setCondition =>
      have held := owned.held (by simp [here, MainPc.holdsChildReady])
      simp [here, MainPc.releasing, held]
  | lock | unlock | broadcast => simp [here, MainPc.releasing]
  | release ops ret => cases ops <;> simp [here, MainPc.releasing]
  | _ => simp

theorem waitForChildReady_permitted {t : Thread} {w : WaitPc} (running : s.main.releasing = false)
    (held : w.holds = true → s.childReady.mutex = some t) :
    ∀ a ∈ w.accesses, (s.permission a.object).Allows t a.kind := by
  cases w with
  | test => simp [running, held rfl]
  | _ => simp [running]

theorem childWait_permitted (run : system.Run actions s) (running : s.main.releasing = false) :
    ∀ a ∈ s.childWait.accesses, (s.permission a.object).Allows .childWait a.kind := by
  have owned := (ChildReadyOwned.run run).childWait
  cases here : s.childWait with
  | waitForChildReady w =>
      have inside := waitForChildReady_permitted (t := .childWait) (w := w) running
        fun holds => owned.held (by simpa [here] using holds)
      cases w with
      | lock => simp [running]
      | _ => exact inside
  | waitpid =>
      have ready := (Lifecycle.run run).childWait (by simp [here])
      have stored := MainPc.pidStored_of_stdinStored (MainPc.stdinStored_of_ready ready)
      simp [running, stored]
  | notCreated | ended => simp

theorem accept_permitted (run : system.Run actions s) (running : s.main.releasing = false) :
    ∀ a ∈ s.accept.accesses, (s.permission a.object).Allows .accept a.kind := by
  have owned := (ChildReadyOwned.run run).accept
  cases here : s.accept with
  | waitForChildReady w =>
      have inside := waitForChildReady_permitted (t := .accept) (w := w) running
        fun holds => owned.held (by simpa [here] using holds)
      cases w with
      | lock => simp [running]
      | _ => exact inside
  | store fd =>
      have held := (ClientReadyOwned.run run).accept.mpr (by simp [here])
      simp [running, here, AcceptPc.readsSlot, held]
  | readSlot fd => simp [running, here, AcceptPc.readsSlot]
  | _ => simp [running]

theorem clientConnection_permitted (run : system.Run actions s)
    (running : s.main.releasing = false)
    (apart : s.accept.readsSlot = true → ∀ fd flag, s.clientConnection ≠ .cleanupStore fd flag) :
    ∀ a ∈ s.clientConnection.accesses,
      (s.permission a.object).Allows .clientConnection a.kind := by
  have held := (ClientReadyOwned.run run).held
  cases here : s.clientConnection with
  | test | load | cleanupLoad =>
      have mine := held (by simp [here])
      by_cases reads : s.accept.readsSlot <;> simp [running, mine, reads]
  | cleanupStore fd flag =>
      have mine := held (by simp [here])
      have writes : s.accept.readsSlot = false := by
        rw [← Bool.not_eq_true]
        exact fun reads => apart reads fd flag here
      simp [running, mine, writes]
  | callWriteAll buffer =>
      obtain ⟨fd, slot, -⟩ := (Handoff.run run).serving (by simp [here])
      have stored := MainPc.stdinStored_of_ready ((Lifecycle.run run).slot (by simp [slot]))
      simp [running, stored]
  | _ => simp [running]

end

/-- The unlocked read of the slot meets the write that resets it. -/
def State.SlotRace (s : State) : Prop :=
  s.accept.readsSlot = true ∧ ∃ fd flag, s.clientConnection = .cleanupStore fd flag

structure RacesOnSlot (s : State) : Prop where
  accessed : ∀ a s', system.step s a = some s' → Accessed s a s'
  races : Races s.accesses ↔ s.SlotRace

theorem server_races (run : system.Run actions s) : RacesOnSlot s := by
  refine ⟨fun a s' step => act_accessed (system_step.mp step).2, ?_, ?_⟩
  · intro races
    by_contra apart
    refine not_races s.permission ?_ races
    by_cases running : s.main.releasing
    · intro t
      by_cases main : t = .main
      · subst main
        exact main_permitted run
      · simp [accesses_releasing (Lifecycle.run run) running main]
    · have running : s.main.releasing = false := by simpa using running
      intro t
      cases t with
      | main => exact main_permitted run
      | childWait => exact childWait_permitted run running
      | accept => exact accept_permitted run running
      | clientConnection =>
          refine clientConnection_permitted run running fun reads fd flag here => ?_
          exact apart ⟨reads, fd, flag, here⟩
  · rintro ⟨reads, fd, flag, here⟩
    obtain ⟨d, there⟩ : ∃ d, s.accept = .readSlot d := by
      cases there : s.accept <;> simp_all [AcceptPc.readsSlot]
    refine ⟨.accept, .clientConnection, by simp, ⟨.clientFd, .read⟩, ?_, ⟨.clientFd, .write⟩, ?_,
      rfl, by decide⟩
    · simp [State.accesses, there, AcceptPc.accesses]
    · simp [State.accesses, here, ClientConnectionPc.accesses]

/-- A client comes while the session of the first one ends. -/
def comesAtTheEnd : List Action :=
  startUp ++ handOver ⟨4, 0⟩ ++
    [.clientConnection .relock, .clientConnection (.take ⟨4, 0⟩), .clientConnection .load,
     .client (.shutdown 0), .client (.connect 1), .accept (.accepted 1),
     .accept (.trylockBusy ⟨7, 1⟩), .clientConnection (.readEof ⟨4, 0⟩ 0),
     .clientConnection (.cleanupLoad false)]

theorem server_races_comesAtTheEnd :
    ∃ s, system.exec (.start .shell) comesAtTheEnd = some s ∧ Races s.accesses := by
  obtain ⟨s, path, reads, writes⟩ :
      ∃ s, system.exec (.start .shell) comesAtTheEnd = some s ∧ s.accept.readsSlot = true ∧
        s.clientConnection = .cleanupStore (some ⟨4, 0⟩) false :=
    System.exists_exec (by decide +kernel)
  exact ⟨s, path, (server_races (System.run_of_exec ⟨_, rfl⟩ path)).races.mpr
    ⟨reads, _, _, writes⟩⟩

end Usockit.Server
