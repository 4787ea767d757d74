import Usockit.Server.Handoff

namespace Usockit.Server
open Foundation

variable {s s' : State} {actions : List Action}

def AcceptPc.unsignalled : AcceptPc → Option ClientFd
  | .unlock fd | .testcancelPublished fd | .signal fd => some fd
  | _ => none

/-- main has stored true and not yet called pthread_cond_broadcast. -/
def MainPc.unbroadcast : MainPc → Bool
  | .unlock | .broadcast => true
  | _ => false

structure NoLostWakeup (s : State) : Prop where
  client : ∀ fd, s.clientReady.clientFd = some fd → s.clientConnection = .asleep →
    s.accept.unsignalled = some fd
  childWait : s.childReady.condition = true → s.childWait = .waitForChildReady .asleep →
    s.main.unbroadcast = true
  accept : s.childReady.condition = true → s.accept = .waitForChildReady .asleep →
    s.main.unbroadcast = true

/-! ## The slot -/

attribute [simp] AcceptPc.unsignalled.eq_1 AcceptPc.unsignalled.eq_2 AcceptPc.unsignalled.eq_3
  AcceptPc.unsignalled.eq_4

@[simp] theorem AcceptPc.unsignalled_signalled (pc : AcceptPc) :
    pc.signalled.unsignalled = pc.unsignalled := by
  unfold signalled
  split <;> rfl

def Signalling (s : State) : Prop :=
  ∀ fd, s.clientReady.clientFd = some fd → s.clientConnection = .asleep →
    s.accept.unsignalled = some fd

theorem Signalling.threadRoutineAccept {a : AcceptAction} (signalling : Signalling s)
    (uncancelled : s.Uncancelled) (taken : threadRoutineAccept s a = some s') :
    Signalling s' := by
  have before := fun fd slot asleep => signalling fd slot asleep
  intro fd slot asleep
  cases a <;> simp only [Server.threadRoutineAccept, require_eq_some] at taken
  case waitForChildReady w a =>
    simp only [Option.ite_none_right_eq_some, Option.map_eq_some_iff] at taken
    obtain ⟨here, r, -, rfl⟩ := taken
    simpa [here] using before fd slot asleep
  case store =>
    obtain ⟨-, rfl⟩ := taken
    simpa using slot
  case cancelPushed =>
    obtain ⟨⟨-, requested⟩, -⟩ := taken
    simp [uncancelled .accept] at requested
  case signal =>
    obtain ⟨-, rfl⟩ := taken
    simp at asleep
  all_goals
    obtain ⟨guard, rfl⟩ := taken
    simpa [guard] using before fd slot asleep

theorem Signalling.threadRoutineClientConnection {a : ClientConnectionAction}
    (handoff : Handoff actions s)
    (taken : threadRoutineClientConnection s a = some s') : Signalling s' := by
  intro fd slot asleep
  cases a <;> simp only [Server.threadRoutineClientConnection, require_eq_some] at taken <;>
    obtain ⟨guard, rfl⟩ := taken
  -- it goes to sleep with the mutex in its hands, after it has seen -1
  case wait =>
    have empty := handoff.empty (by simp [guard])
    simp [empty] at slot
  all_goals simp [guard] at asleep

theorem Signalling.act {a : Action} (signalling : Signalling s) (handoff : Handoff actions s)
    (life : Lifecycle s) (uncancelled : s.Uncancelled) (taken : act s a = some s') : Signalling s' := by
  by_cases handing : a.OfHandoff
  · cases a with
    | accept a => exact signalling.threadRoutineAccept uncancelled taken
    | clientConnection a => exact .threadRoutineClientConnection handoff taken
    | setupThreads | setupChild | parent | childWait | child | client => exact handing.elim
  · have same := act_sameHandoff taken handing
    intro fd slot asleep
    rw [same.clientReady] at slot
    have before : s.clientConnection = .asleep := by
      rcases same.clientConnection with kept | ⟨-, created⟩
      · rw [← kept, asleep]
      · simp [created] at asleep
    have unsignalled := signalling fd slot before
    rcases same.accept with kept | woken | ⟨creating, created⟩
    · rw [kept, unsignalled]
    · rw [woken, AcceptPc.unsignalled_signalled, unsignalled]
    · have fresh : s.accept = .notCreated :=
        life.notCreated .accept (by simp [creating, MainPc.toCreate])
      simp [fresh] at unsignalled

theorem uncancelled_of_act {a : Action} (taken : act s a = some s') (later : s'.Uncancelled) :
    s.Uncancelled := by
  intro t
  rw [← Bool.not_eq_true]
  intro requested
  simpa [cancelRequested_mono taken requested] using later t

theorem Signalling.run {ok : State → Action → Prop} (run : system.RunWhere ok actions s)
    (uncancelled : s.Uncancelled) : Signalling s := by
  revert uncancelled
  refine run.stateInvariant (I := fun s => s.Uncancelled → Signalling s) ?_ ?_
  · rintro _ ⟨config, rfl⟩ - fd slot
    simp [State.start] at slot
  · intro _ s a s' before signalling _ step uncancelled
    have taken := (system_step.mp step).2
    have earlier := uncancelled_of_act taken uncancelled
    exact (signalling earlier).act (.run before) (.run before) earlier taken

/-! ## The condition -/

def ChildWaitPc.waiting : ChildWaitPc → Option WaitPc
  | .waitForChildReady w => some w
  | _ => none

def AcceptPc.waiting : AcceptPc → Option WaitPc
  | .waitForChildReady w => some w
  | _ => none

def WaitOutcome.waiting : WaitOutcome → Option WaitPc
  | .inside w => some w
  | _ => none

attribute [simp] ChildWaitPc.waiting.eq_1 ChildWaitPc.waiting.eq_2

attribute [simp] AcceptPc.waiting.eq_1 AcceptPc.waiting.eq_2

attribute [simp] WaitOutcome.waiting.eq_1 WaitOutcome.waiting.eq_2

@[simp] theorem ChildWaitPc.waiting_afterWait (outcome : WaitOutcome) :
    (ChildWaitPc.afterWait outcome).waiting = outcome.waiting := by
  cases outcome <;> rfl

@[simp] theorem AcceptPc.waiting_afterWait (outcome : WaitOutcome) :
    (AcceptPc.afterWait outcome).waiting = outcome.waiting := by
  cases outcome <;> rfl

@[simp] theorem AcceptPc.waiting_afterWrite (fd : ClientFd) (w : WriteAll) (k : Nat) :
    (AcceptPc.afterWrite fd w k).waiting = none := by
  unfold afterWrite
  split <;> rfl

/-- A thread that is about to sleep, or asleep. -/
structure Attentive (condition unbroadcast : Bool) (waiting : Option WaitPc) : Prop where
  wait : waiting = some .wait → condition = false
  asleep : waiting = some .asleep → condition = true → unbroadcast = true

theorem Attentive.of_ne {condition unbroadcast : Bool} {waiting : Option WaitPc}
    (wait : waiting ≠ some .wait) (asleep : waiting ≠ some .asleep) :
    Attentive condition unbroadcast waiting :=
  ⟨fun here => absurd here wait, fun here => absurd here asleep⟩

theorem Attentive.waitForChildReady {t : Thread} {requested unbroadcast : Bool}
    {info : ChildReadyInfo} {w : WaitPc} {a : WaitAction} {r : WaitOutcome × ChildReadyInfo}
    (attentive : Attentive info.condition unbroadcast (some w))
    (taken : waitForChildReady t requested info w a = some r) :
    Attentive r.2.condition unbroadcast r.1.waiting := by
  rw [waitForChildReady_condition taken]
  cases a <;> simp only [Server.waitForChildReady, require_eq_some] at taken <;>
    obtain ⟨guard, rfl⟩ := taken
  case testNotReady => exact ⟨fun _ => guard.2, by simp⟩
  case wait =>
    have unset := attentive.wait (by rw [guard])
    exact ⟨by simp, by simp [unset]⟩
  all_goals exact .of_ne (by simp) (by simp)

structure BothAttentive (s : State) : Prop where
  childWait : Attentive s.childReady.condition s.main.unbroadcast s.childWait.waiting
  accept : Attentive s.childReady.condition s.main.unbroadcast s.accept.waiting

theorem Attentive.mono {condition unbroadcast unbroadcast' : Bool} {waiting : Option WaitPc}
    (attentive : Attentive condition unbroadcast waiting)
    (later : unbroadcast = true → unbroadcast' = true) :
    Attentive condition unbroadcast' waiting :=
  ⟨attentive.wait, fun here set => later (attentive.asleep here set)⟩

theorem BothAttentive.frame (both : BothAttentive s)
    (condition : s'.childReady.condition = s.childReady.condition)
    (unbroadcast : s.main.unbroadcast = true → s'.main.unbroadcast = true)
    (childWait : s'.childWait.waiting = s.childWait.waiting)
    (accept : s'.accept.waiting = s.accept.waiting) : BothAttentive s' := by
  constructor
  · rw [condition, childWait]
    exact both.childWait.mono unbroadcast
  · rw [condition, accept]
    exact both.accept.mono unbroadcast

theorem Attentive.signalled_childWait {condition unbroadcast unbroadcast' : Bool}
    {pc : ChildWaitPc} (attentive : Attentive condition unbroadcast pc.waiting) :
    Attentive condition unbroadcast' pc.signalled.waiting := by
  unfold ChildWaitPc.signalled
  split
  · exact .of_ne (by simp) (by simp)
  · next awake =>
      refine ⟨attentive.wait, fun asleep => ?_⟩
      cases pc with
      | waitForChildReady w => exact absurd (congrArg _ (Option.some.inj asleep)) awake
      | notCreated | waitpid | ended => simp [ChildWaitPc.waiting] at asleep

theorem Attentive.signalled_accept {condition unbroadcast unbroadcast' : Bool}
    {pc : AcceptPc} (attentive : Attentive condition unbroadcast pc.waiting) :
    Attentive condition unbroadcast' pc.signalled.waiting := by
  unfold AcceptPc.signalled
  split
  · exact .of_ne (by simp) (by simp)
  · next awake =>
      refine ⟨attentive.wait, fun asleep => ?_⟩
      cases pc <;> simp_all

/-- While main owns the mutex neither thread is between its test and pthread_cond_wait. -/
theorem Attentive.set {t : Thread} {holds : Bool} {ended : Prop} {waiting : Option WaitPc}
    {mutex : Option Thread} (owns : Owns mutex t holds ended) (other : mutex = some .main)
    (ne : t ≠ .main) (inside : waiting = some .wait → holds = true) :
    Attentive true true waiting := by
  refine ⟨fun here => ?_, fun _ _ => rfl⟩
  have mine := owns.held (inside here)
  rw [other] at mine
  exact absurd (Option.some.inj mine).symm ne

section
attribute [local simp] MainPc.unbroadcast

theorem BothAttentive.parent {a : ParentAction} (both : BothAttentive s)
    (owned : ChildReadyOwned s) (taken : parent s a = some s') : BothAttentive s' := by
  cases a <;> simp only [Server.parent, require_eq_some] at taken <;>
    obtain ⟨guard, rfl⟩ := taken
  case setCondition =>
    have mine : s.childReady.mutex = some .main := owned.main.held (by rw [guard]; rfl)
    constructor
    · refine .set owned.childWait mine (by simp) ?_
      cases s.childWait <;> simp +contextual
    · refine .set owned.accept mine (by simp) ?_
      cases s.accept <;> simp +contextual
  case broadcast => exact ⟨both.childWait.signalled_childWait, both.accept.signalled_accept⟩
  case readEof | readError | readShort =>
    refine both.frame rfl ?_ rfl rfl
    simp [guard.1.1]
  all_goals
    refine both.frame rfl ?_ rfl rfl
    simp [guard]

theorem BothAttentive.setupThreads {a : SetupThreadsAction} (both : BothAttentive s)
    (taken : setupThreads s a = some s') : BothAttentive s' := by
  cases a <;> simp only [Server.setupThreads, require_eq_some] at taken <;>
    obtain ⟨guard, rfl⟩ := taken
  case createChildWait =>
    exact ⟨.of_ne (by simp) (by simp), both.accept.mono (by simp [guard])⟩
  case createAccept =>
    exact ⟨both.childWait.mono (by simp [guard]), .of_ne (by simp) (by simp)⟩
  all_goals
    refine both.frame rfl ?_ rfl rfl
    simp [guard]

theorem BothAttentive.act {a : Action} (both : BothAttentive s) (owned : ChildReadyOwned s)
    (taken : act s a = some s') : BothAttentive s' := by
  cases a with
  | setupThreads a => exact both.setupThreads taken
  | parent a => exact both.parent owned taken
  | setupChild a =>
      cases a <;> simp only [Server.act, setupChild, require_eq_some] at taken <;>
        obtain ⟨guard, rfl⟩ := taken <;> refine both.frame rfl ?_ rfl rfl <;> simp [guard]
  | childWait a =>
      cases a <;> simp only [Server.act, threadRoutineChildWait, require_eq_some,
        Option.ite_none_right_eq_some, Option.map_eq_some_iff] at taken
      case waitForChildReady w a =>
        obtain ⟨here, r, waited, rfl⟩ := taken
        have self := both.childWait
        simp only [here, ChildWaitPc.waiting] at self
        exact ⟨by simpa using self.waitForChildReady waited,
          by simpa [waitForChildReady_condition waited] using both.accept⟩
      all_goals
        obtain ⟨guard, rfl⟩ := taken
        exact both.frame rfl id (by simp [guard]) rfl
  | accept a =>
      cases a <;> simp only [Server.act, threadRoutineAccept, require_eq_some,
        Option.ite_none_right_eq_some, Option.map_eq_some_iff] at taken
      case waitForChildReady w a =>
        obtain ⟨here, r, waited, rfl⟩ := taken
        have self := both.accept
        simp only [here, AcceptPc.waiting] at self
        exact ⟨by simpa [waitForChildReady_condition waited] using both.childWait,
          by simpa using self.waitForChildReady waited⟩
      case cancelPushed fd =>
        obtain ⟨⟨here, -⟩, rfl⟩ := taken
        rcases AcceptPc.cancellationPoint_eq_some.mp here with here | here | ⟨w, here⟩ <;>
          exact both.frame rfl id rfl (by simp [here])
      all_goals
        obtain ⟨guard, rfl⟩ := taken
        exact both.frame rfl id rfl (by simp [guard])
  | clientConnection a =>
      cases a <;> simp only [Server.act, threadRoutineClientConnection, require_eq_some] at taken
      all_goals
        obtain ⟨-, rfl⟩ := taken
        exact both.frame rfl id rfl rfl
  | child a | client a =>
      simp only [Server.act, Option.map_eq_some_iff] at taken
      obtain ⟨k, -, rfl⟩ := taken
      exact both.frame rfl id rfl rfl

end

theorem BothAttentive.run {ok : State → Action → Prop} (run : system.RunWhere ok actions s) :
    BothAttentive s := by
  refine run.stateInvariant ?_ ?_
  · rintro _ ⟨config, rfl⟩
    exact ⟨.of_ne (by simp [State.start]) (by simp [State.start]),
      .of_ne (by simp [State.start]) (by simp [State.start])⟩
  · exact fun _ _ _ _ before both _ step => both.act (.run before) (system_step.mp step).2

theorem wakeup_not_lost (run : system.Run actions s) (uncancelled : s.Uncancelled) :
    NoLostWakeup s := by
  have both := BothAttentive.run run
  constructor
  · exact Signalling.run run uncancelled
  · intro set asleep
    exact both.childWait.asleep (by simp [asleep]) set
  · intro set asleep
    exact both.accept.asleep (by simp [asleep]) set

/-- The accept thread has stored the first connection, and the connection thread is asleep. -/
def storedWhileAsleep : List Action :=
  startUp ++ [.client (.connect 0), .accept (.accepted 0), .accept (.trylockAcquired ⟨4, 0⟩),
    .accept (.store ⟨4, 0⟩)]

theorem wakeup_not_lost_storedWhileAsleep :
    ∃ s, system.exec (.start .shell) storedWhileAsleep = some s ∧
      s.accept.unsignalled = some ⟨4, 0⟩ := by
  obtain ⟨s, path, uncancelled, slot, asleep⟩ :
      ∃ s, system.exec (.start .shell) storedWhileAsleep = some s ∧ s.Uncancelled ∧
        s.clientReady.clientFd = some ⟨4, 0⟩ ∧ s.clientConnection = .asleep :=
    System.exists_exec (by decide +kernel)
  exact ⟨s, path,
    (wakeup_not_lost (System.run_of_exec ⟨_, rfl⟩ path) uncancelled).client _ slot asleep⟩

end Usockit.Server
