import Usockit.Server.Wakeup

namespace Usockit.Server
open Foundation

variable {s s' : State} {actions : List Action} {t : Thread}

/-- No thread has ended as the owner of a mutex, and none that setup_threads is about to destroy is
owned. -/
structure MutexesReleased (s : State) : Prop where
  ended : ∀ t, s.Terminated t → s.childReady.mutex ≠ some t ∧ s.clientReady.mutex ≠ some t
  destroyChildReady : ∀ rest ret,
    s.main = .release (.destroyChildReadyMutex :: rest) ret → s.childReady.mutex = none
  destroyClientReady : ∀ rest ret,
    s.main = .release (.destroyClientReadyMutex :: rest) ret → s.clientReady.mutex = none

/-- The thread that acts on a cancellation in pthread_cond_wait, asleep or already woken. -/
def Action.cancelsWait : Action → Option Thread
  | .childWait (.waitForChildReady _ .cancel) => some .childWait
  | .childWait (.waitForChildReady _ .cancelWoken) => some .childWait
  | .accept (.waitForChildReady _ .cancel) => some .accept
  | .accept (.waitForChildReady _ .cancelWoken) => some .accept
  | .clientConnection .cancelWait => some .clientConnection
  | .clientConnection .cancelWoken => some .clientConnection
  | _ => none

def CancelledInWait (actions : List Action) (t : Thread) : Prop :=
  ∃ a ∈ actions, a.cancelsWait = some t

theorem cancelledInWait_snoc {a : Action} : CancelledInWait (actions ++ [a]) t ↔
    CancelledInWait actions t ∨ a.cancelsWait = some t := by
  simp [CancelledInWait, or_and_right, exists_or]

/-! ## Mutexes of other threads -/

theorem act_childReady_mutex {a : Action} (owned : ChildReadyOwned s)
    (taken : act s a = some s') (other : a.thread ≠ some t) :
    s'.childReady.mutex = some t ↔ s.childReady.mutex = some t := by
  cases a with
  | setupThreads a =>
      cases a <;> simp only [act, setupThreads, require_eq_some] at taken <;>
        obtain ⟨-, rfl⟩ := taken <;> rfl
  | setupChild a =>
      cases a <;> simp only [act, setupChild, require_eq_some] at taken <;>
        obtain ⟨-, rfl⟩ := taken <;> rfl
  | parent a =>
      have main : Thread.main ≠ t := by simpa [Action.thread] using other
      cases a <;> simp only [act, parent, require_eq_some] at taken <;>
        obtain ⟨guard, rfl⟩ := taken
      case lock => simp [guard, main]
      case unlock =>
        have mine : s.childReady.mutex = some .main := owned.main.held (by rw [guard]; rfl)
        simp [mine, main]
      all_goals rfl
  | childWait a =>
      have childWait : Thread.childWait ≠ t := by simpa [Action.thread] using other
      cases a <;> simp only [act, threadRoutineChildWait, require_eq_some,
        Option.ite_none_right_eq_some, Option.map_eq_some_iff] at taken
      case waitForChildReady w a =>
        obtain ⟨here, r, waited, rfl⟩ := taken
        have self := owned.childWait.held
        simp only [here, ChildWaitPc.holdsChildReady] at self
        exact waitForChildReady_mutex self waited childWait
      all_goals
        obtain ⟨-, rfl⟩ := taken
        rfl
  | accept a =>
      have accept : Thread.accept ≠ t := by simpa [Action.thread] using other
      cases a <;> simp only [act, threadRoutineAccept, require_eq_some,
        Option.ite_none_right_eq_some, Option.map_eq_some_iff] at taken
      case waitForChildReady w a =>
        obtain ⟨here, r, waited, rfl⟩ := taken
        have self := owned.accept.held
        simp only [here, AcceptPc.holdsChildReady] at self
        exact waitForChildReady_mutex self waited accept
      all_goals
        obtain ⟨-, rfl⟩ := taken
        rfl
  | clientConnection a =>
      cases a <;> simp only [act, threadRoutineClientConnection, require_eq_some] at taken <;>
        obtain ⟨-, rfl⟩ := taken <;> rfl
  | child a | client a =>
      simp only [act, Option.map_eq_some_iff] at taken
      obtain ⟨k, -, rfl⟩ := taken
      rfl

theorem act_clientReady_mutex {a : Action} (owned : ClientReadyOwned s)
    (taken : act s a = some s') (other : ∀ b, a ≠ .clientConnection b) :
    s'.clientReady.mutex = some .clientConnection ↔
      s.clientReady.mutex = some .clientConnection := by
  by_cases handing : a.OfHandoff
  · cases a with
    | clientConnection b => exact absurd rfl (other b)
    | accept a =>
        have accept := owned.accept
        cases a <;> simp only [act, threadRoutineAccept, require_eq_some,
          Option.ite_none_right_eq_some, Option.map_eq_some_iff] at taken
        case waitForChildReady w a =>
          obtain ⟨-, r, -, rfl⟩ := taken
          rfl
        case trylockAcquired fd =>
          obtain ⟨guard, rfl⟩ := taken
          simp [guard]
        case unlock fd =>
          obtain ⟨guard, rfl⟩ := taken
          simp [accept.mpr (by simp [guard])]
        all_goals
          obtain ⟨-, rfl⟩ := taken
          rfl
    | setupThreads | setupChild | parent | childWait | child | client => exact handing.elim
  · rw [(act_sameHandoff taken handing).clientReady]

/-! ## What a cancelled thread leaves behind -/

/-- A thread that was cancelled in pthread_cond_wait takes the mutex back and ends. Any other has
released it by then. -/
structure Leaves (cancelled : Prop) (mutex : Option Thread) (t : Thread) (holds : Bool)
    (relocking ended : Prop) : Prop where
  relocks : cancelled → relocking ∨ ended ∧ mutex = some t
  unlocks : ¬ cancelled → ¬ relocking ∧ (mutex = some t → holds = true)

theorem Leaves.congr {cancelled cancelled' : Prop} {mutex mutex' : Option Thread}
    {holds holds' : Bool} {relocking relocking' ended ended' : Prop}
    (leaves : Leaves cancelled mutex t holds relocking ended)
    (sameCancelled : cancelled' ↔ cancelled) (sameMutex : mutex' = some t ↔ mutex = some t)
    (sameHolds : holds' = holds) (sameRelocking : relocking' ↔ relocking)
    (later : ended → ended') : Leaves cancelled' mutex' t holds' relocking' ended' := by
  constructor
  · rw [sameCancelled, sameRelocking, sameMutex]
    exact fun before => (leaves.relocks before).imp_right (And.imp_left later)
  · rw [sameCancelled, sameRelocking, sameMutex, sameHolds]
    exact leaves.unlocks

theorem Leaves.waitForChildReady {cancelled : Prop} {requested : Bool} {info : ChildReadyInfo}
    {w : WaitPc} {a : WaitAction} {r : WaitOutcome × ChildReadyInfo} {ended : Prop}
    (leaves : Leaves cancelled info.mutex t w.holds (w = .cancelled) ended) (running : ¬ ended)
    (taken : waitForChildReady t requested info w a = some r) :
    Leaves (cancelled ∨ a = .cancel ∨ a = .cancelWoken) r.2.mutex t r.1.holds (r.1.waiting = some .cancelled)
      (r.1 = .ended) := by
  obtain ⟨relocks, unlocks⟩ := leaves
  cases a <;> simp only [Server.waitForChildReady, require_eq_some] at taken <;>
    obtain ⟨guard, rfl⟩ := taken <;> constructor <;> simp_all

structure MutexesLeft (actions : List Action) (s : State) : Prop where
  childWait : Leaves (CancelledInWait actions .childWait) s.childReady.mutex .childWait
    s.childWait.holdsChildReady (s.childWait.waiting = some .cancelled) (s.childWait = .ended)
  accept : Leaves (CancelledInWait actions .accept) s.childReady.mutex .accept
    s.accept.holdsChildReady (s.accept.waiting = some .cancelled) (s.accept = .ended)
  clientConnection : Leaves (CancelledInWait actions .clientConnection) s.clientReady.mutex
    .clientConnection s.clientConnection.holdsClientReady (s.clientConnection = .cancelled)
    (s.clientConnection = .ended)

@[simp] theorem ChildWaitPc.waiting_signalled (pc : ChildWaitPc) :
    pc.signalled.waiting = some .cancelled ↔ pc.waiting = some .cancelled := by
  unfold signalled
  split <;> simp

@[simp] theorem AcceptPc.waiting_signalled (pc : AcceptPc) :
    pc.signalled.waiting = some .cancelled ↔ pc.waiting = some .cancelled := by
  unfold signalled
  split <;> simp

@[simp] theorem ClientConnectionPc.signalled_eq_cancelled (pc : ClientConnectionPc) :
    pc.signalled = .cancelled ↔ pc = .cancelled := by
  cases pc <;> simp [signalled]

@[simp] theorem ClientConnectionPc.afterWrite_ne_cancelled (w : WriteAll) (k : Nat) :
    ClientConnectionPc.afterWrite w k ≠ .cancelled := by
  unfold afterWrite
  split <;> simp

theorem Action.cancelsWait_of_ne {a : Action} (other : a.thread ≠ some t) :
    a.cancelsWait ≠ some t := by
  intro same
  unfold cancelsWait at same
  split at same <;> simp_all [Action.thread]

theorem MutexesLeft.act_childWait {a : Action} (left : MutexesLeft actions s)
    (owned : ChildReadyOwned s) (life : Lifecycle s) (taken : act s a = some s') :
    Leaves (CancelledInWait (actions ++ [a]) .childWait) s'.childReady.mutex .childWait
      s'.childWait.holdsChildReady (s'.childWait.waiting = some .cancelled)
      (s'.childWait = .ended) := by
  by_cases own : a.thread = some .childWait
  · cases a with
    | childWait a =>
        have here := left.childWait
        rw [cancelledInWait_snoc]
        cases a <;> simp only [act, threadRoutineChildWait, require_eq_some,
          Option.ite_none_right_eq_some, Option.map_eq_some_iff] at taken
        case waitForChildReady w a =>
          obtain ⟨inside, r, waited, rfl⟩ := taken
          simp only [inside, ChildWaitPc.holdsChildReady, ChildWaitPc.waiting,
            Option.some.injEq] at here
          refine (here.waitForChildReady (by simp) waited).congr (or_congr_right ?_) .rfl (by simp)
            (by simp) (by simp)
          cases a <;> simp [Action.cancelsWait]
        all_goals
          obtain ⟨guard, rfl⟩ := taken
          obtain ⟨relocks, unlocks⟩ := here
          constructor <;> simp_all [Action.cancelsWait]
    | setupThreads | setupChild | parent | accept | clientConnection | child | client =>
        simp [Action.thread] at own
  · refine left.childWait.congr ?_ (act_childReady_mutex owned taken own) ?_ ?_ ?_
    · simp [cancelledInWait_snoc, Action.cancelsWait_of_ne own]
    all_goals
      rcases act_sameChildWait taken (by rintro b rfl; exact own rfl) with
        same | same | ⟨main, same⟩
      · simp [same]
      · simp [same]
      · have fresh : s.childWait = .notCreated :=
          life.notCreated .childWait (by simp [main, MainPc.toCreate])
        simp [same, fresh]

theorem MutexesLeft.act_accept {a : Action} (left : MutexesLeft actions s)
    (owned : ChildReadyOwned s) (life : Lifecycle s) (taken : act s a = some s') :
    Leaves (CancelledInWait (actions ++ [a]) .accept) s'.childReady.mutex .accept
      s'.accept.holdsChildReady (s'.accept.waiting = some .cancelled) (s'.accept = .ended) := by
  by_cases own : a.thread = some .accept
  · cases a with
    | accept a =>
        have here := left.accept
        rw [cancelledInWait_snoc]
        cases a <;> simp only [act, threadRoutineAccept, require_eq_some,
          Option.ite_none_right_eq_some, Option.map_eq_some_iff] at taken
        case waitForChildReady w a =>
          obtain ⟨inside, r, waited, rfl⟩ := taken
          simp only [inside, AcceptPc.holdsChildReady, AcceptPc.waiting,
            Option.some.injEq] at here
          refine (here.waitForChildReady (by simp) waited).congr (or_congr_right ?_) .rfl (by simp)
            (by simp) (by simp)
          cases a <;> simp [Action.cancelsWait]
        case cancelPushed fd =>
          obtain ⟨⟨point, -⟩, rfl⟩ := taken
          obtain ⟨relocks, unlocks⟩ := here
          rcases AcceptPc.cancellationPoint_eq_some.mp point with here | here | ⟨w, here⟩ <;>
            constructor <;> simp_all [Action.cancelsWait]
        all_goals
          obtain ⟨guard, rfl⟩ := taken
          obtain ⟨relocks, unlocks⟩ := here
          constructor <;> simp_all [Action.cancelsWait]
    | setupThreads | setupChild | parent | childWait | clientConnection | child | client =>
        simp [Action.thread] at own
  · refine left.accept.congr ?_ (act_childReady_mutex owned taken own) ?_ ?_ ?_
    · simp [cancelledInWait_snoc, Action.cancelsWait_of_ne own]
    all_goals
      rcases act_sameAccept taken (by rintro b rfl; exact own rfl) with
        same | same | ⟨main, same⟩
      · simp [same]
      · simp [same]
      · have fresh : s.accept = .notCreated :=
          life.notCreated .accept (by simp [main, MainPc.toCreate])
        simp [same, fresh]

theorem MutexesLeft.act_clientConnection {a : Action} (left : MutexesLeft actions s)
    (owned : ClientReadyOwned s) (life : Lifecycle s) (taken : act s a = some s') :
    Leaves (CancelledInWait (actions ++ [a]) .clientConnection) s'.clientReady.mutex
      .clientConnection s'.clientConnection.holdsClientReady (s'.clientConnection = .cancelled)
      (s'.clientConnection = .ended) := by
  by_cases own : a.thread = some .clientConnection
  · cases a with
    | clientConnection a =>
        obtain ⟨relocks, unlocks⟩ := left.clientConnection
        rw [cancelledInWait_snoc]
        cases a <;> simp only [act, threadRoutineClientConnection, require_eq_some] at taken <;>
          obtain ⟨guard, rfl⟩ := taken
        case cleanupClose fd flag =>
          cases flag <;> constructor <;>
            simp_all [Action.cancelsWait, ClientConnectionPc.afterCleanup]
        all_goals constructor <;> simp_all [Action.cancelsWait]
    | setupThreads | setupChild | parent | childWait | accept | child | client =>
        simp [Action.thread] at own
  · have other : ∀ b, a ≠ .clientConnection b := by
      rintro b rfl
      exact own rfl
    refine left.clientConnection.congr ?_ (act_clientReady_mutex owned taken other) ?_ ?_ ?_
    · simp [cancelledInWait_snoc, Action.cancelsWait_of_ne own]
    all_goals
      rcases act_sameClientConnection taken other with same | same | ⟨main, same⟩
      · simp [same]
      · simp [same]
      · have fresh : s.clientConnection = .notCreated :=
          life.notCreated .clientConnection (by simp [main, MainPc.toCreate])
        simp [same, fresh]

theorem MutexesLeft.run {ok : State → Action → Prop} (run : system.RunWhere ok actions s) :
    MutexesLeft actions s := by
  refine run.invariant (I := MutexesLeft) ?_ ?_
  · rintro _ ⟨config, rfl⟩
    constructor <;> constructor <;> simp [State.start, CancelledInWait]
  · intro actions s a s' before left _ step
    have taken := (system_step.mp step).2
    have life := Lifecycle.run before
    have owned := ChildReadyOwned.run before
    exact ⟨left.act_childWait owned life taken, left.act_accept owned life taken,
      left.act_clientConnection (.run before) life taken⟩

/-! ## The destroyed mutexes -/

theorem MutexesLeft.not_owned (left : MutexesLeft actions s)
    (uncancelled : ∀ t, ¬ CancelledInWait actions t) (childReady : ChildReadyOwned s)
    (clientReady : ClientReadyOwned s) (gone : s.Gone t) :
    s.childReady.mutex ≠ some t ∧ s.clientReady.mutex ≠ some t := by
  cases t with
  | main => rcases gone with gone | gone <;> exact gone.elim
  | childWait =>
      refine ⟨fun owner => ?_, clientReady.childWait⟩
      have holds := (left.childWait.unlocks (uncancelled _)).2 owner
      rcases gone with gone | gone <;> simp [show s.childWait = _ from gone] at holds
  | accept =>
      constructor
      · intro owner
        have holds := (left.accept.unlocks (uncancelled _)).2 owner
        rcases gone with gone | gone <;> simp [show s.accept = _ from gone] at holds
      · rw [ne_eq, clientReady.accept]
        rcases gone with gone | gone <;> simp [show s.accept = _ from gone]
  | clientConnection =>
      refine ⟨childReady.clientConnection, fun owner => ?_⟩
      have holds := (left.clientConnection.unlocks (uncancelled _)).2 owner
      rcases gone with gone | gone <;> simp [show s.clientConnection = _ from gone] at holds

theorem MutexesLeft.owned (left : MutexesLeft actions s) (cancelled : CancelledInWait actions t)
    (gone : s.Gone t) :
    s.Terminated t ∧ (s.childReady.mutex = some t ∨ s.clientReady.mutex = some t) := by
  cases t with
  | main => rcases gone with gone | gone <;> exact gone.elim
  | childWait =>
      rcases left.childWait.relocks cancelled with relocking | ⟨ended, owner⟩
      · rcases gone with gone | gone <;> simp [show s.childWait = _ from gone] at relocking
      · exact ⟨ended, .inl owner⟩
  | accept =>
      rcases left.accept.relocks cancelled with relocking | ⟨ended, owner⟩
      · rcases gone with gone | gone <;> simp [show s.accept = _ from gone] at relocking
      · exact ⟨ended, .inl owner⟩
  | clientConnection =>
      rcases left.clientConnection.relocks cancelled with relocking | ⟨ended, owner⟩
      · rcases gone with gone | gone <;> simp [show s.clientConnection = _ from gone] at relocking
      · exact ⟨ended, .inr owner⟩

theorem eq_none_of_not_owned {mutex : Option Thread} (free : ∀ t, mutex ≠ some t) :
    mutex = none := by
  cases owner : mutex with
  | none => rfl
  | some t => exact absurd owner (free t)

theorem mutexes_released (run : system.Run actions s) :
    ((∀ a ∈ actions, a.cancelsWait = none) → MutexesReleased s) ∧
      ((∀ t ≠ .main, s.Gone t) → MutexesReleased s → ∀ a ∈ actions, a.cancelsWait = none) := by
  have left := MutexesLeft.run run
  have life := Lifecycle.run run
  have childReady := ChildReadyOwned.run run
  have clientReady := ClientReadyOwned.run run
  constructor
  · intro none
    have uncancelled : ∀ t, ¬ CancelledInWait actions t := by
      rintro t ⟨a, member, cancels⟩
      simp [none a member] at cancels
    have released : ∀ ops ret, s.main = .release ops ret →
        ∀ t, s.childReady.mutex ≠ some t ∧ s.clientReady.mutex ≠ some t := by
      intro ops ret here t
      by_cases main : t = .main
      · subst main
        refine ⟨fun owner => ?_, clientReady.main⟩
        simpa [here, MainPc.holdsChildReady] using childReady.main.owner owner
      · have gone := life.gone t main (.inl (by simp [here, MainPc.created]))
        exact left.not_owned uncancelled childReady clientReady gone
    constructor
    · exact fun t ended => left.not_owned uncancelled childReady clientReady (.inr ended)
    · exact fun rest ret here => eq_none_of_not_owned fun t => (released _ ret here t).1
    · exact fun rest ret here => eq_none_of_not_owned fun t => (released _ ret here t).2
  · intro gone released a member
    by_contra cancels
    obtain ⟨t, cancels⟩ := Option.ne_none_iff_exists'.mp cancels
    have other : t ≠ .main := by
      rintro rfl
      unfold Action.cancelsWait at cancels
      split at cancels <;> simp at cancels
    obtain ⟨ended, owner | owner⟩ := left.owned ⟨a, member, cancels⟩ (gone t other)
    · exact (released.ended t ended).1 owner
    · exact (released.ended t ended).2 owner

/-- main joins the connection thread and the child-wait thread, and comes to the destruction of
client_ready_info->mutex. -/
def joinAndFree : List Action :=
  [.setupThreads (.join .clientConnection [.childWait] .success),
   .setupThreads (.cancel .childWait [] .success),
   .setupThreads (.join .childWait [] .success)] ++
    (releaseOps.tail.tails.zip releaseOps |>.take 6).map fun (rest, op) =>
      .setupThreads (.release op rest .success)

/-- The client is still being served when the child exits, and the connection thread is cancelled
in read(). -/
def cancelledInRead : List Action :=
  startUp ++ handOver ⟨4, 0⟩ ++
    [.clientConnection .relock, .clientConnection (.take ⟨4, 0⟩), .clientConnection .load] ++
  childExits ++ [.accept .cancelAccept] ++ cancelConnection.take 6 ++
    [.clientConnection (.cancelRead (some ⟨4, 0⟩)), .clientConnection (.cleanupLoad true),
     .clientConnection (.cleanupStore (some ⟨4, 0⟩) true),
     .clientConnection (.cleanupUnlock (some ⟨4, 0⟩) true),
     .clientConnection (.cleanupClose (some ⟨4, 0⟩) true)] ++ joinAndFree

theorem mutexes_released_cancelledInRead :
    ∃ s rest, system.exec (.start .shell) cancelledInRead = some s ∧
      s.main = .release (.destroyClientReadyMutex :: rest) .success ∧
      s.clientReady.mutex = none := by
  obtain ⟨s, path, here⟩ :
      ∃ s, system.exec (.start .shell) cancelledInRead = some s ∧
        s.main = .release (.destroyClientReadyMutex :: releaseOps.drop 7) .success :=
    System.exists_exec (by decide +kernel)
  have released := (mutexes_released (System.run_of_exec ⟨_, rfl⟩ path)).1 (by decide)
  exact ⟨s, _, path, here, released.destroyClientReady _ _ here⟩

/-- No client ever connects, and the connection thread is cancelled in pthread_cond_wait. -/
def cancelledAsleep : List Action :=
  startUp ++ childExits ++ [.accept .cancelAccept] ++ cancelConnection ++ joinAndFree

theorem mutex_destroyed_locked : ¬ ∀ actions s, system.Run actions s → MutexesReleased s := by
  intro claim
  obtain ⟨s, path, here, owner⟩ :
      ∃ s, system.exec (.start .shell) cancelledAsleep = some s ∧
        s.main = .release (.destroyClientReadyMutex :: releaseOps.drop 7) .success ∧
        s.clientReady.mutex = some .clientConnection :=
    System.exists_exec (by decide +kernel)
  have released := claim _ s (System.run_of_exec ⟨_, rfl⟩ path)
  simp [released.destroyClientReady _ _ here] at owner

end Usockit.Server
