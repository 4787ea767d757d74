import Usockit.Foundation.Balance
import Usockit.Client.RejectionReturn

namespace Usockit.Client
open Foundation

variable {s s' : State} {actions : List Action} {t : Thread}

/-! ## What the steps create, join, allocate and free -/

def Action.creates : Action → List Thread
  | .main .createReceivingThread => [.receiving]
  | .main .createSendingThread => [.sending]
  | _ => []

def ExitOp.joins : ExitOp → List Thread
  | .join t => [t]
  | _ => []

def Action.joins : Action → List Thread
  | .main (.exit op _ _) => op.joins
  | _ => []

def Action.allocates : Action → List Thread
  | .main .callocReceivingThreadRoutineArg => [.receiving]
  | .main .callocSendingThreadRoutineArg => [.sending]
  | _ => []

/-- The thread whose argument block main frees, as the thread has not been created. -/
def ExitOp.frees : ExitOp → List Thread
  | .freeReceivingThreadRoutineArg => [.receiving]
  | .freeSendingThreadRoutineArg => [.sending]
  | _ => []

def Action.frees : Action → List Thread
  | .main (.exit op _ _) => op.frees
  | .receivingThread .freeArg => [.receiving]
  | .sendingThread .freeArg => [.sending]
  | _ => []

def Action.thread : Action → Option Thread
  | .main _ => some .main
  | .receivingThread _ => some .receiving
  | .sendingThread _ => some .sending
  | .server _ => none

def MainPc.exiting : MainPc → Option ExitOp
  | .exit (op :: _) _ => some op
  | _ => none

def State.NotCreated (s : State) : Thread → Prop
  | .main => False
  | .receiving => s.receivingThread = .notCreated
  | .sending => s.sendingThread = .notCreated

def State.Alive (s : State) (t : Thread) : Prop := ¬ s.NotCreated t ∧ ¬ s.Terminated t

structure TeardownClean (actions : List Action) (s : State) : Prop where
  unowned : ∀ t, s.Terminated t ∨ t = .main ∧ (∃ ret, s.main = .returned ret) →
    s.threadsResultDest.mutex ≠ some t
  joinEnds : s.Survives → ∀ t, s.main.exiting = some (.join t) →
    s.cancelRequested t = true ∧ ∃ more s', system.exec s more = some s' ∧
      (∀ a ∈ more, a.thread = some .receiving ∨ a.thread = some .sending) ∧ s'.Terminated t
  joinedOnce : (actions.flatMap Action.joins).Nodup ∧ ∀ ret, s.main = .returned ret →
    (actions.flatMap Action.joins).Perm (actions.flatMap Action.creates)
  released : ∀ op ∈ releaseOps, s.main.exiting = some op → s.threadsResultDest.mutex = none ∧
    (∀ t ≠ .main, ¬ s.Alive t) ∧ (actions.flatMap Action.frees).Nodup ∧
      (actions.flatMap Action.frees).Perm (actions.flatMap Action.allocates)

/-! ## Threads and argument blocks, counted -/

def MainPc.toCreate : MainPc → List Thread
  | .socket | .calloc | .mutexInit | .condInit | .connect => [.receiving, .sending]
  | .callocReceivingThreadRoutineArg | .createReceivingThread => [.receiving, .sending]
  | .callocSendingThreadRoutineArg | .createSendingThread => [.sending]
  | _ => []

def MainPc.toJoin : MainPc → List Thread
  | .callocSendingThreadRoutineArg | .createSendingThread => [.receiving]
  | .lock | .test | .wait | .asleep | .woken | .copy => [.receiving, .sending]
  | .exit ops _ => ops.flatMap ExitOp.joins
  | _ => []

def MainPc.toAllocate : MainPc → List Thread
  | .socket | .calloc | .mutexInit | .condInit | .connect => [.receiving, .sending]
  | .callocReceivingThreadRoutineArg => [.receiving, .sending]
  | .createReceivingThread | .callocSendingThreadRoutineArg => [.sending]
  | _ => []

def MainPc.toFree : MainPc → List Thread
  | .createReceivingThread => [.receiving]
  | .createSendingThread => [.sending]
  | .exit ops _ => ops.flatMap ExitOp.frees
  | _ => []

/-- The threads whose argument block has not been freed. -/
def State.toFree (s : State) : List Thread :=
  s.main.toFree ++ (if s.sendingThread = .freeArg then [.sending] else []) ++
    if s.receivingThread = .freeArg then [.receiving] else []

structure Counted (actions : List Action) (s : State) : Prop where
  created : Once Action.creates actions s.main.toCreate
  joined : Balance Action.creates Action.joins actions s.main.toJoin
  allocated : Once Action.allocates actions s.main.toAllocate
  freed : Balance Action.allocates Action.frees actions s.toFree

structure Balanced (s : State) (a : Action) (s' : State) : Prop where
  created : (a.creates ++ s'.main.toCreate).Sublist s.main.toCreate
  joined : (a.creates ++ s.main.toJoin).Perm (a.joins ++ s'.main.toJoin)
  allocated : (a.allocates ++ s'.main.toAllocate).Sublist s.main.toAllocate
  freed : (a.allocates ++ s.toFree).Perm (a.frees ++ s'.toFree)

theorem Counted.snoc {a : Action} (counted : Counted actions s) (step : Balanced s a s') :
    Counted (actions ++ [a]) s' where
  created := counted.created.snoc step.created
  joined := counted.joined.snoc step.joined
  allocated := counted.allocated.snoc step.allocated
  freed := counted.freed.snoc step.freed

section
attribute [local simp] MainPc.createsReceivingThread MainPc.createsSendingThread
attribute [local simp] MainPc.toCreate MainPc.toJoin MainPc.toAllocate MainPc.toFree
  State.toFree Action.creates Action.joins Action.allocates Action.frees

@[simp] theorem MainPc.toCreate_signalled (pc : MainPc) : pc.signalled.toCreate = pc.toCreate := by
  cases pc <;> rfl

@[simp] theorem MainPc.toJoin_signalled (pc : MainPc) : pc.signalled.toJoin = pc.toJoin := by
  cases pc <;> rfl

@[simp] theorem MainPc.toAllocate_signalled (pc : MainPc) :
    pc.signalled.toAllocate = pc.toAllocate := by
  cases pc <;> rfl

@[simp] theorem MainPc.toFree_signalled (pc : MainPc) : pc.signalled.toFree = pc.toFree := by
  cases pc <;> rfl

theorem MainPc.afterExit_cases (copied : Option ThreadsResult) :
    (∃ ret, MainPc.afterExit copied = .closeSocket ret) ∨
      MainPc.afterExit copied = .unreachable := by
  unfold afterExit
  repeat' split
  · exact .inl ⟨_, rfl⟩
  · exact .inl ⟨_, rfl⟩
  · exact .inr rfl

theorem balanced_usockitClient {a : MainAction} (life : Lifecycle s)
    (taken : usockitClient s a = some s') : Balanced s (.main a) s' := by
  cases a <;> simp only [Client.usockitClient, require_eq_some, Option.ite_none_right_eq_some,
    Option.map_eq_some_iff] at taken
  case exit op rest copied =>
    obtain ⟨here, next, exited, rfl⟩ := taken
    obtain ⟨receiving, sending, -⟩ := exitOp_frame exited
    constructor <;> simp [here, receiving, sending]
  case ret copied =>
    obtain ⟨here, rfl⟩ := taken
    rcases MainPc.afterExit_cases copied with ⟨ret, after⟩ | after <;>
      constructor <;> simp [here, after]
  case createReceivingThread =>
    obtain ⟨here, rfl⟩ := taken
    have fresh := life.receivingNotCreated (by simp [here])
    have freshSending := life.sendingNotCreated (by simp [here])
    constructor <;> simp [here, fresh, freshSending]
  case createSendingThread =>
    obtain ⟨here, rfl⟩ := taken
    have fresh := life.sendingNotCreated (by simp [here])
    constructor <;> simp [here, fresh, List.Perm.swap]
  all_goals
    obtain ⟨guard, rfl⟩ := taken
    constructor <;> simp [guard, endReceivingThreadOps, endThreadsOps, releaseOps,
      ExitOp.joins, ExitOp.frees]

theorem balanced_thread {a : Action} (main : s'.main = s.main ∨ s'.main = s.main.signalled)
    (creates : a.creates = []) (joins : a.joins = []) (allocates : a.allocates = [])
    (frees : a.frees = [])
    (receiving : s'.receivingThread = .freeArg ↔ s.receivingThread = .freeArg)
    (sending : s'.sendingThread = .freeArg ↔ s.sendingThread = .freeArg) : Balanced s a s' := by
  rcases main with main | main <;> constructor <;>
    simp only [creates, joins, allocates, frees, main, State.toFree, receiving, sending,
      MainPc.toCreate_signalled, MainPc.toJoin_signalled, MainPc.toAllocate_signalled,
      MainPc.toFree_signalled] <;> rfl

theorem sendingThreadRoutine_freeArg {a : SendingThreadAction}
    (taken : sendingThreadRoutine s a = some s') :
    s'.sendingThread ≠ .freeArg ∧ (s.sendingThread = .freeArg → a = .freeArg) := by
  cases a <;> simp only [sendingThreadRoutine, require_eq_some, Option.ite_none_right_eq_some,
    Option.map_eq_some_iff] at taken
  case dispatchResult r p b =>
    obtain ⟨here, next, -, rfl⟩ := taken
    simp [here]
  case wrote w k =>
    obtain ⟨⟨here, -⟩, rfl⟩ := taken
    simp only [SendingThreadPc.afterWrite]
    split <;> simp [here]
  case writeFailed w errno =>
    obtain ⟨⟨here, -⟩, rfl⟩ := taken
    unfold State.writeFailed
    split <;> simp [here]
  all_goals
    obtain ⟨guard, rfl⟩ := taken
    simp [guard]

theorem receivingThreadRoutine_freeArg {a : ReceivingThreadAction}
    (taken : receivingThreadRoutine s a = some s') :
    s'.receivingThread ≠ .freeArg ∧ (s.receivingThread = .freeArg → a = .freeArg) := by
  cases a <;> simp only [receivingThreadRoutine, require_eq_some, Option.ite_none_right_eq_some,
    Option.map_eq_some_iff] at taken
  case post r p b =>
    obtain ⟨here, next, -, rfl⟩ := taken
    simp [here]
  case received buffer =>
    obtain ⟨⟨here, -⟩, rfl⟩ := taken
    simp only [ReceivingThreadPc.afterRead]
    repeat' split
    all_goals simp [here]
  all_goals
    obtain ⟨guard, rfl⟩ := taken
    simp [guard]

theorem balanced_sendingThreadRoutine {a : SendingThreadAction}
    (taken : sendingThreadRoutine s a = some s') : Balanced s (.sendingThread a) s' := by
  by_cases frees : a = .freeArg
  · subst frees
    simp only [sendingThreadRoutine, require_eq_some] at taken
    obtain ⟨here, rfl⟩ := taken
    constructor <;> simp [here]
  · obtain ⟨after, before⟩ := sendingThreadRoutine_freeArg taken
    have notFreeing : s.sendingThread ≠ .freeArg := fun here => frees (before here)
    have noFree : (Action.sendingThread a).frees = [] := by cases a <;> simp at frees ⊢
    have same := (sendingThreadRoutine_cases taken).2.1
    exact balanced_thread (sendingThreadRoutine_main taken) rfl rfl rfl noFree (by rw [same])
      (iff_of_false after notFreeing)

theorem balanced_receivingThreadRoutine {a : ReceivingThreadAction}
    (taken : receivingThreadRoutine s a = some s') : Balanced s (.receivingThread a) s' := by
  by_cases frees : a = .freeArg
  · subst frees
    simp only [receivingThreadRoutine, require_eq_some] at taken
    obtain ⟨here, rfl⟩ := taken
    refine ⟨List.Sublist.refl _, List.Perm.refl _, List.Sublist.refl _, ?_⟩
    simp only [State.toFree, here, if_true, reduceCtorEq, if_false, List.append_nil]
    exact List.perm_append_singleton _ _
  · obtain ⟨after, before⟩ := receivingThreadRoutine_freeArg taken
    have notFreeing : s.receivingThread ≠ .freeArg := fun here => frees (before here)
    have noFree : (Action.receivingThread a).frees = [] := by cases a <;> simp at frees ⊢
    have same := (receivingThreadRoutine_cases taken).2.1
    exact balanced_thread (receivingThreadRoutine_main taken) rfl rfl rfl noFree
      (iff_of_false after notFreeing) (by rw [same])

theorem Counted.run {ok : State → Action → Prop} (run : system.RunWhere ok actions s) :
    Counted actions s := by
  refine run.invariant (I := Counted) ?_ ?_
  · rintro s ⟨stdin, rfl⟩
    exact ⟨.nil (by simp [State.start]), .nil, .nil (by simp [State.start]), .nil⟩
  · intro _ s a s' run counted _ step
    have taken := (system_step.mp step).2
    refine counted.snoc ?_
    cases a with
    | main a => exact balanced_usockitClient (Invariants.run run).life taken
    | receivingThread a => exact balanced_receivingThreadRoutine taken
    | sendingThread a => exact balanced_sendingThreadRoutine taken
    | server a =>
        simp only [act, Option.map_eq_some_iff] at taken
        obtain ⟨socket, -, rfl⟩ := taken
        exact balanced_thread (.inl rfl) rfl rfl rfl rfl .rfl .rfl
end

/-! ## The order of the exits -/

/-- What main still does after `op` on its way out. -/
def ExitOp.allows (op later : ExitOp) : Bool :=
  match op with
  | .join t => later ≠ .cancel t ∧ later ≠ .unlock
  | .destroyCond | .destroyMutex | .freeThreadsResultDest => later ∈ releaseOps
  | _ => true

structure Exits (s : State) : Prop where
  ordered : ∀ ops copied, s.main = .exit ops copied →
    ops.Pairwise fun op later => op.allows later = true
  requested : ∀ ops copied, s.main = .exit ops copied →
    ∀ t, .join t ∈ ops → .cancel t ∉ ops → s.cancelRequested t = true
  created : ∀ ops copied, s.main = .exit ops copied →
    ∀ t, .join t ∈ ops → t ≠ .main ∧ ¬ s.NotCreated t
  ended : ∀ ops copied, s.main = .exit ops copied → ∀ t ≠ .main, .join t ∉ ops → ¬ s.Alive t

theorem Exits.frame (exits : Exits s)
    (main : ∀ ops copied, s'.main = .exit ops copied → s.main = .exit ops copied)
    (requested : s'.cancelRequested = s.cancelRequested)
    (created : ∀ t, s'.NotCreated t ↔ s.NotCreated t)
    (ended : ∀ t, s.Terminated t → s'.Terminated t) : Exits s' where
  ordered := fun ops copied here => exits.ordered ops copied (main _ _ here)
  requested := fun ops copied here => requested ▸ exits.requested ops copied (main _ _ here)
  created := fun ops copied here t joins => by
    simpa [created] using exits.created ops copied (main _ _ here) t joins
  ended := fun ops copied here t other joined alive =>
    exits.ended ops copied (main _ _ here) t other joined
      ⟨fun fresh => alive.1 ((created t).mpr fresh), fun gone => alive.2 (ended t gone)⟩

theorem Exits.exitOp {op : ExitOp} {rest : List ExitOp} {copied : Option ThreadsResult}
    (exits : Exits s) (here : s.main = .exit (op :: rest) copied)
    (taken : Client.exitOp s op = some s') : Exits { s' with main := .exit rest copied } := by
  obtain ⟨receiving, sending, -⟩ := exitOp_frame taken
  have created : ∀ t, s'.NotCreated t ↔ s.NotCreated t := by
    intro t
    cases t <;> simp [State.NotCreated, receiving, sending]
  have ended : ∀ t, s'.Terminated t ↔ s.Terminated t := by
    intro t
    cases t <;> simp [State.Terminated, receiving, sending]
  constructor
  case ordered =>
    rintro ops copied ⟨⟩
    exact (exits.ordered _ _ here).of_cons
  case requested =>
    rintro ops copied ⟨⟩ t joins left
    have kept := exitOp_requested (t := t) taken fun different =>
      exits.requested _ _ here t (List.mem_cons_of_mem _ joins)
        (by simpa [different.symm] using left)
    exact kept
  case created =>
    rintro ops copied ⟨⟩ t joins
    have before := exits.created _ _ here t (List.mem_cons_of_mem _ joins)
    exact ⟨before.1, fun fresh => before.2 ((created t).mp fresh)⟩
  case ended =>
    rintro ops copied ⟨⟩ t other joined ⟨started, running⟩
    by_cases same : op = .join t
    · subst same
      have gone : s.Terminated t := by
        simp only [Client.exitOp, require_eq_some] at taken
        exact taken.1
      exact running ((ended t).mpr gone)
    · refine exits.ended _ _ here t other (by simpa [Ne.symm same] using joined) ?_
      exact ⟨fun fresh => started ((created t).mpr fresh),
        fun gone => running ((ended t).mpr gone)⟩

theorem Exits.enter {ops : List ExitOp} {copied : Option ThreadsResult}
    (main : s'.main = .exit ops copied)
    (ordered : ops.Pairwise fun op later => op.allows later = true)
    (cancels : ∀ t, .join t ∈ ops → .cancel t ∈ ops)
    (created : ∀ t, .join t ∈ ops → t ≠ .main ∧ ¬ s'.NotCreated t)
    (fresh : ∀ t ≠ .main, .join t ∉ ops → s'.NotCreated t) : Exits s' := by
  have same : ∀ ops' copied', s'.main = .exit ops' copied' → ops' = ops := by
    intro ops' copied' here
    rw [main] at here
    cases here
    rfl
  constructor
  case ordered =>
    intro ops' copied' here
    rwa [same _ _ here]
  case requested =>
    intro ops' copied' here t joins left
    rw [same _ _ here] at joins left
    exact absurd (cancels t joins) left
  case created =>
    intro ops' copied' here t joins
    exact created t (same _ _ here ▸ joins)
  case ended =>
    intro ops' copied' here t other joined alive
    rw [same _ _ here] at joined
    exact alive.1 (fresh t other joined)

theorem Exits.elsewhere (main : ∀ ops copied, s'.main ≠ .exit ops copied) : Exits s' :=
  ⟨fun _ _ here => absurd here (main _ _), fun _ _ here => absurd here (main _ _),
    fun _ _ here => absurd here (main _ _), fun _ _ here => absurd here (main _ _)⟩

section
attribute [local simp] MainPc.createsReceivingThread MainPc.createsSendingThread
attribute [local simp] MainPc.receivingThreadCreated MainPc.sendingThreadCreated

theorem Exits.usockitClient {a : MainAction} (exits : Exits s) (life : Lifecycle s)
    (created : Created s) (taken : usockitClient s a = some s') : Exits s' := by
  have receivingFresh := life.receivingNotCreated
  have sendingFresh := life.sendingNotCreated
  obtain ⟨receiving, sending⟩ := created
  cases a <;> simp only [Client.usockitClient, require_eq_some, Option.ite_none_right_eq_some,
    Option.map_eq_some_iff] at taken
  case exit op rest copied =>
    obtain ⟨here, next, exited, rfl⟩ := taken
    exact exits.exitOp here exited
  case ret copied =>
    obtain ⟨here, rfl⟩ := taken
    exact .elsewhere fun _ _ => MainPc.afterExit_ne_exit
  case callocFailed | mutexInitFailed | condInitFailed | connectFailed |
      callocReceivingThreadRoutineArgFailed | createReceivingThreadFailed |
      callocSendingThreadRoutineArgFailed | createSendingThreadFailed | copy =>
    obtain ⟨here, rfl⟩ := taken
    simp only [here] at receivingFresh sendingFresh receiving sending
    refine .enter rfl (by decide) ?_ ?_ ?_ <;> intro t <;> cases t <;>
      simp_all [State.NotCreated, endReceivingThreadOps, endThreadsOps, releaseOps]
  all_goals
    obtain ⟨guard, rfl⟩ := taken
    exact .elsewhere (by simp)
end

theorem exit_of_signalled {ops : List ExitOp} {copied : Option ThreadsResult}
    (main : s'.main = s.main ∨ s'.main = s.main.signalled) (here : s'.main = .exit ops copied) :
    s.main = .exit ops copied := by
  rcases main with main | main
  · rwa [main] at here
  · simpa [main] using here

theorem Exits.receivingThreadRoutine {a : ReceivingThreadAction} (exits : Exits s)
    (taken : receivingThreadRoutine s a = some s') : Exits s' := by
  have after := receivingThreadRoutine_created taken
  obtain ⟨before, same, step⟩ := receivingThreadRoutine_cases taken
  have running : s.receivingThread ≠ .ended := by
    intro gone
    simp [gone] at step
  have requested : s'.cancelRequested = s.cancelRequested := by
    obtain ⟨aside, -⟩ | ⟨r, p, b, next, -, -, -, rfl⟩ | ⟨r, -, -, rfl⟩ := step
    · exact aside.cancelRequested
    · rfl
    · rfl
  refine exits.frame (fun _ _ => exit_of_signalled (receivingThreadRoutine_main taken)) requested
    ?_ ?_ <;> intro t <;> cases t <;>
    simp [State.NotCreated, State.Terminated, before, after, same, running]

theorem Exits.sendingThreadRoutine {a : SendingThreadAction} (exits : Exits s)
    (taken : sendingThreadRoutine s a = some s') : Exits s' := by
  have after := sendingThreadRoutine_created taken
  obtain ⟨before, same, step⟩ := sendingThreadRoutine_cases taken
  have running : s.sendingThread ≠ .ended := by
    intro gone
    simp [gone] at step
  have requested : s'.cancelRequested = s.cancelRequested := by
    obtain ⟨aside, -⟩ | ⟨r, p, b, next, -, -, -, rfl⟩ | ⟨r, -, -, rfl⟩ := step
    · exact aside.cancelRequested
    · rfl
    · rfl
  refine exits.frame (fun _ _ => exit_of_signalled (sendingThreadRoutine_main taken)) requested
    ?_ ?_ <;> intro t <;> cases t <;>
    simp [State.NotCreated, State.Terminated, before, after, same, running]

theorem Exits.run {ok : State → Action → Prop} (run : system.RunWhere ok actions s) :
    Exits s := by
  refine run.stateInvariant (I := Exits) ?_ ?_
  · rintro s ⟨stdin, rfl⟩
    exact .elsewhere (by simp [State.start])
  · intro _ s a s' run exits _ step
    have taken := (system_step.mp step).2
    cases a with
    | main a => exact exits.usockitClient (Invariants.run run).life (Created.run run) taken
    | receivingThread a => exact exits.receivingThreadRoutine taken
    | sendingThread a => exact exits.sendingThreadRoutine taken
    | server a =>
        simp only [act, Option.map_eq_some_iff] at taken
        obtain ⟨socket, -, rfl⟩ := taken
        refine exits.frame (fun _ _ => id) rfl ?_ ?_ <;> intro t <;> cases t <;>
          simp [State.NotCreated, State.Terminated]

/-! ## Joins end -/

theorem Owned.unowned (owned : Owned s) (alive : ¬ s.Alive t) (other : t ≠ .main) :
    s.threadsResultDest.mutex ≠ some t := by
  intro mutex
  cases t with
  | main => exact other rfl
  | receiving =>
      have holds := owned.receiving.mp mutex
      exact alive ⟨fun fresh => by simp_all [State.NotCreated],
        fun gone => by simp_all [State.Terminated]⟩
  | sending =>
      have holds := owned.sending.mp mutex
      exact alive ⟨fun fresh => by simp_all [State.NotCreated],
        fun gone => by simp_all [State.Terminated]⟩

theorem Exits.unlocked {op : ExitOp} {rest : List ExitOp} {copied : Option ThreadsResult}
    (exits : Exits s) (here : s.main = .exit (op :: rest) copied)
    (past : (∃ t, op = .join t) ∨ op ∈ releaseOps) : s.main.holds = false := by
  have later := (List.pairwise_cons.mp (exits.ordered _ _ here)).1 .unlock
  simp only [here, MainPc.holds, List.mem_cons, decide_eq_false_iff_not, not_or]
  rcases past with ⟨t, rfl⟩ | release
  · exact ⟨nofun, fun left => by simpa [ExitOp.allows] using later left⟩
  · constructor
    · rintro rfl
      simp [releaseOps] at release
    · intro left
      cases op <;> simp_all [ExitOp.allows, releaseOps]

theorem Exits.joined_cancelled {rest : List ExitOp} {copied : Option ThreadsResult}
    (exits : Exits s) (here : s.main = .exit (.join t :: rest) copied) :
    s.cancelRequested t = true := by
  refine exits.requested _ _ here t List.mem_cons_self ?_
  have later := (List.pairwise_cons.mp (exits.ordered _ _ here)).1 (.cancel t)
  simpa [ExitOp.allows] using later

theorem Exits.releasing {op : ExitOp} {rest : List ExitOp} {copied : Option ThreadsResult}
    (exits : Exits s) (here : s.main = .exit (op :: rest) copied) (release : op ∈ releaseOps) :
    ∀ later ∈ op :: rest, later ∈ releaseOps := by
  have order := (List.pairwise_cons.mp (exits.ordered _ _ here)).1
  intro later member
  rcases List.mem_cons.mp member with rfl | member
  · exact release
  · have allowed := order later member
    cases op <;> simp_all [ExitOp.allows, releaseOps]

def State.threadSteps (s : State) : Nat :=
  s.receivingThread.stepsToEnd + s.sendingThread.stepsToEnd

/-- A step of one of the two threads towards its end, while main waits. -/
def State.Ends (s : State) : Prop :=
  ∃ a s', (a.thread = some .receiving ∨ a.thread = some .sending) ∧
    system.step s a = some s' ∧ s'.main = s.main ∧ s'.Survives ∧ s'.threadSteps < s.threadSteps

theorem receivingThreadRoutine_closer {a : ReceivingThreadAction}
    (taken : receivingThreadRoutine s a = some s')
    (closer : s'.receivingThread.stepsToEnd < s.receivingThread.stepsToEnd) :
    ReadsBeforeEnd s (.receivingThread a) := by
  cases a with
  | received buffer =>
      simp only [receivingThreadRoutine, require_eq_some] at taken
      obtain ⟨⟨here, -⟩, rfl⟩ := taken
      simp only [here, ReceivingThreadPc.afterRead] at closer
      split at closer
      · simp [ReceivingThreadPc.stepsToEnd, PostPc.stepsToEnd] at closer
      · split at closer <;> simp [ReceivingThreadPc.stepsToEnd] at closer
  | _ => trivial

theorem main_of_signalled {ops : List ExitOp} {copied : Option ThreadsResult}
    (here : s.main = .exit ops copied) (main : s'.main = s.main ∨ s'.main = s.main.signalled) :
    s'.main = s.main := by
  rcases main with main | main
  · exact main
  · rw [main, here]
    rfl

theorem ends_receiving {ops : List ExitOp} {copied : Option ThreadsResult}
    {a : ReceivingThreadAction} (run : system.Run actions s) (survives : s.Survives)
    (here : s.main = .exit ops copied) (taken : receivingThreadRoutine s a = some s')
    (closer : s'.receivingThread.stepsToEnd < s.receivingThread.stepsToEnd) : s.Ends := by
  have same := (receivingThreadRoutine_cases taken).2.1
  refine ⟨.receivingThread a, s', .inl rfl, system_step.mpr ⟨survives.2.1, taken⟩,
    main_of_signalled here (receivingThreadRoutine_main taken), ?_, ?_⟩
  · exact (act_survives (a := .receivingThread a) (Invariants.run run) (Masked.run run)
      survives.2.1 taken).mpr ⟨survives, receivingThreadRoutine_closer taken closer⟩
  · simpa [State.threadSteps, same] using closer

theorem ends_sending {ops : List ExitOp} {copied : Option ThreadsResult}
    {a : SendingThreadAction} (run : system.Run actions s) (survives : s.Survives)
    (here : s.main = .exit ops copied) (taken : sendingThreadRoutine s a = some s')
    (closer : s'.sendingThread.stepsToEnd < s.sendingThread.stepsToEnd) : s.Ends := by
  have same := (sendingThreadRoutine_cases taken).2.1
  refine ⟨.sendingThread a, s', .inr rfl, system_step.mpr ⟨survives.2.1, taken⟩,
    main_of_signalled here (sendingThreadRoutine_main taken), ?_, ?_⟩
  · exact (act_survives (a := .sendingThread a) (Invariants.run run) (Masked.run run)
      survives.2.1 taken).mpr ⟨survives, trivial⟩
  · simpa [State.threadSteps, same] using closer

theorem join_advances {rest : List ExitOp} {copied : Option ThreadsResult}
    (run : system.Run actions s) (survives : s.Survives)
    (here : s.main = .exit (.join t :: rest) copied) (running : ¬ s.Terminated t) : s.Ends := by
  have owned := (Invariants.run run).owned
  have exits := Exits.run run
  cases mutex : s.threadsResultDest.mutex with
  | none =>
      obtain ⟨other, created⟩ := exits.created _ _ here t List.mem_cons_self
      have requested := exits.joined_cancelled here
      cases t with
      | main => exact absurd rfl other
      | receiving =>
          obtain ⟨a, s', taken, closer⟩ := receivingThread_advances requested (.inl mutex) created
            survives.1 running
          exact ends_receiving run survives here taken closer
      | sending =>
          obtain ⟨a, s', taken, closer⟩ := sendingThread_advances requested (.inl mutex) created
            running
          exact ends_sending run survives here taken closer
  | some owner =>
      cases owner with
      | main =>
          have unlocked := exits.unlocked here (.inl ⟨t, rfl⟩)
          simp [owned.main.mp mutex] at unlocked
      | receiving =>
          have holds := owned.receiving.mp mutex
          cases posts : s.receivingThread with
          | post r p =>
              obtain ⟨a, s', taken, closer⟩ := receivingThread_posts posts fun locks => by
                simp [posts, locks] at holds
              exact ends_receiving run survives here taken closer
          | _ => simp [posts] at holds
      | sending =>
          have holds := owned.sending.mp mutex
          cases posts : s.sendingThread with
          | dispatchResult r p =>
              obtain ⟨a, s', taken, closer, -⟩ := sendingThread_posts posts fun locks => by
                simp [posts, locks] at holds
              exact ends_sending run survives here taken closer
          | _ => simp [posts] at holds

theorem join_ends {rest : List ExitOp} {copied : Option ThreadsResult}
    (run : system.Run actions s) (survives : s.Survives)
    (here : s.main = .exit (.join t :: rest) copied) :
    ∃ more s', system.exec s more = some s' ∧
      (∀ a ∈ more, a.thread = some .receiving ∨ a.thread = some .sending) ∧ s'.Terminated t := by
  have reached := System.exists_exec_of_rank (M := system)
    (p := fun a => a.thread = some .receiving ∨ a.thread = some .sending)
    (I := fun actions s => system.Run actions s ∧ s.Survives ∧
      s.main = .exit (.join t :: rest) copied) (g := fun s => s.Terminated t) State.threadSteps ?_
    ⟨run, survives, here⟩
  · obtain ⟨more, s', path, byThreads, -, ended⟩ := reached
    exact ⟨more, s', path, byThreads, ended⟩
  · rintro actions s ⟨run, survives, here⟩ running
    obtain ⟨a, s', byThread, step, main, survives', closer⟩ :=
      join_advances run survives here running
    exact ⟨a, s', byThread, step, ⟨.snoc run trivial step, survives', main ▸ here⟩, closer⟩

/-! ## The teardown -/

theorem MainPc.exiting_eq_some {pc : MainPc} {op : ExitOp} :
    pc.exiting = some op ↔ ∃ rest copied, pc = .exit (op :: rest) copied := by
  unfold exiting
  split <;> simp_all

theorem Exits.dead {op : ExitOp} {rest : List ExitOp} {copied : Option ThreadsResult}
    (exits : Exits s) (here : s.main = .exit (op :: rest) copied) (release : op ∈ releaseOps)
    (other : t ≠ .main) : ¬ s.Alive t :=
  exits.ended _ _ here t other fun joins => by
    simpa [releaseOps] using exits.releasing here release _ joins

theorem Exits.released {op : ExitOp} {rest : List ExitOp} {copied : Option ThreadsResult}
    (exits : Exits s) (here : s.main = .exit (op :: rest) copied) (release : op ∈ releaseOps) :
    s.toFree = [] := by
  have byMain : (op :: rest).flatMap ExitOp.frees = [] :=
    List.flatMap_eq_nil_iff.mpr fun later member => by
      have releases := exits.releasing here release later member
      cases later <;> simp_all [releaseOps, ExitOp.frees]
  have sending : s.sendingThread ≠ .freeArg := fun starts =>
    exits.dead here release (t := .sending) (by simp)
      (by simp [State.Alive, State.NotCreated, State.Terminated, starts])
  have receiving : s.receivingThread ≠ .freeArg := fun starts =>
    exits.dead here release (t := .receiving) (by simp)
      (by simp [State.Alive, State.NotCreated, State.Terminated, starts])
  simp only [State.toFree, here, MainPc.toFree, byMain, sending, receiving, if_false,
    List.append_nil]

theorem Exits.unowned {op : ExitOp} {rest : List ExitOp} {copied : Option ThreadsResult}
    (exits : Exits s) (owned : Owned s) (here : s.main = .exit (op :: rest) copied)
    (release : op ∈ releaseOps) : s.threadsResultDest.mutex = none := by
  refine Option.eq_none_iff_forall_ne_some.mpr fun owner mutex => ?_
  by_cases main : owner = .main
  · subst main
    have unlocked := exits.unlocked here (.inr release)
    simp [owned.main.mp mutex] at unlocked
  · exact owned.unowned (exits.dead here release main) main mutex

theorem teardown_clean (run : system.Run actions s) : TeardownClean actions s := by
  have owned := (Invariants.run run).owned
  have exits := Exits.run run
  have counted := Counted.run run
  constructor
  case unowned =>
    rintro t (ended | ⟨rfl, ret, here⟩) mutex
    · have other : t ≠ .main := by
        rintro rfl
        exact ended
      exact owned.unowned (fun alive => alive.2 ended) other mutex
    · simpa [here] using owned.main.mp mutex
  case joinEnds =>
    intro survives t exiting
    obtain ⟨rest, copied, here⟩ := MainPc.exiting_eq_some.mp exiting
    exact ⟨exits.joined_cancelled here, join_ends run survives here⟩
  case joinedOnce =>
    refine ⟨counted.joined.nodup counted.created.nodup, fun ret here => ?_⟩
    have joined := counted.joined
    rw [here] at joined
    exact joined.settled
  case released =>
    intro op release exiting
    obtain ⟨rest, copied, here⟩ := MainPc.exiting_eq_some.mp exiting
    have freed := counted.freed
    rw [exits.released here release] at freed
    exact ⟨exits.unowned owned here release, fun t => exits.dead here release,
      freed.nodup counted.allocated.nodup, freed.settled⟩

theorem teardown_clean_sentAndReturned :
    ∃ s, system.exec (.start [104, 105]) sentAndReturned = some s ∧
      s.main = .returned .successEof ∧
      sentAndReturned.flatMap Action.joins = [.receiving, .sending] ∧
      TeardownClean sentAndReturned s := by
  obtain ⟨s, path, returned⟩ :
      ∃ s, system.exec (.start [104, 105]) sentAndReturned = some s ∧
        s.main = .returned .successEof :=
    System.exists_exec (by decide +kernel)
  exact ⟨s, path, returned, by decide, teardown_clean (System.run_of_exec ⟨_, rfl⟩ path)⟩

end Usockit.Client
