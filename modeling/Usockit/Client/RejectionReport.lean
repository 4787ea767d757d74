import Usockit.Client.Posting

namespace Usockit.Client
open Foundation

variable {s s' : State} {actions : List Action}

def readsRejection : Action := .receivingThread (.received fuckOffString)

def epipeResult : SendingThreadResult := ⟨epipe, .write⟩

def fuckOffResult : ReceivingThreadResult := ⟨.fuckOff, 0⟩

/-- The sending thread is created, it takes the mutex to post into an empty slot only EPIPE from
write(), and main takes the mutex with a result in the slot only when the receiving thread has
posted. -/
def RejectionPostedFirst (s : State) : Action → Prop
  | .main .callocSendingThreadRoutineArgFailed | .main .createSendingThreadFailed => False
  | .sendingThread (.dispatchResult r _ .lock) =>
      s.threadsResultDest.result.origin = .none → r = epipeResult
  | .main .lock | .main .relock =>
      s.threadsResultDest.result.origin = .none ∨ s.receivingThread.passed = true
  | _ => True

instance (s : State) (a : Action) : Decidable (RejectionPostedFirst s a) := by
  unfold RejectionPostedFirst
  split <;> infer_instance

/-! ## Runs that meet the condition -/

structure Orderly (s : State) : Prop where
  epipe : s.threadsResultDest.result.origin = .sending →
    s.threadsResultDest.result = epipeResult.toThreadsResult
  sending : ∀ r p, s.sendingThread = .dispatchResult r p → p.holds = true →
    s.threadsResultDest.result.origin = .none → r = epipeResult
  leaves : s.main = .test ∨ s.main = .copy → s.threadsResultDest.result.origin ≠ .none →
    s.receivingThread.passed = true
  copied : ∀ ops r, s.main = .exit ops (some r) →
    s.receivingThread.passed = true ∧ s.threadsResultDest.result = r
  failed : ∀ ops, s.main = .exit ops none → s.receivingThread = .notCreated
  ending : ∀ ret, s.main = .closeSocket ret ∨ s.main = .returned ret →
    (s.receivingThread = .notCreated ∧ ret = .unknown) ∨
      (s.receivingThread.passed = true ∧ s.threadsResultDest.result.retStatus = some ret)

theorem ThreadsResult.eq_epipe {r : ThreadsResult} (origin : r.origin = .sending)
    (member : r.threadUnion = .sending ⟨Client.epipe, .write⟩) :
    r = epipeResult.toThreadsResult := by
  cases r
  simp_all [epipeResult, SendingThreadResult.toThreadsResult]

theorem ThreadsResult.Posted.origin {r : ThreadsResult} (posted : r.Posted) :
    r.origin ≠ .none := by
  rcases posted with ⟨sending, rfl⟩ | ⟨receiving, rfl⟩ <;> nofun

theorem ThreadsResult.origin_of_retStatus {r : ThreadsResult} {ret : RetStatus}
    (status : r.retStatus = some ret) : r.origin ≠ .none := by
  intro unset
  simp [retStatus, unset] at status

theorem Orderly.frame (orderly : Orderly s)
    (result : s'.threadsResultDest.result = s.threadsResultDest.result)
    (main : s'.main = s.main ∨ s'.main = s.main.signalled)
    (created : s.receivingThread = .notCreated → s'.receivingThread = .notCreated)
    (passed : s.receivingThread.passed = true → s'.receivingThread.passed = true)
    (sending : ∀ r p, s'.sendingThread = .dispatchResult r p → p.holds = true →
      s.threadsResultDest.result.origin = .none → r = epipeResult) : Orderly s' := by
  have same : ∀ pc : MainPc, pc ≠ .woken → s'.main = pc → s.main = pc := by
    intro pc other here
    rcases main with main | main
    · exact main ▸ here
    · exact ((MainPc.signalled_eq other).mp (main ▸ here)).1
  constructor
  case epipe => exact result ▸ orderly.epipe
  case sending => exact result ▸ sending
  case leaves =>
    intro leaves set
    exact passed (orderly.leaves (leaves.imp (same _ nofun) (same _ nofun)) (result ▸ set))
  case copied =>
    intro ops r here
    obtain ⟨before, copied⟩ := orderly.copied ops r (same _ nofun here)
    exact ⟨passed before, result ▸ copied⟩
  case failed => exact fun ops here => created (orderly.failed ops (same _ nofun here))
  case ending =>
    intro ret here
    rcases orderly.ending ret (here.imp (same _ nofun) (same _ nofun)) with
      ⟨fresh, unknown⟩ | ⟨before, status⟩
    · exact .inl ⟨created fresh, unknown⟩
    · exact .inr ⟨passed before, result ▸ status⟩

theorem Orderly.receivingThreadRoutine {a : ReceivingThreadAction} (orderly : Orderly s)
    (inv : Invariants s) (taken : receivingThreadRoutine s a = some s') : Orderly s' := by
  obtain ⟨created, same, ⟨aside, working, after⟩ | ⟨r, p, b, next, -, here, posted, rfl⟩ |
    ⟨r, -, here, rfl⟩⟩ := receivingThreadRoutine_cases taken
  · obtain ⟨-, -, before⟩ := ReceivingThreadPc.not_posting working
    exact orderly.frame (by rw [aside.threadsResultDest]) (.inl aside.main)
      (fun fresh => absurd fresh created) (by simp [before]) (by simpa [same] using orderly.sending)
  · cases b <;> simp only [post, require_eq_some] at posted <;>
      obtain ⟨guard, rfl⟩ := posted
    case store =>
      obtain ⟨notMain, notSending⟩ := inv.owned.receiving_excludes (by simp [here, guard])
      have unposted : s.receivingThread.passed = false := by simp [here, guard]
      obtain ⟨h₁, h₂, h₃, h₄, h₅, h₆⟩ := orderly
      constructor
      case leaves =>
        rintro (leaves | leaves) - <;> simp [show s.main = _ from leaves] at notMain
      case sending => simp [ReceivingThreadResult.toThreadsResult]
      case epipe => simp [ReceivingThreadResult.toThreadsResult]
      case copied => simp_all
      case failed => simp_all
      case ending => simp_all
    all_goals
      exact orderly.frame rfl (.inl rfl) (fun fresh => absurd fresh created) (by simp [here, guard])
        orderly.sending
  · exact orderly.frame rfl (.inr rfl) (fun fresh => absurd fresh created) (fun _ => rfl)
      orderly.sending

theorem Orderly.sendingThreadRoutine {a : SendingThreadAction} (orderly : Orderly s)
    (inv : Invariants s) (meets : RejectionPostedFirst s (.sendingThread a))
    (taken : sendingThreadRoutine s a = some s') : Orderly s' := by
  obtain ⟨created, same, ⟨aside, working, after⟩ | ⟨r, p, b, next, rfl, here, posted, rfl⟩ |
    ⟨r, -, here, rfl⟩⟩ := sendingThreadRoutine_cases taken
  · refine orderly.frame (by rw [aside.threadsResultDest]) (.inl aside.main)
      (by simp [same]) (by simp [same]) ?_
    intro r p here holds
    simp [here, holds] at after
  · cases b <;> simp only [threadsDispatchResult, post, require_eq_some] at posted <;>
      obtain ⟨guard, rfl⟩ := posted
    case store =>
      obtain ⟨notMain, notReceiving⟩ := inv.owned.sending_excludes (by simp [here, guard])
      have empty := inv.slot.sendingStore r (by simp [here, guard])
      have valid := orderly.sending r p here (by simp [guard]) empty
      constructor
      case leaves =>
        rintro (leaves | leaves) - <;> simp [show s.main = _ from leaves] at notMain
      case sending => simp [SendingThreadResult.toThreadsResult]
      case epipe => exact fun _ => by rw [valid]
      case copied =>
        intro ops copied exit
        exact absurd ((orderly.copied ops copied exit).2 ▸ empty)
          (inv.slot.copied ops copied exit).origin
      case failed => exact orderly.failed
      case ending =>
        intro ret ending
        refine (orderly.ending ret ending).imp_right ?_
        rintro ⟨-, status⟩
        exact absurd empty (ThreadsResult.origin_of_retStatus status)
    case lock =>
      refine orderly.frame rfl (.inl rfl) id id ?_
      rintro r' p ⟨⟩ -
      exact meets
    case testStore =>
      refine orderly.frame rfl (.inl rfl) id id ?_
      rintro r' p ⟨⟩ - empty
      exact orderly.sending r p here (by simp [guard]) empty
    case testKeep =>
      refine orderly.frame rfl (.inl rfl) id id ?_
      rintro r' p ⟨⟩ - empty
      simp [empty] at guard
    case unlock =>
      refine orderly.frame rfl (.inl rfl) id id ?_
      rintro r' p ⟨⟩ ⟨⟩
  · exact orderly.frame rfl (.inr rfl) id id (by simp)

attribute [local simp] MainPc.createsReceivingThread

theorem Orderly.usockitClient {a : MainAction} (orderly : Orderly s) (inv : Invariants s)
    (meets : RejectionPostedFirst s (.main a)) (taken : usockitClient s a = some s') :
    Orderly s' := by
  obtain ⟨-, -, result, receiving, sending⟩ := usockitClient_frame inv.life taken
  have sendingKept : ∀ r p, s'.sendingThread = .dispatchResult r p → p.holds = true →
      s'.threadsResultDest.result.origin = .none → r = epipeResult := by
    rintro r p here
    rcases sending with same | ⟨-, fresh⟩
    · exact result ▸ orderly.sending r p (same ▸ here)
    · simp [here] at fresh
  have epipeKept : s'.threadsResultDest.result.origin = .sending →
      s'.threadsResultDest.result = epipeResult.toThreadsResult := result ▸ orderly.epipe
  cases a <;> simp only [Client.usockitClient, require_eq_some, Option.ite_none_right_eq_some,
    Option.map_eq_some_iff] at taken
  case callocSendingThreadRoutineArgFailed | createSendingThreadFailed => exact meets.elim
  case socketFailed =>
    obtain ⟨here, rfl⟩ := taken
    have fresh := inv.life.receivingNotCreated (by simp [here])
    exact ⟨epipeKept, sendingKept, by simp, by simp, by simp, by simp [fresh]⟩
  case callocFailed | mutexInitFailed | condInitFailed | connectFailed
      | callocReceivingThreadRoutineArgFailed | createReceivingThreadFailed =>
    obtain ⟨here, rfl⟩ := taken
    have fresh := inv.life.receivingNotCreated (by simp [here])
    exact ⟨epipeKept, sendingKept, by simp, by simp, fun _ _ => fresh, by simp⟩
  case lock | relock =>
    obtain ⟨-, rfl⟩ := taken
    exact ⟨epipeKept, sendingKept, fun _ set => meets.resolve_left set, by simp, by simp, by simp⟩
  case originSet =>
    obtain ⟨⟨here, -⟩, rfl⟩ := taken
    exact ⟨epipeKept, sendingKept, fun _ set => orderly.leaves (.inl here) set, by simp, by simp,
      by simp⟩
  case copy =>
    obtain ⟨here, rfl⟩ := taken
    have passed := orderly.leaves (.inr here) (inv.slot.copy here)
    exact ⟨epipeKept, sendingKept, by simp, by simp [passed], by simp, by simp⟩
  case exit op rest copied =>
    obtain ⟨here, next, exited, rfl⟩ := taken
    have same := (exitOp_frame exited).1
    refine ⟨epipeKept, sendingKept, by simp, ?_, ?_, by simp⟩
    · rintro ops r ⟨⟩
      obtain ⟨passed, copied⟩ := orderly.copied _ r here
      exact ⟨by simpa only [same] using passed, result.trans copied⟩
    · rintro ops ⟨⟩
      exact same.trans (orderly.failed _ here)
  case ret copied =>
    obtain ⟨here, rfl⟩ := taken
    cases copied with
    | none =>
        refine ⟨epipeKept, sendingKept, by simp [MainPc.afterExit], by simp, by simp, ?_⟩
        rintro ret (⟨⟨⟩⟩ | ⟨⟨⟩⟩)
        exact .inl ⟨orderly.failed _ here, rfl⟩
    | some r =>
        obtain ⟨passed, copied⟩ := orderly.copied _ r here
        obtain ⟨ret, status⟩ := (inv.slot.copied _ r here).retStatus
        have after : MainPc.afterExit (some r) = .closeSocket ret := by
          simp [MainPc.afterExit, status]
        refine ⟨epipeKept, sendingKept, by simp [after], by simp, by simp, ?_⟩
        rintro ret' ending
        obtain rfl : ret = ret' := by simpa [after] using ending
        exact .inr ⟨passed, copied ▸ status⟩
  case closeSocket ret =>
    obtain ⟨here, rfl⟩ := taken
    refine ⟨epipeKept, sendingKept, by simp, by simp, by simp, ?_⟩
    rintro ret' (⟨⟨⟩⟩ | ⟨⟨⟩⟩)
    exact orderly.ending ret (.inl here)
  all_goals
    obtain ⟨-, rfl⟩ := taken
    exact ⟨epipeKept, sendingKept, by simp, by simp, by simp, by simp⟩

theorem Orderly.run (run : system.RunWhere RejectionPostedFirst actions s) : Orderly s := by
  refine run.stateInvariant (I := Orderly) ?_ ?_
  · rintro s ⟨stdin, rfl⟩
    constructor <;> simp [State.start, ThreadsResult.unset]
  · intro _ s a s' run orderly meets step
    have inv := Invariants.run run
    have taken := (system_step.mp step).2
    cases a with
    | main a => exact orderly.usockitClient inv meets taken
    | receivingThread a => exact orderly.receivingThreadRoutine inv taken
    | sendingThread a => exact orderly.sendingThreadRoutine inv meets taken
    | server a =>
        simp only [act, Option.map_eq_some_iff] at taken
        obtain ⟨socket, -, rfl⟩ := taken
        exact orderly.frame rfl (.inl rfl) id id orderly.sending

/-! ## The rejection in the slot -/

/-- The receiving thread has read the rejection, and posts it or has posted it. -/
def State.Rejected (s : State) : Prop :=
  (∃ p, s.receivingThread = .post fuckOffResult p ∧
      (p.signals = true → s.threadsResultDest.result = fuckOffResult.toThreadsResult)) ∨
    (s.receivingThread = .ended ∧ s.threadsResultDest.result = fuckOffResult.toThreadsResult)

theorem State.Rejected.created (rejected : s.Rejected) : s.receivingThread ≠ .notCreated := by
  rcases rejected with ⟨p, here, -⟩ | ⟨here, -⟩ <;> simp [here]

theorem State.Rejected.not_abort (rejected : s.Rejected) : s.receivingThread ≠ .abort := by
  rcases rejected with ⟨p, here, -⟩ | ⟨here, -⟩ <;> simp [here]

theorem afterRead_fuckOffString :
    ReceivingThreadPc.afterRead fuckOffString = .post fuckOffResult .lock := rfl

theorem State.Rejected.frame (rejected : s.Rejected)
    (receiving : s'.receivingThread = s.receivingThread)
    (result : s.threadsResultDest.result = fuckOffResult.toThreadsResult →
      s'.threadsResultDest.result = fuckOffResult.toThreadsResult) : s'.Rejected :=
  rejected.imp (fun ⟨p, here, stored⟩ => ⟨p, receiving ▸ here, fun signals => result (stored signals)⟩)
    fun ⟨ended, stored⟩ => ⟨receiving ▸ ended, result stored⟩

theorem Orderly.replaces (orderly : Orderly s) (inv : Invariants s)
    (unposted : s.receivingThread.passed = false) :
    fuckOffResult.replaces s.threadsResultDest.result = true := by
  cases origin : s.threadsResultDest.result.origin with
  | none => simp [ReceivingThreadResult.replaces, origin]
  | sending => rw [orderly.epipe origin]; rfl
  | receiving => simp [inv.slot.receiving origin] at unposted

theorem State.Rejected.receivingThreadRoutine {a : ReceivingThreadAction} (rejected : s.Rejected)
    (orderly : Orderly s) (inv : Invariants s) (taken : receivingThreadRoutine s a = some s') :
    s'.Rejected := by
  obtain ⟨created, same, ⟨aside, working, after⟩ | ⟨r, p, b, next, -, here, posted, rfl⟩ |
    ⟨r, -, here, rfl⟩⟩ := receivingThreadRoutine_cases taken
  · rcases rejected with ⟨p, here, -⟩ | ⟨here, -⟩ <;> simp [here] at working
  · obtain ⟨rfl, stored⟩ : fuckOffResult = r ∧ (p.signals = true →
        s.threadsResultDest.result = fuckOffResult.toThreadsResult) := by
      rcases rejected with ⟨q, there, stored⟩ | ⟨there, -⟩
      · obtain ⟨rfl, rfl⟩ : fuckOffResult = r ∧ q = p := by simpa [there] using here
        exact ⟨rfl, stored⟩
      · simp [there] at here
    cases b <;> simp only [post, require_eq_some] at posted <;> obtain ⟨guard, rfl⟩ := posted
    case testKeep =>
      have replaced := orderly.replaces inv (by simp [here, guard])
      simp [replaced] at guard
    all_goals exact .inl ⟨_, rfl, by simp_all⟩
  · rcases rejected with ⟨p, there, stored⟩ | ⟨there, -⟩
    · obtain ⟨rfl, rfl⟩ : fuckOffResult = r ∧ p = .signal := by simpa [there] using here
      exact .inr ⟨rfl, stored rfl⟩
    · simp [there] at here

theorem State.Rejected.sendingThreadRoutine {a : SendingThreadAction} (rejected : s.Rejected)
    (inv : Invariants s) (taken : sendingThreadRoutine s a = some s') : s'.Rejected := by
  obtain ⟨created, same, ⟨aside, -⟩ | ⟨r, p, b, next, -, here, posted, rfl⟩ |
    ⟨r, -, here, rfl⟩⟩ := sendingThreadRoutine_cases taken
  · exact rejected.frame same (by simp [aside.threadsResultDest])
  · refine rejected.frame rfl fun stored => ?_
    cases b <;> simp only [threadsDispatchResult, post, require_eq_some] at posted <;>
      obtain ⟨guard, rfl⟩ := posted
    case store =>
      have empty := inv.slot.sendingStore r (by simp [here, guard])
      simp [stored, ReceivingThreadResult.toThreadsResult] at empty
    all_goals exact stored
  · exact rejected.frame rfl id

theorem rejected_of_read (run : system.RunWhere RejectionPostedFirst actions s)
    (read : readsRejection ∈ actions) : s.Rejected := by
  refine run.invariant (I := fun actions s => readsRejection ∈ actions → s.Rejected) ?_ ?_ read
  · simp
  · intro earlier s a s' run rejected meets step read
    have inv := Invariants.run run
    have taken := (system_step.mp step).2
    rcases List.mem_append.mp read with before | now
    · have rejected := rejected before
      cases a with
      | main a =>
          obtain ⟨-, -, result, receiving, -⟩ := usockitClient_frame inv.life taken
          have same := receiving.resolve_right fun fresh => rejected.created fresh.1
          exact rejected.frame same (by simp [result])
      | receivingThread a => exact rejected.receivingThreadRoutine (Orderly.run run) inv taken
      | sendingThread a => exact rejected.sendingThreadRoutine inv taken
      | server a =>
          simp only [act, Option.map_eq_some_iff] at taken
          obtain ⟨socket, -, rfl⟩ := taken
          exact rejected.frame rfl id
    · obtain rfl := List.mem_singleton.mp now
      simp only [act, readsRejection, receivingThreadRoutine, require_eq_some] at taken
      obtain ⟨-, rfl⟩ := taken
      exact .inl ⟨.lock, afterRead_fuckOffString, by simp⟩

theorem fuckOff_of_orderly {ret : RetStatus} (orderly : Orderly s) (rejected : s.Rejected)
    (returned : s.main = .returned ret) : ret = .successFuckOff := by
  obtain ⟨fresh, -⟩ | ⟨passed, status⟩ := orderly.ending ret (.inr returned)
  · exact absurd fresh rejected.created
  · have stored : s.threadsResultDest.result = fuckOffResult.toThreadsResult := by
      rcases rejected with ⟨p, here, stored⟩ | ⟨-, stored⟩
      · exact stored (by simpa [here] using passed)
      · exact stored
    rw [stored] at status
    exact (Option.some.inj status).symm

/-! ## Runs that violate the condition -/

def MainPc.decided : MainPc → Bool
  | .exit _ _ | .closeSocket _ | .returned _ | .unreachable => true
  | _ => false

def MainPc.rejected : MainPc → Bool
  | .exit _ (some r) => r.retStatus = some .successFuckOff
  | .closeSocket ret | .returned ret => ret = .successFuckOff
  | _ => false

/-- The slot has, or the sending thread is about to store, a result that the receiving thread does
not replace. -/
def State.Lost (s : State) : Prop :=
  (∃ r p, s.sendingThread = .dispatchResult r p ∧ (p = .test ∨ p = .store) ∧ r ≠ epipeResult ∧
      s.threadsResultDest.result.origin = .none) ∨
    (s.threadsResultDest.result.origin = .sending ∧
      s.threadsResultDest.result ≠ epipeResult.toThreadsResult)

/-- main does not return USOCKIT_CLIENT_RET_STATUS_SUCCESS_FUCK_OFF any more. -/
structure Doomed (s : State) : Prop where
  rejected : s.main.rejected = false
  doomed : s.main.decided = true ∨
    ((s.main = .test ∨ s.main = .copy) ∧ s.threadsResultDest.result.origin = .sending) ∨ s.Lost

@[simp] theorem MainPc.decided_signalled (pc : MainPc) : pc.signalled.decided = pc.decided := by
  cases pc <;> rfl

@[simp] theorem MainPc.rejected_signalled (pc : MainPc) : pc.signalled.rejected = pc.rejected := by
  cases pc <;> rfl

theorem Doomed.frame (doomed : Doomed s) (main : s'.main = s.main ∨ s'.main = s.main.signalled)
    (result : s'.threadsResultDest.result = s.threadsResultDest.result)
    (sending : ∀ r p, s.sendingThread = .dispatchResult r p → p = .test ∨ p = .store →
      s.threadsResultDest.result.origin = .none →
      ∃ q, s'.sendingThread = .dispatchResult r q ∧ (q = .test ∨ q = .store)) : Doomed s' := by
  obtain ⟨notRejected, doomed⟩ := doomed
  constructor
  · rcases main with main | main <;> simpa [main] using notRejected
  · rcases doomed with decided | leaves | ⟨r, p, here, holds, other, unset⟩ | bad
    · exact .inl (by rcases main with main | main <;> simpa [main] using decided)
    · rw [result]
      exact .inr (.inl (by rcases main with main | main <;> simpa [main] using leaves))
    · obtain ⟨q, there, kept⟩ := sending r p here holds unset
      exact .inr (.inr (.inl ⟨r, q, there, kept, other, result ▸ unset⟩))
    · exact .inr (.inr (.inr (result ▸ bad)))

theorem Doomed.receivingThreadRoutine {a : ReceivingThreadAction} (doomed : Doomed s)
    (inv : Invariants s) (taken : receivingThreadRoutine s a = some s') : Doomed s' := by
  obtain ⟨created, same, ⟨aside, -⟩ | ⟨r, p, b, next, -, here, posted, rfl⟩ |
    ⟨r, -, here, rfl⟩⟩ := receivingThreadRoutine_cases taken
  · exact doomed.frame (.inl aside.main) (by rw [aside.threadsResultDest])
      fun r p there holds _ => ⟨p, same ▸ there, holds⟩
  · cases b <;> simp only [post, require_eq_some] at posted <;> obtain ⟨guard, rfl⟩ := posted
    case store =>
      obtain ⟨notMain, notSending⟩ := inv.owned.receiving_excludes (by simp [here, guard])
      have replaces := inv.slot.receivingStore r (by simp [here, guard])
      obtain ⟨notRejected, decided | ⟨leaves, -⟩ | ⟨r', q, there, holds, -⟩ | ⟨origin, bad⟩⟩ :=
        doomed
      · exact ⟨notRejected, .inl decided⟩
      · rcases leaves with leaves | leaves <;> simp [leaves] at notMain
      · rcases holds with rfl | rfl <;> simp [there] at notSending
      · simp only [ReceivingThreadResult.replaces, origin, reduceCtorEq, true_and, false_or,
          decide_eq_true_eq] at replaces
        exact absurd (ThreadsResult.eq_epipe origin replaces.2) bad
    all_goals
      exact doomed.frame (.inl rfl) rfl fun r p there holds _ => ⟨p, there, holds⟩
  · exact doomed.frame (.inr rfl) rfl fun r p there holds _ => ⟨p, there, holds⟩

theorem Doomed.sendingThreadRoutine {a : SendingThreadAction} (doomed : Doomed s)
    (inv : Invariants s) (taken : sendingThreadRoutine s a = some s') : Doomed s' := by
  obtain ⟨created, same, ⟨aside, working, -⟩ | ⟨r, p, b, next, -, here, posted, rfl⟩ |
    ⟨r, -, here, rfl⟩⟩ := sendingThreadRoutine_cases taken
  · exact doomed.frame (.inl aside.main) (by rw [aside.threadsResultDest])
      fun r p there => by simp [there] at working
  · cases b <;> simp only [threadsDispatchResult, post, require_eq_some] at posted <;>
      obtain ⟨guard, rfl⟩ := posted
    case store =>
      obtain ⟨notMain, -⟩ := inv.owned.sending_excludes (by simp [here, guard])
      have empty := inv.slot.sendingStore r (by simp [here, guard])
      obtain ⟨notRejected, decided | ⟨leaves, -⟩ | ⟨r', q, there, -, other, -⟩ | ⟨origin, bad⟩⟩ :=
        doomed
      · exact ⟨notRejected, .inl decided⟩
      · rcases leaves with leaves | leaves <;> simp [leaves] at notMain
      · obtain ⟨rfl, -⟩ : r' = r ∧ q = p := by simpa [there] using here
        refine ⟨notRejected, .inr (.inr (.inr ⟨rfl, ?_⟩))⟩
        simpa [SendingThreadResult.toThreadsResult] using other
      · simp [origin] at empty
    all_goals
      refine doomed.frame (.inl rfl) rfl ?_
      intro r' q there holds empty
      obtain ⟨rfl, rfl⟩ : r = r' ∧ p = q := by simpa [here] using there
      simp_all
  · exact doomed.frame (.inr rfl) rfl fun r p there => by simp_all

@[simp] theorem MainPc.decided_afterExit (copied : Option ThreadsResult) :
    (MainPc.afterExit copied).decided = true := by
  unfold afterExit
  repeat' split
  all_goals rfl

theorem MainPc.rejected_afterExit {copied : Option ThreadsResult}
    (notRejected : (MainPc.exit [] copied).rejected = false) :
    (MainPc.afterExit copied).rejected = false := by
  cases copied with
  | none => rfl
  | some r =>
      unfold afterExit
      cases status : r.retStatus <;> simp_all [rejected]

theorem ThreadsResult.retStatus_sending {r : ThreadsResult} (origin : r.origin = .sending) :
    r.retStatus ≠ some .successFuckOff := by
  obtain ⟨_, union⟩ := r
  obtain rfl : _ = ThreadsResultOrigin.sending := origin
  cases union with
  | sending r =>
      by_cases eof : r.status = 0
      · simp [retStatus, eof]
      · cases func : r.func <;> simp [retStatus, eof, func]
  | uninitialized | receiving => simp [retStatus]

theorem Doomed.usockitClient {a : MainAction} (doomed : Doomed s) (inv : Invariants s)
    (taken : usockitClient s a = some s') : Doomed s' := by
  obtain ⟨-, -, result, -, sending⟩ := usockitClient_frame inv.life taken
  have lost : s.Lost → s'.Lost := by
    rintro (⟨r, p, here, holds, other, unset⟩ | bad)
    · have same := sending.resolve_right fun fresh => by simp [here] at fresh
      exact .inl ⟨r, p, same ▸ here, holds, other, result ▸ unset⟩
    · exact .inr (result ▸ bad)
  obtain ⟨notRejected, doomed⟩ := doomed
  cases a <;> simp only [Client.usockitClient, require_eq_some, Option.ite_none_right_eq_some,
    Option.map_eq_some_iff] at taken
  case exit op rest copied =>
    obtain ⟨here, next, exited, rfl⟩ := taken
    rw [here] at notRejected
    exact ⟨by cases copied <;> exact notRejected, .inl rfl⟩
  case ret copied =>
    obtain ⟨here, rfl⟩ := taken
    exact ⟨MainPc.rejected_afterExit (here ▸ notRejected), .inl (by simp)⟩
  case closeSocket ret =>
    obtain ⟨here, rfl⟩ := taken
    rw [here] at notRejected
    exact ⟨notRejected, .inl rfl⟩
  case copy =>
    obtain ⟨here, rfl⟩ := taken
    have set := inv.slot.copy here
    have origin : s.threadsResultDest.result.origin = .sending := by
      rcases doomed with decided | ⟨-, origin⟩ | ⟨-, -, -, -, -, unset⟩ | ⟨origin, -⟩
      · simp [here, MainPc.decided] at decided
      · exact origin
      · exact absurd unset set
      · exact origin
    refine ⟨?_, .inl rfl⟩
    simpa [MainPc.rejected] using ThreadsResult.retStatus_sending origin
  case originSet =>
    obtain ⟨⟨here, -⟩, rfl⟩ := taken
    refine ⟨rfl, .inr ?_⟩
    rcases doomed with decided | ⟨-, origin⟩ | bad
    · simp [here, MainPc.decided] at decided
    · exact .inl ⟨.inr rfl, origin⟩
    · exact .inr (lost bad)
  case originNone =>
    obtain ⟨⟨here, unset⟩, rfl⟩ := taken
    refine ⟨rfl, .inr (.inr ?_)⟩
    rcases doomed with decided | ⟨-, origin⟩ | bad
    · simp [here, MainPc.decided] at decided
    · simp [origin] at unset
    · exact lost bad
  case socketFailed | callocFailed | mutexInitFailed | condInitFailed | connectFailed
      | callocReceivingThreadRoutineArgFailed | createReceivingThreadFailed
      | callocSendingThreadRoutineArgFailed | createSendingThreadFailed =>
    obtain ⟨-, rfl⟩ := taken
    exact ⟨rfl, .inl rfl⟩
  all_goals
    obtain ⟨guard, rfl⟩ := taken
    refine ⟨rfl, .inr (.inr (lost ?_))⟩
    simpa [guard, MainPc.decided] using doomed

theorem Doomed.act {a : Action} (doomed : Doomed s) (inv : Invariants s)
    (taken : act s a = some s') : Doomed s' := by
  cases a with
  | main a => exact doomed.usockitClient inv taken
  | receivingThread a => exact doomed.receivingThreadRoutine inv taken
  | sendingThread a => exact doomed.sendingThreadRoutine inv taken
  | server a =>
      simp only [Client.act, Option.map_eq_some_iff] at taken
      obtain ⟨socket, -, rfl⟩ := taken
      exact doomed.frame (.inl rfl) rfl fun r p there holds _ => ⟨p, there, holds⟩

theorem Orderly.not_rejected (orderly : Orderly s) (inv : Invariants s)
    (empty : s.threadsResultDest.result.origin = .none) : s.main.rejected = false := by
  cases here : s.main with
  | exit ops copied =>
      cases copied with
      | none => rfl
      | some r =>
          exact absurd ((orderly.copied ops r here).2 ▸ empty) (inv.slot.copied ops r here).origin
  | closeSocket ret =>
      obtain ⟨-, rfl⟩ | ⟨-, status⟩ := orderly.ending ret (.inl here)
      · rfl
      · exact absurd empty (ThreadsResult.origin_of_retStatus status)
  | returned ret =>
      obtain ⟨-, rfl⟩ | ⟨-, status⟩ := orderly.ending ret (.inr here)
      · rfl
      · exact absurd empty (ThreadsResult.origin_of_retStatus status)
  | _ => rfl

theorem Slot.sending_of_unpassed (slot : Slot s)
    (set : s.threadsResultDest.result.origin ≠ .none)
    (unposted : s.receivingThread.passed ≠ true) :
    s.threadsResultDest.result.origin = .sending := by
  cases origin : s.threadsResultDest.result.origin with
  | none => exact absurd origin set
  | sending => rfl
  | receiving => exact absurd (slot.receiving origin) unposted

theorem Orderly.violated {a : Action} (orderly : Orderly s) (inv : Invariants s)
    (violates : ¬ RejectionPostedFirst s a) (taken : Client.act s a = some s') : Doomed s' := by
  unfold RejectionPostedFirst at violates
  split at violates
  case h_1 | h_2 =>
    simp only [Client.act, Client.usockitClient, require_eq_some] at taken
    obtain ⟨-, rfl⟩ := taken
    exact ⟨rfl, .inl rfl⟩
  case h_3 r p =>
    obtain ⟨unset, other⟩ := Classical.not_imp.mp violates
    simp only [Client.act, Client.sendingThreadRoutine, Option.ite_none_right_eq_some,
      Option.map_eq_some_iff, threadsDispatchResult, post, require_eq_some] at taken
    obtain ⟨here, next, ⟨-, rfl⟩, rfl⟩ := taken
    exact ⟨orderly.not_rejected inv unset, .inr (.inr (.inl ⟨r, .test, rfl, .inl rfl, other, unset⟩))⟩
  case h_4 | h_5 =>
    obtain ⟨set, unposted⟩ := not_or.mp violates
    simp only [Client.act, Client.usockitClient, require_eq_some] at taken
    obtain ⟨-, rfl⟩ := taken
    exact ⟨rfl, .inr (.inl ⟨.inl rfl, inv.slot.sending_of_unpassed set unposted⟩)⟩
  case h_6 => exact absurd trivial violates

theorem orderly_or_doomed (run : system.Run actions s) :
    system.RunWhere RejectionPostedFirst actions s ∨ Doomed s := by
  induction run with
  | start initial => exact .inl (.start initial)
  | @snoc actions s a s' run _ step ih =>
      have inv := Invariants.run run
      have taken := (system_step.mp step).2
      rcases ih with orderly | doomed
      · by_cases meets : RejectionPostedFirst s a
        · exact .inl (.snoc orderly meets step)
        · exact .inr ((Orderly.run orderly).violated inv meets taken)
      · exact .inr (doomed.act inv taken)

theorem rejection_returned_iff {ret : RetStatus} (run : system.Run actions s)
    (read : readsRejection ∈ actions) (returned : s.main = .returned ret) :
    ret = .successFuckOff ↔ system.RunWhere RejectionPostedFirst actions s := by
  constructor
  · rintro rfl
    refine (orderly_or_doomed run).resolve_right fun doomed => ?_
    simpa [returned, MainPc.rejected] using doomed.rejected
  · intro orderly
    exact fuckOff_of_orderly (Orderly.run orderly) (rejected_of_read orderly read) returned

end Usockit.Client
