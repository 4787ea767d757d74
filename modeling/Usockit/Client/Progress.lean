import Usockit.Client.Posting

namespace Usockit.Client
open Foundation

variable {s s' : State}

/-! ## The steps that a thread has left -/

def PostPc.stepsToEnd : PostPc → Nat
  | .lock => 5
  | .test => 4
  | .store => 3
  | .unlock => 2
  | .signal => 1

/-- A cancelled thread ends in its next read() or write(). -/
def SendingThreadPc.stepsToEnd : SendingThreadPc → Nat
  | .freeArg => 3
  | .sigmask => 2
  | .read | .write _ => 1
  | .dispatchResult _ p => p.stepsToEnd
  | .notCreated | .ended => 0

def ReceivingThreadPc.stepsToEnd : ReceivingThreadPc → Nat
  | .freeArg => 2
  | .read | .abort => 1
  | .post _ p => p.stepsToEnd
  | .notCreated | .ended => 0

section
attribute [local simp] PostPc.stepsToEnd SendingThreadPc.stepsToEnd ReceivingThreadPc.stepsToEnd

theorem post_advances (t : Thread) (result : ThreadsResult) (replaces : ThreadsResult → Bool)
    {dest : ThreadsResultDest} {p : PostPc} (running : p ≠ .signal)
    (free : p = .lock → dest.mutex = none) :
    ∃ b next, post t result replaces dest p b = some next ∧ next.1.stepsToEnd < p.stepsToEnd ∧
      (b = .lock → p = .lock) := by
  cases p with
  | lock =>
      exact ⟨.lock, (.test, { dest with mutex := some t }), by simp [post, free], by simp, by simp⟩
  | test =>
      cases stores : replaces dest.result with
      | true => exact ⟨.testStore, (.store, dest), by simp [post, stores], by simp, by simp⟩
      | false => exact ⟨.testKeep, (.unlock, dest), by simp [post, stores], by simp, by simp⟩
  | store =>
      exact ⟨.store, (.unlock, { dest with result := result }), by simp [post], by simp, by simp⟩
  | unlock =>
      exact ⟨.unlock, (.signal, { dest with mutex := none }), by simp [post], by simp, by simp⟩
  | signal => exact absurd rfl running

theorem receivingThread_posts {r : ReceivingThreadResult} {p : PostPc}
    (here : s.receivingThread = .post r p)
    (free : p = .lock → s.threadsResultDest.mutex = none) :
    ∃ a s', receivingThreadRoutine s a = some s' ∧
      s'.receivingThread.stepsToEnd < s.receivingThread.stepsToEnd := by
  by_cases signals : p = .signal
  · refine ⟨.signal r, { s with receivingThread := .ended, main := s.main.signalled },
      by simp [receivingThreadRoutine, here, signals], ?_⟩
    simp [here, signals]
  · obtain ⟨b, next, posted, closer, -⟩ := post_advances .receiving r.toThreadsResult
      r.replaces signals free
    refine ⟨.post r p b, _, by simp [receivingThreadRoutine, here, posted]; rfl, ?_⟩
    simpa [here] using closer

theorem sendingThread_posts {r : SendingThreadResult} {p : PostPc}
    (here : s.sendingThread = .dispatchResult r p)
    (free : p = .lock → s.threadsResultDest.mutex = none) :
    ∃ a s', sendingThreadRoutine s a = some s' ∧
      s'.sendingThread.stepsToEnd < s.sendingThread.stepsToEnd ∧
      ∀ r q, a = .dispatchResult r q .lock → p = .lock := by
  by_cases signals : p = .signal
  · refine ⟨.signal r, { s with sendingThread := .ended, main := s.main.signalled },
      by simp [sendingThreadRoutine, here, signals], ?_, nofun⟩
    simp [here, signals]
  · obtain ⟨b, next, posted, closer, lock⟩ := post_advances .sending r.toThreadsResult
      (fun posted => posted.origin = .none) signals free
    refine ⟨.dispatchResult r p b, _,
      by simp [sendingThreadRoutine, here, threadsDispatchResult, posted]; rfl, ?_, ?_⟩
    · simpa [here] using closer
    · rintro r' q ⟨⟩
      exact lock rfl

theorem receivingThread_advances (requested : s.cancelRequested .receiving = true)
    (free : s.threadsResultDest.mutex = none ∨ ∀ r, s.receivingThread ≠ .post r .lock)
    (created : s.receivingThread ≠ .notCreated) (noAbort : s.receivingThread ≠ .abort)
    (running : s.receivingThread ≠ .ended) :
    ∃ a s', receivingThreadRoutine s a = some s' ∧
      s'.receivingThread.stepsToEnd < s.receivingThread.stepsToEnd := by
  cases here : s.receivingThread with
  | freeArg =>
      exact ⟨.freeArg, { s with receivingThread := .read }, by simp [receivingThreadRoutine, here],
        by simp⟩
  | read =>
      exact ⟨.cancelRead, { s with receivingThread := .ended },
        by simp [receivingThreadRoutine, here, requested], by simp⟩
  | post r p =>
      rw [← here]
      refine receivingThread_posts here fun locks => free.resolve_right fun others => ?_
      exact others r (locks ▸ here)
  | notCreated => exact absurd here created
  | abort => exact absurd here noAbort
  | ended => exact absurd here running

theorem sendingThread_advances (requested : s.cancelRequested .sending = true)
    (free : s.threadsResultDest.mutex = none ∨ ∀ r, s.sendingThread ≠ .dispatchResult r .lock)
    (created : s.sendingThread ≠ .notCreated) (running : s.sendingThread ≠ .ended) :
    ∃ a s', sendingThreadRoutine s a = some s' ∧
      s'.sendingThread.stepsToEnd < s.sendingThread.stepsToEnd := by
  cases here : s.sendingThread with
  | freeArg =>
      exact ⟨.freeArg, { s with sendingThread := .sigmask }, by simp [sendingThreadRoutine, here],
        by simp⟩
  | sigmask =>
      exact ⟨.sigmask, { s with sendingThread := .read, sigpipeBlocked := true },
        by simp [sendingThreadRoutine, here], by simp⟩
  | read =>
      exact ⟨.cancelRead, { s with sendingThread := .ended },
        by simp [sendingThreadRoutine, here, requested], by simp⟩
  | write w =>
      exact ⟨.cancelWrite w, { s with sendingThread := .ended },
        by simp [sendingThreadRoutine, here, requested], by simp⟩
  | dispatchResult r p =>
      rw [← here]
      obtain ⟨a, s', taken, closer, -⟩ := sendingThread_posts here fun locks =>
        free.resolve_right fun others => others r (locks ▸ here)
      exact ⟨a, s', taken, closer⟩
  | notCreated => exact absurd here created
  | ended => exact absurd here running
end

/-! ## Created threads -/

def MainPc.receivingThreadCreated : MainPc → Bool
  | .callocSendingThreadRoutineArg | .createSendingThread => true
  | .lock | .test | .wait | .asleep | .woken | .copy | .exit _ (some _) => true
  | .exit ops none => .join .receiving ∈ ops
  | _ => false

def MainPc.sendingThreadCreated : MainPc → Bool
  | .lock | .test | .wait | .asleep | .woken | .copy | .exit _ (some _) => true
  | _ => false

structure Created (s : State) : Prop where
  receiving : s.main.receivingThreadCreated = true → s.receivingThread ≠ .notCreated
  sending : s.main.sendingThreadCreated = true → s.sendingThread ≠ .notCreated

@[simp] theorem MainPc.receivingThreadCreated_signalled (pc : MainPc) :
    pc.signalled.receivingThreadCreated = pc.receivingThreadCreated := by
  cases pc <;> rfl

@[simp] theorem MainPc.sendingThreadCreated_signalled (pc : MainPc) :
    pc.signalled.sendingThreadCreated = pc.sendingThreadCreated := by
  cases pc <;> rfl

@[simp] theorem MainPc.receivingThreadCreated_afterExit (copied : Option ThreadsResult) :
    (MainPc.afterExit copied).receivingThreadCreated = false := by
  unfold afterExit
  repeat' split
  all_goals rfl

@[simp] theorem MainPc.sendingThreadCreated_afterExit (copied : Option ThreadsResult) :
    (MainPc.afterExit copied).sendingThreadCreated = false := by
  unfold afterExit
  repeat' split
  all_goals rfl

theorem sendingThreadRoutine_created {a : SendingThreadAction}
    (taken : sendingThreadRoutine s a = some s') : s'.sendingThread ≠ .notCreated := by
  cases a <;> simp only [sendingThreadRoutine, require_eq_some, Option.ite_none_right_eq_some,
    Option.map_eq_some_iff] at taken
  case dispatchResult r p b =>
    obtain ⟨-, next, -, rfl⟩ := taken
    simp
  case wrote w k =>
    obtain ⟨-, rfl⟩ := taken
    simp only [SendingThreadPc.afterWrite]
    split <;> simp
  case writeFailed w errno =>
    obtain ⟨⟨here, -⟩, rfl⟩ := taken
    unfold State.writeFailed
    split <;> simp [here]
  all_goals
    obtain ⟨-, rfl⟩ := taken
    simp

theorem receivingThreadRoutine_created {a : ReceivingThreadAction}
    (taken : receivingThreadRoutine s a = some s') : s'.receivingThread ≠ .notCreated := by
  cases a <;> simp only [receivingThreadRoutine, require_eq_some, Option.ite_none_right_eq_some,
    Option.map_eq_some_iff] at taken
  case post r p b =>
    obtain ⟨-, next, -, rfl⟩ := taken
    simp
  case received buffer =>
    obtain ⟨-, rfl⟩ := taken
    simp only [ReceivingThreadPc.afterRead]
    repeat' split
    all_goals simp
  case abort =>
    obtain ⟨here, rfl⟩ := taken
    simp [here]
  all_goals
    obtain ⟨-, rfl⟩ := taken
    simp

theorem Created.usockitClient {a : MainAction} (created : Created s)
    (taken : usockitClient s a = some s') : Created s' := by
  obtain ⟨receiving, sending⟩ := created
  cases a <;> simp only [Client.usockitClient, require_eq_some, Option.ite_none_right_eq_some,
    Option.map_eq_some_iff] at taken
  case exit op rest copied =>
    obtain ⟨here, next, exited, rfl⟩ := taken
    obtain ⟨sameReceiving, sameSending, -⟩ := exitOp_frame exited
    rw [here] at receiving sending
    cases copied with
    | none =>
        refine ⟨fun joins => ?_, by simp [MainPc.sendingThreadCreated]⟩
        rw [sameReceiving]
        have member : .join .receiving ∈ rest := by simpa [MainPc.receivingThreadCreated] using joins
        exact receiving (by simp [MainPc.receivingThreadCreated, member])
    | some r => exact ⟨fun _ => sameReceiving ▸ receiving rfl, fun _ => sameSending ▸ sending rfl⟩
  case ret copied =>
    obtain ⟨here, rfl⟩ := taken
    constructor <;> simp
  all_goals
    obtain ⟨guard, rfl⟩ := taken
    constructor <;> simp_all [MainPc.receivingThreadCreated, MainPc.sendingThreadCreated,
      endReceivingThreadOps, releaseOps]

theorem Created.run {ok : State → Action → Prop} {actions : List Action}
    (run : system.RunWhere ok actions s) : Created s := by
  refine run.stateInvariant (I := Created) ?_ ?_
  · rintro s ⟨stdin, rfl⟩
    constructor <;> simp [State.start, MainPc.receivingThreadCreated, MainPc.sendingThreadCreated]
  · intro _ s a s' run created _ step
    have taken := (system_step.mp step).2
    cases a with
    | main a => exact created.usockitClient taken
    | receivingThread a =>
        have kept := receivingThreadRoutine_created taken
        obtain ⟨receiving, sending⟩ := created
        obtain ⟨-, same, ⟨aside, -⟩ | ⟨r, p, b, next, -, -, -, rfl⟩ | ⟨r, -, -, rfl⟩⟩ :=
          receivingThreadRoutine_cases taken
        · exact ⟨fun _ => kept, by simpa [aside.main, same] using sending⟩
        · exact ⟨fun _ => kept, sending⟩
        · exact ⟨fun _ => kept, by simpa using sending⟩
    | sendingThread a =>
        have kept := sendingThreadRoutine_created taken
        obtain ⟨receiving, sending⟩ := created
        obtain ⟨-, same, ⟨aside, -⟩ | ⟨r, p, b, next, -, -, -, rfl⟩ | ⟨r, -, -, rfl⟩⟩ :=
          sendingThreadRoutine_cases taken
        · exact ⟨by simpa [aside.main, same] using receiving, fun _ => kept⟩
        · exact ⟨receiving, fun _ => kept⟩
        · exact ⟨by simpa using receiving, fun _ => kept⟩
    | server a =>
        simp only [act, Option.map_eq_some_iff] at taken
        obtain ⟨socket, -, rfl⟩ := taken
        exact ⟨created.receiving, created.sending⟩

end Usockit.Client
