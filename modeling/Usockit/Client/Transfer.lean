import Usockit.Client.Connection
import Usockit.Client.Ending
import Usockit.Client.Termination

namespace Usockit.Client
open Foundation

variable {s s' : State} {actions : List Action}

/-! ## Runs in which no call fails -/

def Works (_ : State) (a : Action) : Prop := a.fails = false

instance (s : State) (a : Action) : Decidable (Works s a) := inferInstanceAs (Decidable (_ = _))

theorem works_of_mem (run : system.RunWhere Works actions s) : ∀ a ∈ actions, a.fails = false := by
  induction run with
  | start => simp
  | snoc _ works _ ih => simpa [or_imp, forall_and] using ⟨ih, works⟩

/-- main leaves with a result that one of the threads has posted. -/
structure Flawless (actions : List Action) (s : State) : Prop where
  exit : ∀ ops, s.main ≠ .exit ops none
  ending : ∀ ret, s.main = .closeSocket ret ∨ s.main = .returned ret →
    ∃ r ∈ posts actions, r.retStatus = some ret

theorem Flawless.aside {a : Action} (flawless : Flawless actions s)
    (main : s'.main = s.main ∨ s'.main = s.main.signalled) : Flawless (actions ++ [a]) s' where
  exit ops here := flawless.exit ops (MainPc.eq_of_signalled main (by simp) here)
  ending ret left := by
    obtain ⟨r, posted, status⟩ := flawless.ending ret <| left.imp
      (MainPc.eq_of_signalled main (by simp)) (MainPc.eq_of_signalled main (by simp))
    exact ⟨r, by simp [posts_snoc, posted], status⟩

theorem Flawless.usockitClient {a : MainAction} (flawless : Flawless actions s)
    (law : Law actions s) (works : a.fails = false) (taken : usockitClient s a = some s') :
    Flawless (actions ++ [.main a]) s' := by
  have same : posts (actions ++ [.main a]) = posts actions := by simp [posts_snoc, Action.posts]
  cases a <;> simp only [Client.usockitClient, require_eq_some, Option.ite_none_right_eq_some,
    Option.map_eq_some_iff] at taken
  case exit op rest copied =>
    obtain ⟨here, next, -, rfl⟩ := taken
    refine ⟨?_, by simp⟩
    rintro ops ⟨⟩
    exact flawless.exit _ here
  case ret copied =>
    obtain ⟨here, rfl⟩ := taken
    refine ⟨by simp, fun ret left => ?_⟩
    rw [same]
    cases copied with
    | none => exact absurd here (flawless.exit [])
    | some r =>
        refine ⟨r, law.copied _ _ here, ?_⟩
        simp only [MainPc.afterExit] at left
        split at left <;> simp_all
  case closeSocket ret =>
    obtain ⟨here, rfl⟩ := taken
    refine ⟨by simp, fun ret left => ?_⟩
    obtain rfl : _ = ret := by simpa using left
    exact same ▸ flawless.ending _ (.inl here)
  case socketFailed | callocFailed | mutexInitFailed | condInitFailed | connectFailed
      | callocReceivingThreadRoutineArgFailed | createReceivingThreadFailed
      | callocSendingThreadRoutineArgFailed | createSendingThreadFailed => cases works
  all_goals
    obtain ⟨-, rfl⟩ := taken
    exact ⟨by simp, by simp⟩

theorem Flawless.run (run : system.RunWhere Works actions s) : Flawless actions s := by
  refine run.invariant ?_ ?_
  · rintro _ ⟨stdin, rfl⟩
    constructor <;> simp [State.start]
  · intro actions s a s' before flawless works step
    have taken := (system_step.mp step).2
    cases a with
    | main a => exact flawless.usockitClient (.run before) works taken
    | receivingThread a => exact flawless.aside (receivingThreadRoutine_main taken)
    | sendingThread a => exact flawless.aside (sendingThreadRoutine_main taken)
    | server a =>
        simp only [act, Option.map_eq_some_iff] at taken
        obtain ⟨socket, -, rfl⟩ := taken
        exact flawless.aside (.inl rfl)

/-! ## Nothing comes from the server -/

theorem failed_of_post (run : system.Run actions s) :
    ∀ readErrno p b, .receivingThread (.post ⟨.readFailure, readErrno⟩ p b) ∈ actions →
      .receivingThread (.readFailed readErrno) ∈ actions := by
  induction run with
  | start => simp
  | @snoc actions s a s' run _ step ih =>
      intro readErrno p b posted
      refine List.mem_append_left _ ?_
      rcases List.mem_append.mp posted with before | now
      · exact ih readErrno p b before
      · obtain rfl := List.mem_singleton.mp now
        have taken := (system_step.mp step).2
        simp only [act, receivingThreadRoutine, Option.ite_none_right_eq_some] at taken
        exact (ReadLoop.run run).failed readErrno p taken.1

/-- When no call fails and nothing comes from the server, the end of the standard input is all that
is posted. -/
theorem eof_of_mem_posts {r : ThreadsResult} (run : system.RunWhere Works actions s)
    (silent : s.socket.fromServer.bytes = []) (posted : r ∈ posts actions) :
    r.retStatus = some .successEof := by
  have works := works_of_mem run
  rcases posted_of_mem_posts posted with ⟨sending, rfl⟩ | ⟨⟨type, readErrno⟩, rfl⟩
  · have truthful := (Forwarding.run run.run).posted sending (posting_of_mem_posts posted)
    have zero : sending.status = 0 := by
      by_contra failed
      rcases truthful.failed failed with ⟨-, member⟩ | ⟨-, w, member⟩
      · cases works _ member
      · cases works _ member
    simp [ThreadsResult.retStatus, SendingThreadResult.toThreadsResult, zero]
  · obtain ⟨a, member, posts⟩ := List.mem_filterMap.mp posted
    exfalso
    cases type with
    | fuckOff =>
        have read : fuckOffString ∈ readResults actions := by
          unfold Action.posts at posts
          split at posts <;> cases posts <;> exact readsRejection_of_post run.run _ _ _ member
        exact received_of_reads run.run read silent
    | readFailure =>
        have failed : .receivingThread (.readFailed readErrno) ∈ actions := by
          unfold Action.posts at posts
          split at posts <;> cases posts <;> exact failed_of_post run.run _ _ _ member
        cases works _ failed

/-- The receiving thread goes to abort() only at the end of the server's stream. -/
theorem closed_of_abort {ok : State → Action → Prop} (run : system.RunWhere ok actions s) :
    s.receivingThread = .abort → s.socket.serverClosed = true := by
  refine run.stateInvariant
    (I := fun s => s.receivingThread = .abort → s.socket.serverClosed = true) ?_ ?_
  · rintro _ ⟨stdin, rfl⟩
    simp [State.start]
  · intro _ s a s' before closed _ step aborts
    have taken := (system_step.mp step).2
    cases a with
    | main a =>
        have socket := act_ownSocket (a := .main a) taken (by simp)
        have same := (usockitClient_frame (Invariants.run before).life taken).2.2.2.1
        exact socket.serverClosed.trans (closed ((same.resolve_right (by simp [aborts])) ▸ aborts))
    | receivingThread a =>
        have socket := act_ownSocket (a := .receivingThread a) taken (by simp)
        rw [socket.serverClosed]
        cases a <;> simp only [act, receivingThreadRoutine, require_eq_some,
          Option.ite_none_right_eq_some, Option.map_eq_some_iff] at taken
        case received buffer =>
          obtain ⟨⟨-, -, -, closes⟩, rfl⟩ := taken
          exact (closes (ReceivingThreadPc.afterRead_eq_abort.mp aborts)).2
        case post r p b =>
          obtain ⟨-, next, -, rfl⟩ := taken
          cases aborts
        case abort =>
          obtain ⟨here, rfl⟩ := taken
          exact closed here
        all_goals
          obtain ⟨-, rfl⟩ := taken
          cases aborts
    | sendingThread a =>
        have socket := act_ownSocket (a := .sendingThread a) taken (by simp)
        have same := (sendingThreadRoutine_cases taken).2.1
        exact socket.serverClosed.trans (closed (same ▸ aborts))
    | server a =>
        simp only [act, Option.map_eq_some_iff] at taken
        obtain ⟨socket, taken, rfl⟩ := taken
        cases a <;> simp only [server, require_eq_some] at taken <;> obtain ⟨-, rfl⟩ := taken
        · exact closed aborts
        · rfl

/-! ## The transfer -/

/-- What the sending thread has to write fits into its buffer. -/
theorem sending_fits {ok : State → Action → Prop} (run : system.RunWhere ok actions s) :
    ∀ w, s.sendingThread = .write w → w.offered.length ≤ sendingBufferSize := by
  refine run.stateInvariant
    (I := fun s => ∀ w, s.sendingThread = .write w → w.offered.length ≤ sendingBufferSize) ?_ ?_
  · rintro _ ⟨stdin, rfl⟩
    simp [State.start]
  · rintro _ s a s' before fits - step w here
    have taken := (system_step.mp step).2
    cases a with
    | main a =>
        rcases (usockitClient_frame (Invariants.run before).life taken).2.2.2.2 with
          same | ⟨-, created⟩
        · exact fits w (same ▸ here)
        · simp [created] at here
    | receivingThread a => exact fits w ((receivingThreadRoutine_cases taken).2.1 ▸ here)
    | server a =>
        simp only [act, Option.map_eq_some_iff] at taken
        obtain ⟨socket, -, rfl⟩ := taken
        exact fits w here
    | sendingThread a =>
        cases a <;> simp only [act, sendingThreadRoutine, require_eq_some,
          Option.ite_none_right_eq_some, Option.map_eq_some_iff] at taken
        case received buffer =>
          obtain ⟨⟨-, -, -, short⟩, rfl⟩ := taken
          obtain rfl := SendingThreadPc.write.inj here
          exact short
        case wrote v k =>
          obtain ⟨⟨earlier, -⟩, rfl⟩ := taken
          simp only [SendingThreadPc.afterWrite] at here
          split at here
          · next next =>
            obtain rfl := SendingThreadPc.write.inj here
            have split := congrArg List.length (WriteAll.offered_of_accepted next)
            have before := fits v earlier
            rw [List.length_append] at split
            omega
          · cases here
        case writeFailed v errno =>
          obtain ⟨⟨earlier, -⟩, rfl⟩ := taken
          unfold State.writeFailed at here
          split at here
          · exact fits w here
          · cases here
        case dispatchResult r p b =>
          obtain ⟨-, next, -, rfl⟩ := taken
          cases here
        all_goals
          obtain ⟨-, rfl⟩ := taken
          cases here

/-- A step of the client brings it closer to its end. -/
structure Transfers (s : State) (a : Action) (s' : State) : Prop where
  step : system.step s a = some s'
  counts : a.cost ≠ 0
  works : a.fails = false
  running : s'.fate = .running
  closer : s'.potential < s.potential

theorem exists_transfers (run : system.RunWhere Works actions s) (running : s.fate = .running)
    (isOpen : s.socket.serverClosed = false) (unreturned : ∀ ret, s.main ≠ .returned ret) :
    ∃ a s', Transfers s a s' := by
  obtain ⟨a, s', counts, closed, taken⟩ := moves run.run running unreturned
  have works : a.fails = false := by
    by_contra fails
    simp [closed (by simpa using fails)] at isOpen
  have step := system_step.mpr ⟨running, taken⟩
  have run' : system.RunWhere Works (actions ++ [a]) s' := .snoc run works step
  have isOpen' := (serverClosed_of_cost taken counts).trans isOpen
  have paid := potential.pays actions s a s' run.run step
  rw [credit_of_cost counts] at paid
  refine ⟨a, s', step, counts, works, ?_, ?_⟩
  · exact running_of_not_abort run' fun aborts => by simp [closed_of_abort run' aborts] at isOpen'
  · change a.cost + s'.potential ≤ s.potential + 0 at paid
    omega

/-- A client that has got nothing from the server and in which no call has failed returns
SUCCESS_EOF. -/
theorem successEof_of_returned {ret : RetStatus} (run : system.RunWhere Works actions s)
    (silent : s.socket.fromServer.bytes = []) (returned : s.main = .returned ret) :
    ret = .successEof := by
  obtain ⟨r, posted, status⟩ := (Flawless.run run).ending ret (.inr returned)
  rw [eof_of_mem_posts run silent posted] at status
  exact (Option.some.inj status).symm

end Usockit.Client
