import Usockit.Foundation.Potential
import Usockit.Client.Connection
import Usockit.Client.Forwarding

namespace Usockit.Client
open Foundation

variable {s s' : State} {actions : List Action}

/-! ## What a step costs -/

def MainAction.fails : MainAction → Bool
  | .socketFailed | .callocFailed | .mutexInitFailed | .condInitFailed | .connectFailed => true
  | .callocReceivingThreadRoutineArgFailed | .createReceivingThreadFailed => true
  | .callocSendingThreadRoutineArgFailed | .createSendingThreadFailed => true
  | _ => false

/-- A call in the client has failed. -/
def Action.fails : Action → Bool
  | .main a => a.fails
  | .receivingThread (.readFailed _) => true
  | .sendingThread (.readFailed _) | .sendingThread (.writeFailed _ _) => true
  | _ => false

/-- The steps of the client count, but for a spurious wake-up and a write() that takes nothing. -/
def Action.cost : Action → Nat
  | .server _ | .main .wake => 0
  | .sendingThread (.wrote w k) => if k = 0 ∧ w.offered ≠ [] then 0 else 1
  | _ => 1

/-- connect() has succeeded or write() has taken bytes, for which it may have had to wait. -/
def Action.waited : Action → Bool
  | .main .connect | .sendingThread (.wrote _ _) => true
  | _ => false

def Action.credit : Action → Nat
  | .server (.send bytes) => bytes.length
  | .main .wake => 60
  | _ => 0

def ReceivingThreadPc.potential : ReceivingThreadPc → Nat
  | .freeArg => 8
  | .read => 7
  | .abort => 1
  | .post _ p => p.stepsToEnd
  | .notCreated | .ended => 0

def SendingThreadPc.potential : SendingThreadPc → Nat
  | .freeArg => 9
  | .sigmask => 8
  | .read => 7
  | .write w => w.offered.length + 8
  | .dispatchResult _ p => p.stepsToEnd
  | .notCreated | .ended => 0

def MainPc.potential (unset : Bool) : MainPc → Nat
  | .socket => 40
  | .calloc => 39
  | .mutexInit => 38
  | .condInit => 37
  | .connect => 36
  | .callocReceivingThreadRoutineArg => 35
  | .createReceivingThread => 34
  | .callocSendingThreadRoutineArg => 33
  | .createSendingThread => 32
  | .lock => 31
  | .test => if unset then 29 else 22
  | .wait => 28
  | .asleep => 27
  | .woken => if unset then 30 else 23
  | .copy => 21
  | .exit ops _ => ops.length + 3
  | .closeSocket _ => 2
  | .returned _ | .unreachable => 0

/-- What the two threads have left to do, and what they may still read. -/
def State.threadsPotential (s : State) : Nat :=
  s.receivingThread.potential + s.socket.fromServer.unread.length + s.sendingThread.potential +
    3 * s.stdin.unread.length + if s.fate = .running then 1 else 0

def State.potential (s : State) : Nat := 20 * s.main.potential s.unset + s.threadsPotential

/-! ## Results and cancellation -/

def MainPc.cancels : MainPc → Bool
  | .exit _ _ | .closeSocket _ | .returned _ | .unreachable => true
  | _ => false

/-- A thread that is done with the slot has left a result there, or main has cancelled it. -/
structure Settled (s : State) : Prop where
  receiving : s.receivingThread.passed = true →
    s.threadsResultDest.result.origin ≠ .none ∨ s.cancelRequested .receiving = true
  sending : s.sendingThread.passed = true →
    s.threadsResultDest.result.origin ≠ .none ∨ s.cancelRequested .sending = true
  cancelled : ∀ t, s.cancelRequested t = true → s.main.cancels = true

@[simp] theorem MainPc.cancels_signalled (pc : MainPc) : pc.signalled.cancels = pc.cancels := by
  unfold signalled
  split <;> rfl

@[simp] theorem MainPc.cancels_afterExit (copied : Option ThreadsResult) :
    (MainPc.afterExit copied).cancels = true := by
  rcases MainPc.afterExit_cases copied with ⟨ret, same⟩ | same <;> simp [same, cancels]

theorem MainPc.cancels_eq (main : s'.main = s.main ∨ s'.main = s.main.signalled) :
    s'.main.cancels = s.main.cancels := by
  rcases main with same | same <;> simp [same]

/-- What a thread finds or leaves in the slot when it is done with it. -/
theorem post_settled {u : Thread} {result : ThreadsResult} {replaces : ThreadsResult → Bool}
    {dest : ThreadsResultDest} {p : PostPc} {b : PostAction} {next : PostPc × ThreadsResultDest}
    (named : result.origin ≠ .none)
    (keeps : replaces dest.result = false → dest.result.origin ≠ .none)
    (taken : post u result replaces dest p b = some next) :
    (dest.result.origin ≠ .none → next.2.result.origin ≠ .none) ∧
      (next.1.signals = true → p.signals = true ∨ next.2.result.origin ≠ .none) := by
  cases b <;> simp only [post, require_eq_some] at taken <;> obtain ⟨guard, rfl⟩ := taken
  case testKeep => exact ⟨id, fun _ => .inr (keeps guard.2)⟩
  case store => exact ⟨fun _ => named, fun _ => .inr named⟩
  all_goals simp [guard, PostPc.signals]

theorem Settled.sendingThreadRoutine {a : SendingThreadAction} (settled : Settled s)
    (taken : sendingThreadRoutine s a = some s') : Settled s' := by
  have cancels := MainPc.cancels_eq (sendingThreadRoutine_main taken)
  cases a <;> simp only [Client.sendingThreadRoutine, require_eq_some,
    Option.ite_none_right_eq_some, Option.map_eq_some_iff] at taken
  case dispatchResult r p b =>
    obtain ⟨here, next, posted, rfl⟩ := taken
    obtain ⟨kept, signals⟩ := post_settled (by simp [SendingThreadResult.toThreadsResult])
      (by simp) posted
    refine ⟨fun passed => (settled.receiving passed).imp_left kept, fun passed => ?_, ?_⟩
    · rcases signals passed with before | set
      · exact (settled.sending (by simpa [here] using before)).imp_left kept
      · exact .inl set
    · exact settled.cancelled
  case signal r =>
    obtain ⟨here, rfl⟩ := taken
    refine ⟨settled.receiving, fun _ => settled.sending (by simp [here]), fun t requested => ?_⟩
    exact cancels.trans (settled.cancelled t requested)
  case wrote w k =>
    obtain ⟨here, rfl⟩ := taken
    refine ⟨settled.receiving, ?_, settled.cancelled⟩
    unfold SendingThreadPc.afterWrite
    split <;> simp [SendingThreadPc.passed]
  case writeFailed w errno =>
    obtain ⟨here, rfl⟩ := taken
    unfold State.writeFailed
    split
    · exact ⟨settled.receiving, settled.sending, settled.cancelled⟩
    · exact ⟨settled.receiving, by simp, settled.cancelled⟩
  all_goals
    obtain ⟨guard, rfl⟩ := taken
    exact ⟨settled.receiving, by simp [guard, SendingThreadPc.passed], settled.cancelled⟩

theorem Settled.receivingThreadRoutine {a : ReceivingThreadAction} (settled : Settled s)
    (taken : receivingThreadRoutine s a = some s') : Settled s' := by
  have cancels := MainPc.cancels_eq (receivingThreadRoutine_main taken)
  cases a <;> simp only [Client.receivingThreadRoutine, require_eq_some,
    Option.ite_none_right_eq_some, Option.map_eq_some_iff] at taken
  case post r p b =>
    obtain ⟨here, next, posted, rfl⟩ := taken
    obtain ⟨kept, signals⟩ := post_settled (by simp [ReceivingThreadResult.toThreadsResult])
      (by simp +contextual [ReceivingThreadResult.replaces]) posted
    refine ⟨fun passed => ?_, fun passed => (settled.sending passed).imp_left kept, ?_⟩
    · rcases signals passed with before | set
      · exact (settled.receiving (by simpa [here] using before)).imp_left kept
      · exact .inl set
    · exact settled.cancelled
  case signal r =>
    obtain ⟨here, rfl⟩ := taken
    refine ⟨fun _ => settled.receiving (by simp [here]), settled.sending, fun t requested => ?_⟩
    exact cancels.trans (settled.cancelled t requested)
  case received buffer =>
    obtain ⟨here, rfl⟩ := taken
    refine ⟨?_, settled.sending, settled.cancelled⟩
    unfold ReceivingThreadPc.afterRead
    repeat' split
    all_goals simp
  all_goals
    obtain ⟨guard, rfl⟩ := taken
    exact ⟨by simp [guard], settled.sending, settled.cancelled⟩

theorem Settled.usockitClient {a : MainAction} (settled : Settled s) (life : Lifecycle s)
    (taken : usockitClient s a = some s') : Settled s' := by
  obtain ⟨-, -, result, receiving, sending⟩ := usockitClient_frame life taken
  have requested : ∀ t, s.cancelRequested t = true → s'.cancelRequested t = true := by
    intro t before
    cases a <;> simp only [Client.usockitClient, require_eq_some, Option.ite_none_right_eq_some,
      Option.map_eq_some_iff] at taken
    case exit op rest copied =>
      obtain ⟨-, next, exited, rfl⟩ := taken
      have kept : next.cancelRequested t = true := exitOp_requested exited fun _ => before
      exact kept
    all_goals
      obtain ⟨-, rfl⟩ := taken
      exact before
  have cancelled : ∀ t, s'.cancelRequested t = true → s'.main.cancels = true := by
    intro t after
    cases a <;> simp only [Client.usockitClient, require_eq_some, Option.ite_none_right_eq_some,
      Option.map_eq_some_iff] at taken
    case exit op rest copied =>
      obtain ⟨-, next, exited, rfl⟩ := taken
      rfl
    case ret copied =>
      obtain ⟨-, rfl⟩ := taken
      exact MainPc.cancels_afterExit copied
    all_goals
      obtain ⟨guard, rfl⟩ := taken
      have before := settled.cancelled t after
      simp_all [MainPc.cancels]
  refine ⟨fun passed => ?_, fun passed => ?_, cancelled⟩ <;> rw [result]
  · have before : s.receivingThread.passed = true := by
      rcases receiving with same | ⟨-, created⟩
      · rwa [same] at passed
      · simp [created] at passed
    exact (settled.receiving before).imp_right (requested _)
  · have before : s.sendingThread.passed = true := by
      rcases sending with same | ⟨-, created⟩
      · rwa [same] at passed
      · simp [created, SendingThreadPc.passed] at passed
    exact (settled.sending before).imp_right (requested _)

theorem Settled.run {ok : State → Action → Prop} (run : system.RunWhere ok actions s) :
    Settled s := by
  refine run.stateInvariant ?_ ?_
  · rintro _ ⟨stdin, rfl⟩
    constructor <;> simp [State.start, SendingThreadPc.passed]
  · intro _ s a s' before settled _ step
    have taken := (system_step.mp step).2
    cases a with
    | main a => exact settled.usockitClient (Invariants.run before).life taken
    | receivingThread a => exact settled.receivingThreadRoutine taken
    | sendingThread a => exact settled.sendingThreadRoutine taken
    | server a =>
        simp only [act, Option.map_eq_some_iff] at taken
        obtain ⟨socket, -, rfl⟩ := taken
        exact ⟨settled.receiving, settled.sending, settled.cancelled⟩

/-- A thread that is about to signal finds main asleep only after a result has been stored. -/
theorem Settled.signals (settled : Settled s) (asleep : s.main = .asleep)
    (passed : s.receivingThread.passed = true ∨ s.sendingThread.passed = true) :
    s.threadsResultDest.result.origin ≠ .none := by
  have uncancelled : ∀ t, s.cancelRequested t ≠ true := fun t requested => by
    simpa [asleep, MainPc.cancels] using settled.cancelled t requested
  rcases passed with passed | passed
  · exact (settled.receiving passed).resolve_right (uncancelled _)
  · exact (settled.sending passed).resolve_right (uncancelled _)

/-! ## The potential pays for the steps -/

theorem Stream.length_unread_read {stream : Stream} {buffer : List Byte}
    (here : buffer <+: stream.unread) :
    (stream.read buffer.length).unread.length + buffer.length = stream.unread.length := by
  have fits := here.length_le
  simp only [Stream.unread, Stream.read, List.length_drop] at fits ⊢
  omega

theorem post_pays {u : Thread} {result : ThreadsResult} {replaces : ThreadsResult → Bool}
    {dest : ThreadsResultDest} {p : PostPc} {b : PostAction} {next : PostPc × ThreadsResultDest}
    (taken : post u result replaces dest p b = some next) :
    next.1.stepsToEnd < p.stepsToEnd := by
  cases b <;> simp only [post, require_eq_some] at taken <;> obtain ⟨guard, rfl⟩ := taken <;>
    simp [guard, PostPc.stepsToEnd]

theorem MainPc.potential_mono {unset unset' : Bool} (later : unset' = true → unset = true)
    (pc : MainPc) : pc.potential unset' ≤ pc.potential unset := by
  cases pc <;> simp only [potential] <;> cases unset <;> cases unset' <;> simp_all

theorem MainPc.potential_signalled {pc : MainPc} {unset : Bool}
    (set : pc = .asleep → unset = false) : pc.signalled.potential unset ≤ pc.potential unset := by
  unfold signalled
  split
  · simp [set rfl, potential]
  · exact Nat.le_refl _

theorem usockitClient_pays {a : MainAction} (taken : usockitClient s a = some s') :
    (Action.main a).cost + s'.potential ≤ s.potential + (Action.main a).credit := by
  cases a <;> simp only [usockitClient, require_eq_some, Option.ite_none_right_eq_some,
    Option.map_eq_some_iff] at taken
  case exit op rest copied =>
    obtain ⟨here, next, exited, rfl⟩ := taken
    rcases exitOp_cases exited with ⟨t, -, rfl⟩ | ⟨-, rfl⟩ | ⟨-, -, -, rfl⟩ <;>
      simp only [State.potential, State.threadsPotential, here,
        MainPc.potential, Action.cost, Action.credit, List.length_cons] <;> omega
  case ret copied =>
    obtain ⟨here, rfl⟩ := taken
    rcases MainPc.afterExit_cases copied with ⟨ret, after⟩ | after <;>
      simp only [State.potential, State.threadsPotential, here, after,
        MainPc.potential, Action.cost, Action.credit, List.length_nil] <;> omega
  all_goals
    obtain ⟨guard, rfl⟩ := taken
    simp only [State.potential, State.threadsPotential, State.unset, guard,
      MainPc.potential, Action.cost, Action.credit,
      ReceivingThreadPc.potential, SendingThreadPc.potential, endThreadsOps, endReceivingThreadOps,
      releaseOps, List.length_append, List.length_cons, List.length_nil, decide_eq_true_eq,
      decide_true, decide_false, ↓reduceIte, Bool.false_eq_true]
    first | omega | (split <;> omega)

theorem unset_mono {result result' : ThreadsResult}
    (kept : result.origin ≠ .none → result'.origin ≠ .none) :
    decide (result'.origin = .none) = true → decide (result.origin = .none) = true := by
  simpa using not_imp_not.mp kept

section
attribute [local simp] ReceivingThreadPc.potential.eq_1 ReceivingThreadPc.potential.eq_2
  ReceivingThreadPc.potential.eq_3 ReceivingThreadPc.potential.eq_4
  ReceivingThreadPc.potential.eq_6 SendingThreadPc.potential.eq_1 SendingThreadPc.potential.eq_2
  SendingThreadPc.potential.eq_3 SendingThreadPc.potential.eq_4 SendingThreadPc.potential.eq_5
  SendingThreadPc.potential.eq_7

theorem receivingThreadRoutine_lowers {a : ReceivingThreadAction} (settled : Settled s)
    (running : s.fate = .running) (taken : receivingThreadRoutine s a = some s') :
    s'.main.potential s'.unset ≤ s.main.potential s.unset ∧
      s'.threadsPotential < s.threadsPotential := by
  cases a <;> simp only [receivingThreadRoutine, require_eq_some, Option.ite_none_right_eq_some,
    Option.map_eq_some_iff] at taken
  case received buffer =>
    obtain ⟨⟨here, isPrefix, -⟩, rfl⟩ := taken
    refine ⟨Nat.le_refl _, ?_⟩
    have shorter := Stream.length_unread_read isPrefix
    have read : (ReceivingThreadPc.afterRead buffer).potential < 7 + buffer.length := by
      unfold ReceivingThreadPc.afterRead
      split
      · exact Nat.lt_add_right _ (by decide)
      · split
        · exact Nat.lt_add_right _ (by decide)
        · simp only [ReceivingThreadPc.potential]
          omega
    simp only [State.threadsPotential, here, ReceivingThreadPc.potential.eq_2]
    omega
  case post r p b =>
    obtain ⟨here, next, posted, rfl⟩ := taken
    have kept := (post_settled (by simp [ReceivingThreadResult.toThreadsResult])
      (by simp +contextual [ReceivingThreadResult.replaces]) posted).1
    have closer := post_pays posted
    refine ⟨MainPc.potential_mono (unset_mono kept) _, ?_⟩
    simp only [State.threadsPotential, here, ReceivingThreadPc.potential.eq_4]
    omega
  case signal r =>
    obtain ⟨here, rfl⟩ := taken
    refine ⟨MainPc.potential_signalled fun asleep => ?_, ?_⟩
    · simpa [State.unset] using settled.signals asleep (.inl (by simp [here]))
    · simp [State.threadsPotential, here, PostPc.stepsToEnd]
  case abort =>
    obtain ⟨here, rfl⟩ := taken
    exact ⟨Nat.le_refl _, by simp [State.threadsPotential, running]⟩
  all_goals
    obtain ⟨guard, rfl⟩ := taken
    exact ⟨Nat.le_refl _, by simp [State.threadsPotential, guard, PostPc.stepsToEnd]⟩

theorem SendingThreadPc.afterWrite_pays {w : WriteAll} {k : Nat} (enough : k ≤ w.offered.length) :
    (Action.sendingThread (.wrote w k)).cost + (SendingThreadPc.afterWrite w k).potential ≤
      w.offered.length + 8 := by
  unfold afterWrite
  split
  · next w' next =>
    have split := congrArg List.length (WriteAll.offered_of_accepted next)
    have offers : w.offered ≠ [] := by
      intro nothing
      simp only [WriteAll.accepted, Option.ite_none_right_eq_some] at next
      simp only [WriteAll.offered, List.drop_eq_nil_iff] at nothing
      omega
    simp only [List.length_append, List.length_take, Nat.min_eq_left enough] at split
    simp only [Action.cost, offers, potential, ne_eq, not_false_eq_true, and_true]
    split <;> omega
  · simp only [Action.cost, potential]
    split <;> omega

theorem sendingThreadRoutine_lowers {a : SendingThreadAction} (settled : Settled s)
    (running : s.fate = .running) (taken : sendingThreadRoutine s a = some s') :
    s'.main.potential s'.unset ≤ s.main.potential s.unset ∧
      (Action.sendingThread a).cost + s'.threadsPotential ≤ s.threadsPotential := by
  cases a <;> simp only [sendingThreadRoutine, require_eq_some, Option.ite_none_right_eq_some,
    Option.map_eq_some_iff] at taken
  case received buffer =>
    obtain ⟨⟨here, isPrefix, some_byte, -⟩, rfl⟩ := taken
    refine ⟨Nat.le_refl _, ?_⟩
    have shorter := Stream.length_unread_read isPrefix
    have positive := List.length_pos_iff.mpr some_byte
    simp only [State.threadsPotential, here, SendingThreadPc.potential, Action.cost,
      WriteAll.offered_call]
    omega
  case wrote w k =>
    obtain ⟨⟨here, -, enough⟩, rfl⟩ := taken
    refine ⟨Nat.le_refl _, ?_⟩
    have pays := SendingThreadPc.afterWrite_pays enough
    simp only [State.threadsPotential, here, SendingThreadPc.potential.eq_4]
    omega
  case writeFailed w errno =>
    obtain ⟨⟨here, -⟩, rfl⟩ := taken
    unfold State.writeFailed
    split
    · exact ⟨Nat.le_refl _, by simp [State.threadsPotential, running, Action.cost]; omega⟩
    · refine ⟨Nat.le_refl _, ?_⟩
      simp only [State.threadsPotential, here, SendingThreadPc.potential, PostPc.stepsToEnd,
        Action.cost]
      omega
  case dispatchResult r p b =>
    obtain ⟨here, next, posted, rfl⟩ := taken
    have kept := (post_settled (by simp [SendingThreadResult.toThreadsResult])
      (by simp) posted).1
    have closer := post_pays posted
    refine ⟨MainPc.potential_mono (unset_mono kept) _, ?_⟩
    simp only [State.threadsPotential, here, SendingThreadPc.potential, Action.cost]
    omega
  case signal r =>
    obtain ⟨here, rfl⟩ := taken
    refine ⟨MainPc.potential_signalled fun asleep => ?_, ?_⟩
    · simpa [State.unset] using settled.signals asleep (.inr (by simp [here]))
    · simp only [State.threadsPotential, here, SendingThreadPc.potential, PostPc.stepsToEnd,
        Action.cost]
      omega
  all_goals
    obtain ⟨guard, rfl⟩ := taken
    refine ⟨Nat.le_refl _, ?_⟩
    simp only [State.threadsPotential, guard, SendingThreadPc.potential, PostPc.stepsToEnd,
      Action.cost]
    omega

end

theorem server_pays {a : ServerAction} {socket : Socket}
    (taken : server s.socket a = some socket) :
    (Action.server a).cost + { s with socket := socket }.potential ≤
      s.potential + (Action.server a).credit := by
  cases a <;> simp only [server, require_eq_some] at taken <;> obtain ⟨-, rfl⟩ := taken <;>
    simp only [State.potential, State.threadsPotential, State.unset, Action.cost, Action.credit,
      Stream.unread, List.length_drop, List.length_append] <;> omega

def potential : Potential system Action.cost Action.credit where
  value := State.potential
  pays _ s a s' run step := by
    obtain ⟨running, taken⟩ := system_step.mp step
    have settled := Settled.run run
    cases a with
    | main a => exact usockitClient_pays taken
    | receivingThread a =>
        have lowers := receivingThreadRoutine_lowers settled running taken
        simp only [State.potential, Action.cost, Action.credit]
        omega
    | sendingThread a =>
        have lowers := sendingThreadRoutine_lowers settled running taken
        simp only [State.potential, Action.credit]
        omega
    | server a =>
        simp only [act, Option.map_eq_some_iff] at taken
        obtain ⟨socket, taken, rfl⟩ := taken
        exact server_pays taken

/-! ## A step is always possible -/

/-- A step that counts is possible, in which no call fails but a write() to a closed socket. -/
def State.Moves (s : State) : Prop :=
  ∃ a s', a.cost ≠ 0 ∧ (a.fails = true → s.socket.serverClosed = true) ∧ act s a = some s'

theorem moves_main {a : MainAction} (wake : a ≠ .wake) (works : a.fails = false)
    (taken : usockitClient s a = some s') : s.Moves := by
  refine ⟨.main a, s', ?_, by simp [Action.fails, works], taken⟩
  cases a <;> simp [Action.cost] at wake ⊢

theorem moves_receiving {a : ReceivingThreadAction} (taken : receivingThreadRoutine s a = some s')
    (closer : s'.receivingThread.stepsToEnd < s.receivingThread.stepsToEnd) : s.Moves := by
  refine ⟨.receivingThread a, s', by simp [Action.cost], fun fails => ?_, taken⟩
  cases a with
  | readFailed errno =>
      simp only [receivingThreadRoutine, require_eq_some] at taken
      obtain ⟨⟨here, -⟩, rfl⟩ := taken
      simp [here, ReceivingThreadPc.stepsToEnd, PostPc.stepsToEnd] at closer
  | _ => simp [Action.fails] at fails

theorem moves_sending {a : SendingThreadAction} (taken : sendingThreadRoutine s a = some s')
    (closer : s'.sendingThread.stepsToEnd < s.sendingThread.stepsToEnd) : s.Moves := by
  refine ⟨.sendingThread a, s', ?_, fun fails => ?_, taken⟩
  · cases a with
    | wrote w k =>
        simp only [sendingThreadRoutine, require_eq_some] at taken
        obtain ⟨⟨here, -⟩, rfl⟩ := taken
        simp only [here, SendingThreadPc.afterWrite] at closer
        split at closer <;> simp [SendingThreadPc.stepsToEnd] at closer
    | _ => simp [Action.cost]
  · cases a with
    | readFailed errno =>
        simp only [sendingThreadRoutine, require_eq_some] at taken
        obtain ⟨⟨here, -⟩, rfl⟩ := taken
        simp [here, SendingThreadPc.stepsToEnd, PostPc.stepsToEnd] at closer
    | writeFailed w errno =>
        simp only [sendingThreadRoutine, require_eq_some] at taken
        obtain ⟨⟨here, -⟩, rfl⟩ := taken
        simp only [here, State.writeFailed] at closer
        split at closer <;> simp [SendingThreadPc.stepsToEnd, PostPc.stepsToEnd] at closer
    | _ => simp [Action.fails] at fails

theorem moves_of_receiving_holds (holds : s.receivingThread.holds = true) : s.Moves := by
  cases here : s.receivingThread with
  | post r p =>
      obtain ⟨a, s', taken, closer⟩ := receivingThread_posts here fun locks => by
        simp [here, locks] at holds
      exact moves_receiving taken closer
  | _ => simp [here] at holds

theorem moves_of_sending_holds (holds : s.sendingThread.holds = true) : s.Moves := by
  cases here : s.sendingThread with
  | dispatchResult r p =>
      obtain ⟨a, s', taken, closer, -⟩ := sendingThread_posts here fun locks => by
        simp [here, locks] at holds
      exact moves_sending taken closer
  | _ => simp [here] at holds

/-- Whoever has the mutex can go on. -/
theorem mutex_free_or_moves (owned : Owned s) (main : s.main.holds = false) :
    s.threadsResultDest.mutex = none ∨ s.Moves := by
  cases mutex : s.threadsResultDest.mutex with
  | none => exact .inl rfl
  | some owner =>
      right
      cases owner with
      | main => simp [owned.main.mp mutex] at main
      | receiving => exact moves_of_receiving_holds (owned.receiving.mp mutex)
      | sending => exact moves_of_sending_holds (owned.sending.mp mutex)

theorem moves_read (here : s.sendingThread = .read) : s.Moves := by
  by_cases empty : s.stdin.unread = []
  · exact ⟨.sendingThread .readEof, _, by simp [Action.cost], by simp [Action.fails],
      require_eq_some.mpr ⟨⟨here, empty⟩, rfl⟩⟩
  · refine ⟨.sendingThread (.received (s.stdin.unread.take sendingBufferSize)), _,
      by simp [Action.cost], by simp [Action.fails],
      require_eq_some.mpr ⟨⟨here, List.take_prefix _ _, ?_, List.length_take_le _ _⟩, rfl⟩⟩
    simpa [sendingBufferSize] using empty

theorem moves_write {w : WriteAll} (here : s.sendingThread = .write w) : s.Moves := by
  by_cases closed : s.socket.serverClosed = true
  · exact ⟨.sendingThread (.writeFailed w epipe), _, by simp [Action.cost], fun _ => closed,
      require_eq_some.mpr ⟨⟨here, by simp [epipe], fun _ => closed⟩, rfl⟩⟩
  · refine ⟨.sendingThread (.wrote w w.offered.length), _, ?_, by simp [Action.fails],
      require_eq_some.mpr ⟨⟨here, by simpa using closed, Nat.le_refl _⟩, rfl⟩⟩
    simp [Action.cost]

/-- While nothing is posted, the sending thread has something to do. -/
theorem moves_sendingThread (owned : Owned s) (main : s.main.holds = false)
    (created : s.sendingThread ≠ .notCreated) (running : s.sendingThread ≠ .ended) : s.Moves := by
  cases here : s.sendingThread with
  | notCreated => exact absurd here created
  | ended => exact absurd here running
  | freeArg =>
      exact moves_sending (a := .freeArg) (require_eq_some.mpr ⟨here, rfl⟩)
        (by simp [here, SendingThreadPc.stepsToEnd])
  | sigmask =>
      exact moves_sending (a := .sigmask) (require_eq_some.mpr ⟨here, rfl⟩)
        (by simp [here, SendingThreadPc.stepsToEnd])
  | read => exact moves_read here
  | write w => exact moves_write here
  | dispatchResult r p =>
      rcases mutex_free_or_moves owned main with free | moves
      · obtain ⟨a, s', taken, closer, -⟩ := sendingThread_posts here fun _ => free
        exact moves_sending taken closer
      · exact moves

theorem moves_of_asleep (run : system.Run actions s) (here : s.main = .asleep) : s.Moves := by
  have inv := Invariants.run run
  have settled := Settled.run run
  by_cases set : s.threadsResultDest.result.origin = .none
  · refine moves_sendingThread inv.owned (by simp [here])
      ((Created.run run).sending (by simp [here, MainPc.sendingThreadCreated])) fun ended => ?_
    exact settled.signals here (.inr (by simp [ended])) set
  · rcases inv.slot.pending here set with signals | signals
    · cases posts : s.receivingThread with
      | post r p =>
          obtain ⟨a, s', taken, closer⟩ := receivingThread_posts posts fun locks => by
            simp [posts, locks] at signals
          exact moves_receiving taken closer
      | _ => simp [posts] at signals
    · cases posts : s.sendingThread with
      | dispatchResult r p =>
          obtain ⟨a, s', taken, closer, -⟩ := sendingThread_posts posts fun locks => by
            simp [posts, locks] at signals
          exact moves_sending taken closer
      | _ => simp [posts] at signals

theorem moves_of_exit {ops : List ExitOp} {copied : Option ThreadsResult}
    (run : system.Run actions s) (running : s.fate = .running) (here : s.main = .exit ops copied) :
    s.Moves := by
  cases ops with
  | nil =>
      exact moves_main (a := .ret copied) (by simp) rfl (require_eq_some.mpr ⟨here, rfl⟩)
  | cons op rest =>
      by_cases joined : ∀ t, op = .join t → s.Terminated t
      · obtain ⟨next, exited⟩ := exitOp_enabled joined
        have taken : usockitClient s (.exit op rest copied) =
            some { next with main := .exit rest copied } := by simp [usockitClient, here, exited]
        exact moves_main (by simp) rfl taken
      · obtain ⟨t, rfl, unended⟩ : ∃ t, op = .join t ∧ ¬ s.Terminated t := by simpa using joined
        by_cases aborts : s.receivingThread = .abort
        · exact ⟨.receivingThread .abort, _, by simp [Action.cost], by simp [Action.fails],
            require_eq_some.mpr ⟨aborts, rfl⟩⟩
        · obtain ⟨a, s', byThread, step, -, -, closer⟩ :=
            join_advances run ⟨aborts, running, by simp [here]⟩ here unended
          have taken := (system_step.mp step).2
          cases a with
          | receivingThread a =>
              have same := (receivingThreadRoutine_cases taken).2.1
              exact moves_receiving taken (by simpa [State.threadSteps, same] using closer)
          | sendingThread a =>
              have same := (sendingThreadRoutine_cases taken).2.1
              exact moves_sending taken (by simpa [State.threadSteps, same] using closer)
          | main | server => simp [Action.thread] at byThread

theorem moves (run : system.Run actions s) (running : s.fate = .running)
    (unreturned : ∀ ret, s.main ≠ .returned ret) : s.Moves := by
  have inv := Invariants.run run
  cases here : s.main with
  | asleep => exact moves_of_asleep run here
  | exit ops copied => exact moves_of_exit run running here
  | returned ret => exact absurd here (unreturned ret)
  | unreachable => exact absurd here inv.slot.reachable
  | lock =>
      rcases mutex_free_or_moves inv.owned (by simp [here]) with free | moves
      · exact moves_main (a := .lock) (by simp) rfl (require_eq_some.mpr ⟨⟨here, free⟩, rfl⟩)
      · exact moves
  | woken =>
      rcases mutex_free_or_moves inv.owned (by simp [here]) with free | moves
      · exact moves_main (a := .relock) (by simp) rfl (require_eq_some.mpr ⟨⟨here, free⟩, rfl⟩)
      · exact moves
  | test =>
      by_cases set : s.threadsResultDest.result.origin = .none
      · exact moves_main (a := .originNone) (by simp) rfl (require_eq_some.mpr ⟨⟨here, set⟩, rfl⟩)
      · exact moves_main (a := .originSet) (by simp) rfl (require_eq_some.mpr ⟨⟨here, set⟩, rfl⟩)
  | socket =>
      exact moves_main (a := .socket 3) (by simp) rfl
        (require_eq_some.mpr ⟨⟨here, by decide⟩, rfl⟩)
  | calloc => exact moves_main (a := .calloc) (by simp) rfl (require_eq_some.mpr ⟨here, rfl⟩)
  | mutexInit => exact moves_main (a := .mutexInit) (by simp) rfl (require_eq_some.mpr ⟨here, rfl⟩)
  | condInit => exact moves_main (a := .condInit) (by simp) rfl (require_eq_some.mpr ⟨here, rfl⟩)
  | connect => exact moves_main (a := .connect) (by simp) rfl (require_eq_some.mpr ⟨here, rfl⟩)
  | callocReceivingThreadRoutineArg =>
      exact moves_main (a := .callocReceivingThreadRoutineArg) (by simp) rfl
        (require_eq_some.mpr ⟨here, rfl⟩)
  | createReceivingThread =>
      exact moves_main (a := .createReceivingThread) (by simp) rfl
        (require_eq_some.mpr ⟨here, rfl⟩)
  | callocSendingThreadRoutineArg =>
      exact moves_main (a := .callocSendingThreadRoutineArg) (by simp) rfl
        (require_eq_some.mpr ⟨here, rfl⟩)
  | createSendingThread =>
      exact moves_main (a := .createSendingThread) (by simp) rfl (require_eq_some.mpr ⟨here, rfl⟩)
  | wait => exact moves_main (a := .wait) (by simp) rfl (require_eq_some.mpr ⟨here, rfl⟩)
  | copy => exact moves_main (a := .copy) (by simp) rfl (require_eq_some.mpr ⟨here, rfl⟩)
  | closeSocket ret =>
      exact moves_main (a := .closeSocket ret) (by simp) rfl (require_eq_some.mpr ⟨here, rfl⟩)

/-! ## The client ends -/

theorem credit_of_cost {a : Action} (counts : a.cost ≠ 0) : a.credit = 0 := by
  cases a with
  | main a => cases a <;> simp_all [Action.cost, Action.credit]
  | receivingThread | sendingThread => rfl
  | server => exact absurd rfl counts

theorem cost_le (run : system.Run actions s) : (actions.map Action.cost).sum ≤
    801 + 3 * s.stdin.bytes.length + (actions.map Action.credit).sum := by
  obtain ⟨_, ⟨stdin, rfl⟩, path⟩ := run.exists_exec
  have paid := potential.cost_le (.start ⟨stdin, rfl⟩) path
  have start : potential.value (.start stdin) = 801 + 3 * stdin.length := by
    simp only [potential, State.start, State.potential, MainPc.potential, State.threadsPotential,
      ReceivingThreadPc.potential, Stream.unread, List.drop_nil, List.length_nil,
      SendingThreadPc.potential, List.drop_zero, ↓reduceIte]
    omega
  rw [stdin_of_exec path]
  omega

/-- main is in connect() or the sending thread in write(), which have to wait for a server that does
not accept or not read. -/
structure State.Waits (s : State) : Prop where
  call : s.main = .connect ∨ ∃ w, s.sendingThread = .write w
  unclosed : s.socket.serverClosed = false

theorem unclosed_of_connect (run : system.Run actions s) (here : s.main = .connect) :
    s.socket.serverClosed = false := by
  have unconnected := (Wired.run run).before (by simp [here, MainPc.beforeConnect])
  refine Bool.eq_false_iff.mpr fun closed => ?_
  simp [connected_of_serverClosed run closed] at unconnected

theorem waits_of_waited {a : Action} (run : system.Run actions s) (taken : act s a = some s')
    (waited : a.waited = true) : s.Waits := by
  unfold Action.waited at waited
  split at waited
  · have here := (require_eq_some.mp taken).1
    exact ⟨.inl here, unclosed_of_connect run here⟩
  · have guard := (require_eq_some.mp taken).1
    exact ⟨.inr ⟨_, guard.1⟩, guard.2.1⟩
  · cases waited

theorem serverClosed_of_cost {a : Action} (taken : act s a = some s') (counts : a.cost ≠ 0) :
    s'.socket.serverClosed = s.socket.serverClosed := by
  refine (act_ownSocket taken ?_).serverClosed
  rintro b rfl
  exact counts rfl

theorem ends (run : system.Run actions s) :
    ∃ more t, system.exec s more = some t ∧
      (∀ a ∈ more, a.cost ≠ 0 ∧ (a.waited = true → s.socket.serverClosed = false)) ∧
      ((∃ ret, t.main = .returned ret) ∨ t.fate ≠ .running) := by
  have reached := potential.reaches
    (p := fun a => a.cost ≠ 0 ∧ (a.waited = true → s.socket.serverClosed = false))
    (I := fun _ t => t.socket.serverClosed = s.socket.serverClosed)
    (g := fun t => (∃ ret, t.main = .returned ret) ∨ t.fate ≠ .running) ?_ run rfl
  · obtain ⟨more, t, path, only, -, -, ended⟩ := reached
    exact ⟨more, t, path, only, ended⟩
  · intro actions t run same going
    have running : t.fate = .running := by simpa using (not_or.mp going).2
    obtain ⟨a, t', counts, -, taken⟩ :=
      moves run running fun ret returned => going (.inl ⟨ret, returned⟩)
    refine ⟨a, t', ⟨counts, fun waited => ?_⟩, counts, credit_of_cost counts,
      system_step.mpr ⟨running, taken⟩, (serverClosed_of_cost taken counts).trans same⟩
    exact same ▸ (waits_of_waited run taken waited).unclosed

/-- usockit_client takes no more steps than its input and what the server sends account for. With
its input there to be read, only connect() and write() can make it wait until it ends, for a server
that has not closed. -/
structure Terminates (actions : List Action) (s : State) : Prop where
  bounded : (actions.map Action.cost).sum ≤
    801 + 3 * s.stdin.bytes.length + (actions.map Action.credit).sum
  moves : s.fate = .running → (∀ ret, s.main ≠ .returned ret) → s.Waits ∨
    ∃ a s', a.cost ≠ 0 ∧ a.waited = false ∧ (a.fails = true → s.socket.serverClosed = true) ∧
      system.step s a = some s'
  ends : s.fate = .running → ∃ more t, system.exec s more = some t ∧
    (∀ a ∈ more, a.cost ≠ 0 ∧ (a.waited = true → s.socket.serverClosed = false)) ∧
    ((∃ ret, t.main = .returned ret) ∨ t.fate ≠ .running)

theorem client_terminates (run : system.Run actions s) : Terminates actions s := by
  refine ⟨cost_le run, ?_, fun _ => ends run⟩
  intro running unreturned
  obtain ⟨a, s', counts, closed, taken⟩ := moves run running unreturned
  by_cases waited : a.waited = true
  · exact .inl (waits_of_waited run taken waited)
  · exact .inr ⟨a, s', counts, by simpa using waited, closed, system_step.mpr ⟨running, taken⟩⟩

theorem client_terminates_startUp :
    ∃ s, system.exec (.start [104, 105]) startUp = some s ∧ s.fate = .running ∧
      Terminates startUp s := by
  obtain ⟨s, path, running⟩ :
      ∃ s, system.exec (.start [104, 105]) startUp = some s ∧ s.fate = .running :=
    System.exists_exec (by decide +kernel)
  exact ⟨s, path, running, client_terminates (System.run_of_exec ⟨_, rfl⟩ path)⟩

end Usockit.Client
