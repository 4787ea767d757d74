import Usockit.Client.Step

namespace Usockit.Client
open Foundation

variable {s s' : State}

/-! ## The exits and the threads -/

def MainPc.createsReceivingThread : MainPc → Bool
  | .socket | .calloc | .mutexInit | .condInit | .connect => true
  | .callocReceivingThreadRoutineArg | .createReceivingThread => true
  | _ => false

def MainPc.createsSendingThread : MainPc → Bool
  | .socket | .calloc | .mutexInit | .condInit | .connect => true
  | .callocReceivingThreadRoutineArg | .createReceivingThread => true
  | .callocSendingThreadRoutineArg | .createSendingThread | .exit _ none => true
  | _ => false

structure Lifecycle (s : State) : Prop where
  receivingNotCreated : s.main.createsReceivingThread = true → s.receivingThread = .notCreated
  sendingNotCreated : s.main.createsSendingThread = true → s.sendingThread = .notCreated
  failed : ∀ ops, s.main = .exit ops none → .unlock ∉ ops
  exit : ∀ ops r, s.main = .exit ops (some r) → ops <:+ endThreadsOps ++ releaseOps
  requested : ∀ ops r, s.main = .exit ops (some r) →
    ∀ t, t ≠ .main → .cancel t ∉ ops → s.cancelRequested t = true

@[simp] theorem MainPc.createsReceivingThread_signalled (pc : MainPc) :
    pc.signalled.createsReceivingThread = pc.createsReceivingThread := by
  cases pc <;> rfl

@[simp] theorem MainPc.createsSendingThread_signalled (pc : MainPc) :
    pc.signalled.createsSendingThread = pc.createsSendingThread := by
  cases pc <;> rfl

@[simp] theorem MainPc.createsReceivingThread_afterExit (copied : Option ThreadsResult) :
    (MainPc.afterExit copied).createsReceivingThread = false := by
  unfold afterExit
  repeat' split
  all_goals rfl

@[simp] theorem MainPc.createsSendingThread_afterExit (copied : Option ThreadsResult) :
    (MainPc.afterExit copied).createsSendingThread = false := by
  unfold afterExit
  repeat' split
  all_goals rfl

@[simp] theorem MainPc.afterExit_ne_exit {copied copied' : Option ThreadsResult}
    {ops : List ExitOp} : MainPc.afterExit copied ≠ .exit ops copied' := by
  unfold afterExit
  repeat' split
  all_goals simp

@[simp] theorem MainPc.signalled_eq {pc q : MainPc} (other : q ≠ .woken) :
    pc.signalled = q ↔ pc = q ∧ q ≠ .asleep := by
  cases pc <;> simp [signalled] <;> grind

theorem Lifecycle.frame (life : Lifecycle s)
    (main : s'.main = s.main ∨ s'.main = s.main.signalled)
    (requested : s'.cancelRequested = s.cancelRequested)
    (receiving : s.receivingThread = .notCreated → s'.receivingThread = .notCreated)
    (sending : s.sendingThread = .notCreated → s'.sendingThread = .notCreated) : Lifecycle s' := by
  obtain ⟨h₁, h₂, h₃, h₄, h₅⟩ := life
  have same : ∀ ops copied, s'.main = .exit ops copied → s.main = .exit ops copied := by
    rcases main with main | main <;> simp [main]
  constructor
  case failed => exact fun ops here => h₃ ops (same _ _ here)
  case exit => exact fun ops r here => h₄ ops r (same _ _ here)
  case requested => exact fun ops r here => requested ▸ h₅ ops r (same _ _ here)
  all_goals rcases main with main | main <;> simp_all

theorem exitOp_cases {op : ExitOp} (taken : exitOp s op = some s') :
    (∃ t, op = .cancel t ∧
      s' = { s with cancelRequested := Function.update s.cancelRequested t true }) ∨
    (op = .unlock ∧
      s' = { s with threadsResultDest := { s.threadsResultDest with mutex := none } }) ∨
    ((∀ t, op ≠ .cancel t) ∧ op ≠ .unlock ∧ (∀ t, op = .join t → s.Terminated t) ∧ s' = s) := by
  cases op <;> simp only [exitOp, require_eq_some, Option.some.injEq] at taken
  case cancel t => exact .inl ⟨t, rfl, taken.symm⟩
  case unlock => exact .inr (.inl ⟨rfl, taken.symm⟩)
  case join t =>
    obtain ⟨ended, rfl⟩ := taken
    exact .inr (.inr ⟨by simp, by simp, by simpa using ended, rfl⟩)
  all_goals exact .inr (.inr ⟨by simp, by simp, by simp, taken.symm⟩)

theorem exitOp_frame {op : ExitOp} (taken : exitOp s op = some s') :
    s'.receivingThread = s.receivingThread ∧ s'.sendingThread = s.sendingThread ∧
      s'.threadsResultDest.result = s.threadsResultDest.result ∧
      s'.sigpipeBlocked = s.sigpipeBlocked ∧ s'.fate = s.fate := by
  rcases exitOp_cases taken with ⟨t, -, rfl⟩ | ⟨-, rfl⟩ | ⟨-, -, -, rfl⟩ <;> simp

theorem exitOp_requested {op : ExitOp} {t : Thread} (taken : exitOp s op = some s')
    (requested : op ≠ .cancel t → s.cancelRequested t = true) : s'.cancelRequested t = true := by
  rcases exitOp_cases taken with ⟨u, rfl, rfl⟩ | ⟨rfl, rfl⟩ | ⟨noCancel, -, -, rfl⟩
  · by_cases same : t = u
    · simp [same]
    · simpa [same] using requested (by simpa [eq_comm] using same)
  · exact requested (by simp)
  · exact requested (noCancel t)

attribute [local simp] MainPc.createsReceivingThread MainPc.createsSendingThread

theorem Lifecycle.exitOp {op : ExitOp} {rest : List ExitOp} {copied : Option ThreadsResult}
    (life : Lifecycle s) (here : s.main = .exit (op :: rest) copied)
    (taken : Client.exitOp s op = some s') : Lifecycle { s' with main := .exit rest copied } := by
  obtain ⟨receiving, sending, -⟩ := exitOp_frame taken
  obtain ⟨h₁, h₂, h₃, h₄, h₅⟩ := life
  constructor
  case receivingNotCreated => simp
  case sendingNotCreated => cases copied <;> simp_all
  case failed =>
    rintro ops ⟨⟩ member
    exact h₃ _ here (List.mem_cons_of_mem _ member)
  case exit =>
    rintro ops r ⟨⟩
    exact (List.suffix_cons op rest).trans (h₄ _ _ here)
  case requested =>
    rintro ops r ⟨⟩ t other left
    have kept := exitOp_requested (t := t) taken fun different =>
      h₅ _ _ here t other (by simpa [different.symm] using left)
    exact kept

theorem Lifecycle.advance (life : Lifecycle s)
    (receiving : s'.main.createsReceivingThread = true →
      s.main.createsReceivingThread = true ∧ s'.receivingThread = s.receivingThread)
    (sending : s'.main.createsSendingThread = true →
      s.main.createsSendingThread = true ∧ s'.sendingThread = s.sendingThread)
    (exits : ∀ ops copied, s'.main = .exit ops copied → copied = none ∧ .unlock ∉ ops) :
    Lifecycle s' := by
  constructor
  case receivingNotCreated =>
    intro creates
    obtain ⟨before, same⟩ := receiving creates
    rw [same, life.receivingNotCreated before]
  case sendingNotCreated =>
    intro creates
    obtain ⟨before, same⟩ := sending creates
    rw [same, life.sendingNotCreated before]
  case failed => exact fun ops here => (exits _ _ here).2
  case exit => exact fun ops r here => nomatch (exits _ _ here).1
  case requested => exact fun ops r here => nomatch (exits _ _ here).1

theorem Lifecycle.usockitClient {a : MainAction} (life : Lifecycle s)
    (taken : usockitClient s a = some s') : Lifecycle s' := by
  cases a <;> simp only [Client.usockitClient, require_eq_some, Option.ite_none_right_eq_some,
    Option.map_eq_some_iff] at taken
  case exit op rest copied =>
    obtain ⟨here, next, exited, rfl⟩ := taken
    exact life.exitOp here exited
  case copy =>
    obtain ⟨here, rfl⟩ := taken
    constructor
    case requested =>
      rintro ops r ⟨⟩ t other left
      cases t <;> simp [endThreadsOps] at other left
    all_goals simp
  case ret copied =>
    obtain ⟨here, rfl⟩ := taken
    apply life.advance <;> simp only [MainPc.createsReceivingThread_afterExit,
      MainPc.createsSendingThread_afterExit, MainPc.afterExit_ne_exit, Bool.false_eq_true,
      IsEmpty.forall_iff, implies_true]
  all_goals
    obtain ⟨guard, rfl⟩ := taken
    exact life.advance (by simp [guard]) (by simp [guard])
      (by simp [endReceivingThreadOps, releaseOps])

/-! ## The mutex -/

def MainPc.holds : MainPc → Bool
  | .test | .wait | .copy => true
  | .exit ops _ => .unlock ∈ ops
  | _ => false

def PostPc.holds : PostPc → Bool
  | .test | .store | .unlock => true
  | _ => false

def SendingThreadPc.holds : SendingThreadPc → Bool
  | .dispatchResult _ p => p.holds
  | _ => false

def ReceivingThreadPc.holds : ReceivingThreadPc → Bool
  | .post _ p => p.holds
  | _ => false

structure Owned (s : State) : Prop where
  main : s.threadsResultDest.mutex = some .main ↔ s.main.holds = true
  receiving : s.threadsResultDest.mutex = some .receiving ↔ s.receivingThread.holds = true
  sending : s.threadsResultDest.mutex = some .sending ↔ s.sendingThread.holds = true

attribute [simp] PostPc.holds.eq_1 PostPc.holds.eq_2 PostPc.holds.eq_3 PostPc.holds.eq_4
attribute [simp] MainPc.holds.eq_1 MainPc.holds.eq_2 MainPc.holds.eq_3 MainPc.holds.eq_4
  MainPc.holds.eq_5 SendingThreadPc.holds.eq_1 SendingThreadPc.holds.eq_2
  ReceivingThreadPc.holds.eq_1 ReceivingThreadPc.holds.eq_2

@[simp] theorem MainPc.holds_signalled (pc : MainPc) : pc.signalled.holds = pc.holds := by
  cases pc <;> rfl

@[simp] theorem MainPc.holds_afterExit (copied : Option ThreadsResult) :
    (MainPc.afterExit copied).holds = false := by
  unfold afterExit
  repeat' split
  all_goals rfl

@[simp] theorem SendingThreadPc.holds_afterWrite (w : WriteAll) (k : Nat) :
    (SendingThreadPc.afterWrite w k).holds = false := by
  unfold afterWrite
  split <;> rfl

@[simp] theorem ReceivingThreadPc.holds_afterRead (buffer : List Byte) :
    (ReceivingThreadPc.afterRead buffer).holds = false := by
  unfold afterRead
  repeat' split
  all_goals rfl

theorem post_owned {t : Thread} {result : ThreadsResult} {replaces : ThreadsResult → Bool}
    {dest : ThreadsResultDest} {p : PostPc} {a : PostAction} {next : PostPc × ThreadsResultDest}
    (owned : dest.mutex = some t ↔ p.holds = true)
    (taken : post t result replaces dest p a = some next) :
    (next.2.mutex = some t ↔ next.1.holds = true) ∧
      ∀ u, u ≠ t → (next.2.mutex = some u ↔ dest.mutex = some u) := by
  cases a <;> simp only [post, require_eq_some] at taken <;> obtain ⟨guard, rfl⟩ := taken
  case lock => exact ⟨by simp, fun u other => by simp [guard, other.symm]⟩
  case unlock =>
    have held : dest.mutex = some t := owned.mpr (by simp [guard])
    exact ⟨by simp, fun u other => by simp [held, other.symm]⟩
  all_goals
    simp_all

/-! ## The slot -/

/-- A complete result of one of the two threads. -/
def ThreadsResult.Posted (r : ThreadsResult) : Prop :=
  (∃ sending : SendingThreadResult, r = sending.toThreadsResult) ∨
    ∃ receiving : ReceivingThreadResult, r = receiving.toThreadsResult

def PostPc.signals : PostPc → Bool
  | .unlock | .signal => true
  | _ => false

def SendingThreadPc.signals : SendingThreadPc → Bool
  | .dispatchResult _ p => p.signals
  | _ => false

def ReceivingThreadPc.signals : ReceivingThreadPc → Bool
  | .post _ p => p.signals
  | _ => false

/-- The receiving thread does not come back to the slot. -/
def ReceivingThreadPc.passed : ReceivingThreadPc → Bool
  | .post _ p => p.signals
  | .ended => true
  | _ => false

def SendingThreadPc.posting : SendingThreadPc → Bool
  | .dispatchResult _ _ | .ended => true
  | _ => false

def ReceivingThreadPc.posting : ReceivingThreadPc → Bool
  | .post _ _ | .ended => true
  | _ => false

attribute [simp] PostPc.signals.eq_1 PostPc.signals.eq_2 PostPc.signals.eq_3
  SendingThreadPc.posting.eq_1 SendingThreadPc.posting.eq_2 SendingThreadPc.posting.eq_3
  ReceivingThreadPc.posting.eq_1 ReceivingThreadPc.posting.eq_2 ReceivingThreadPc.posting.eq_3
attribute [simp] SendingThreadPc.signals.eq_1 SendingThreadPc.signals.eq_2
  ReceivingThreadPc.signals.eq_1 ReceivingThreadPc.signals.eq_2
  ReceivingThreadPc.passed.eq_1 ReceivingThreadPc.passed.eq_2 ReceivingThreadPc.passed.eq_3

theorem ReceivingThreadPc.not_posting {pc : ReceivingThreadPc} (working : pc.posting = false) :
    pc.holds = false ∧ pc.signals = false ∧ pc.passed = false := by
  cases pc <;> simp_all

theorem SendingThreadPc.not_posting {pc : SendingThreadPc} (working : pc.posting = false) :
    pc.holds = false ∧ pc.signals = false := by
  cases pc <;> simp_all

structure Slot (s : State) : Prop where
  posted : s.threadsResultDest.result.origin ≠ .none → s.threadsResultDest.result.Posted
  wait : s.main = .wait → s.threadsResultDest.result.origin = .none
  copy : s.main = .copy → s.threadsResultDest.result.origin ≠ .none
  copied : ∀ ops r, s.main = .exit ops (some r) → r.Posted
  reachable : s.main ≠ .unreachable
  pending : s.main = .asleep → s.threadsResultDest.result.origin ≠ .none →
    s.receivingThread.signals = true ∨ s.sendingThread.signals = true
  receiving : s.threadsResultDest.result.origin = .receiving → s.receivingThread.passed = true
  sendingStore : ∀ r, s.sendingThread = .dispatchResult r .store →
    s.threadsResultDest.result.origin = .none
  receivingStore : ∀ r, s.receivingThread = .post r .store →
    r.replaces s.threadsResultDest.result = true

/-! ## What a step of the threads can do -/

/-- Neither main nor the result destination takes part in the step. -/
structure Aside (s s' : State) : Prop where
  main : s'.main = s.main
  cancelRequested : s'.cancelRequested = s.cancelRequested
  threadsResultDest : s'.threadsResultDest = s.threadsResultDest

theorem sendingThreadRoutine_cases {a : SendingThreadAction}
    (taken : sendingThreadRoutine s a = some s') :
    s.sendingThread ≠ .notCreated ∧ s'.receivingThread = s.receivingThread ∧
    ((Aside s s' ∧ s.sendingThread.posting = false ∧ s'.sendingThread.holds = false) ∨
      (∃ r p b next, a = .dispatchResult r p b ∧ s.sendingThread = .dispatchResult r p ∧
        threadsDispatchResult .sending r.toThreadsResult s.threadsResultDest p b = some next ∧
        s' = { s with
          sendingThread := .dispatchResult r next.1, threadsResultDest := next.2 }) ∨
      ∃ r, a = .signal r ∧ s.sendingThread = .dispatchResult r .signal ∧
        s' = { s with sendingThread := .ended, main := s.main.signalled }) := by
  cases a <;> simp only [sendingThreadRoutine, require_eq_some, Option.ite_none_right_eq_some,
    Option.map_eq_some_iff] at taken
  case dispatchResult r p b =>
    obtain ⟨here, next, posted, rfl⟩ := taken
    exact ⟨by simp [here], rfl, .inr (.inl ⟨r, p, b, next, rfl, here, posted, rfl⟩)⟩
  case signal r =>
    obtain ⟨here, rfl⟩ := taken
    exact ⟨by simp [here], rfl, .inr (.inr ⟨r, rfl, here, rfl⟩)⟩
  case writeFailed w errno =>
    obtain ⟨guard, rfl⟩ := taken
    unfold State.writeFailed
    split
    · exact ⟨by simp [guard], rfl, .inl ⟨⟨rfl, rfl, rfl⟩, by simp [guard]⟩⟩
    · exact ⟨by simp [guard], rfl, .inl ⟨⟨rfl, rfl, rfl⟩, by simp [guard]⟩⟩
  all_goals
    obtain ⟨guard, rfl⟩ := taken
    refine ⟨by simp [guard], rfl, .inl ⟨⟨rfl, rfl, rfl⟩, ?_⟩⟩
    simp [guard]

theorem receivingThreadRoutine_cases {a : ReceivingThreadAction}
    (taken : receivingThreadRoutine s a = some s') :
    s.receivingThread ≠ .notCreated ∧ s'.sendingThread = s.sendingThread ∧
    ((Aside s s' ∧ s.receivingThread.posting = false ∧ s'.receivingThread.holds = false) ∨
      (∃ r p b next, a = .post r p b ∧ s.receivingThread = .post r p ∧
        post .receiving r.toThreadsResult r.replaces s.threadsResultDest p b = some next ∧
        s' = { s with receivingThread := .post r next.1, threadsResultDest := next.2 }) ∨
      ∃ r, a = .signal r ∧ s.receivingThread = .post r .signal ∧
        s' = { s with receivingThread := .ended, main := s.main.signalled }) := by
  cases a <;> simp only [receivingThreadRoutine, require_eq_some, Option.ite_none_right_eq_some,
    Option.map_eq_some_iff] at taken
  case post r p b =>
    obtain ⟨here, next, posted, rfl⟩ := taken
    exact ⟨by simp [here], rfl, .inr (.inl ⟨r, p, b, next, rfl, here, posted, rfl⟩)⟩
  case signal r =>
    obtain ⟨here, rfl⟩ := taken
    exact ⟨by simp [here], rfl, .inr (.inr ⟨r, rfl, here, rfl⟩)⟩
  all_goals
    obtain ⟨guard, rfl⟩ := taken
    refine ⟨by simp [guard], rfl, .inl ⟨⟨rfl, rfl, rfl⟩, ?_⟩⟩
    simp [guard]

theorem receivingThreadRoutine_main {a : ReceivingThreadAction}
    (taken : receivingThreadRoutine s a = some s') :
    s'.main = s.main ∨ s'.main = s.main.signalled := by
  obtain ⟨-, -, ⟨aside, -⟩ | ⟨r, p, b, next, -, -, -, rfl⟩ | ⟨r, -, -, rfl⟩⟩ :=
    receivingThreadRoutine_cases taken
  · exact .inl aside.main
  · exact .inl rfl
  · exact .inr rfl

theorem sendingThreadRoutine_main {a : SendingThreadAction}
    (taken : sendingThreadRoutine s a = some s') :
    s'.main = s.main ∨ s'.main = s.main.signalled := by
  obtain ⟨-, -, ⟨aside, -⟩ | ⟨r, p, b, next, -, -, -, rfl⟩ | ⟨r, -, -, rfl⟩⟩ :=
    sendingThreadRoutine_cases taken
  · exact .inl aside.main
  · exact .inl rfl
  · exact .inr rfl

theorem MainPc.eq_of_signalled {pc pc' q : MainPc} (main : pc' = pc ∨ pc' = pc.signalled)
    (other : q ≠ .woken) (here : pc' = q) : pc = q := by
  rcases main with main | main
  · exact main ▸ here
  · exact ((MainPc.signalled_eq other).mp (main ▸ here)).1

theorem usockitClient_frame {a : MainAction} (life : Lifecycle s)
    (taken : usockitClient s a = some s') :
    s'.fate = s.fate ∧ s'.sigpipeBlocked = s.sigpipeBlocked ∧
      s'.threadsResultDest.result = s.threadsResultDest.result ∧
      (s'.receivingThread = s.receivingThread ∨
        s.receivingThread = .notCreated ∧ s'.receivingThread = .freeArg) ∧
      (s'.sendingThread = s.sendingThread ∨
        s.sendingThread = .notCreated ∧ s'.sendingThread = .freeArg) := by
  cases a <;> simp only [usockitClient, require_eq_some, Option.ite_none_right_eq_some,
    Option.map_eq_some_iff] at taken
  case exit op rest copied =>
    obtain ⟨-, next, exited, rfl⟩ := taken
    obtain ⟨receiving, sending, result, blocked, fate⟩ := exitOp_frame exited
    exact ⟨fate, blocked, result, .inl receiving, .inl sending⟩
  case createReceivingThread =>
    obtain ⟨here, rfl⟩ := taken
    exact ⟨rfl, rfl, rfl,
      .inr ⟨life.receivingNotCreated (by simp [here]), rfl⟩, .inl rfl⟩
  case createSendingThread =>
    obtain ⟨here, rfl⟩ := taken
    exact ⟨rfl, rfl, rfl, .inl rfl,
      .inr ⟨life.sendingNotCreated (by simp [here]), rfl⟩⟩
  all_goals
    obtain ⟨-, rfl⟩ := taken
    exact ⟨rfl, rfl, rfl, .inl rfl, .inl rfl⟩

/-! ## The invariants -/

theorem Lifecycle.sendingThreadRoutine {a : SendingThreadAction} (life : Lifecycle s)
    (taken : sendingThreadRoutine s a = some s') : Lifecycle s' := by
  obtain ⟨created, same, ⟨aside, -⟩ | ⟨r, p, b, next, -, here, -, rfl⟩ | ⟨r, -, here, rfl⟩⟩ :=
    sendingThreadRoutine_cases taken
  · exact life.frame (.inl aside.main) aside.cancelRequested (by simp [same])
      fun fresh => absurd fresh created
  · exact life.frame (.inl rfl) rfl id fun fresh => absurd fresh created
  · exact life.frame (.inr rfl) rfl id fun fresh => absurd fresh created

theorem Lifecycle.receivingThreadRoutine {a : ReceivingThreadAction} (life : Lifecycle s)
    (taken : receivingThreadRoutine s a = some s') : Lifecycle s' := by
  obtain ⟨created, same, ⟨aside, -⟩ | ⟨r, p, b, next, -, here, -, rfl⟩ | ⟨r, -, here, rfl⟩⟩ :=
    receivingThreadRoutine_cases taken
  · exact life.frame (.inl aside.main) aside.cancelRequested (fun fresh => absurd fresh created)
      (by simp [same])
  · exact life.frame (.inl rfl) rfl (fun fresh => absurd fresh created) id
  · exact life.frame (.inr rfl) rfl (fun fresh => absurd fresh created) id

theorem Owned.sendingThreadRoutine {a : SendingThreadAction} (owned : Owned s)
    (taken : sendingThreadRoutine s a = some s') : Owned s' := by
  obtain ⟨main, receiving, sending⟩ := owned
  obtain ⟨-, same, ⟨aside, working, after⟩ | ⟨r, p, b, next, -, here, posted, rfl⟩ |
    ⟨r, -, here, rfl⟩⟩ := sendingThreadRoutine_cases taken
  · have before := (SendingThreadPc.not_posting working).1
    constructor <;> simp_all [aside.main, aside.threadsResultDest]
  · rw [here, SendingThreadPc.holds.eq_1] at sending
    obtain ⟨own, others⟩ := post_owned sending posted
    exact ⟨(others .main (by simp)).trans main, (others .receiving (by simp)).trans receiving,
      by simpa using own⟩
  · constructor <;> simp_all

theorem Owned.receivingThreadRoutine {a : ReceivingThreadAction} (owned : Owned s)
    (taken : receivingThreadRoutine s a = some s') : Owned s' := by
  obtain ⟨main, receiving, sending⟩ := owned
  obtain ⟨-, same, ⟨aside, working, after⟩ | ⟨r, p, b, next, -, here, posted, rfl⟩ |
    ⟨r, -, here, rfl⟩⟩ := receivingThreadRoutine_cases taken
  · have before := (ReceivingThreadPc.not_posting working).1
    constructor <;> simp_all [aside.main, aside.threadsResultDest]
  · rw [here, ReceivingThreadPc.holds.eq_1] at receiving
    obtain ⟨own, others⟩ := post_owned receiving posted
    exact ⟨(others .main (by simp)).trans main, by simpa using own,
      (others .sending (by simp)).trans sending⟩
  · constructor <;> simp_all

theorem Owned.sending_excludes (owned : Owned s) (holds : s.sendingThread.holds = true) :
    s.main.holds = false ∧ s.receivingThread.holds = false := by
  have mutex := owned.sending.mpr holds
  constructor <;> rw [← Bool.not_eq_true]
  · rw [← owned.main, mutex]
    simp
  · rw [← owned.receiving, mutex]
    simp

theorem Owned.receiving_excludes (owned : Owned s) (holds : s.receivingThread.holds = true) :
    s.main.holds = false ∧ s.sendingThread.holds = false := by
  have mutex := owned.receiving.mpr holds
  constructor <;> rw [← Bool.not_eq_true]
  · rw [← owned.main, mutex]
    simp
  · rw [← owned.sending, mutex]
    simp

theorem Lifecycle.unlock_last {rest : List ExitOp} {copied : Option ThreadsResult}
    (life : Lifecycle s) (here : s.main = .exit (.unlock :: rest) copied) : .unlock ∉ rest := by
  cases copied with
  | none => exact absurd List.mem_cons_self (life.failed _ here)
  | some r =>
      have suffix := life.exit _ _ here
      simp only [endThreadsOps, releaseOps, List.cons_append, List.nil_append,
        List.suffix_cons_iff, List.cons.injEq, reduceCtorEq, false_and, true_and, false_or,
        List.suffix_nil] at suffix
      rcases suffix with rfl | suffix
      · decide
      · simp at suffix

theorem Owned.frame (owned : Owned s)
    (mutex : s'.threadsResultDest.mutex = s.threadsResultDest.mutex)
    (main : s'.main.holds = s.main.holds)
    (receiving : s'.receivingThread.holds = s.receivingThread.holds)
    (sending : s'.sendingThread.holds = s.sendingThread.holds) : Owned s' := by
  obtain ⟨h₁, h₂, h₃⟩ := owned
  constructor <;> simp_all

theorem Owned.usockitClient {a : MainAction} (owned : Owned s) (life : Lifecycle s)
    (taken : usockitClient s a = some s') : Owned s' := by
  cases a <;> simp only [Client.usockitClient, require_eq_some, Option.ite_none_right_eq_some,
    Option.map_eq_some_iff] at taken
  case exit op rest copied =>
    obtain ⟨here, next, exited, rfl⟩ := taken
    rcases exitOp_cases exited with ⟨t, rfl, rfl⟩ | ⟨rfl, rfl⟩ | ⟨-, noUnlock, -, rfl⟩
    · exact owned.frame rfl (by simp [here]) rfl rfl
    · have last := life.unlock_last here
      have held : s.threadsResultDest.mutex = some .main := owned.main.mpr (by simp [here])
      obtain ⟨main, receiving, sending⟩ := owned
      constructor <;> simp_all
    · exact owned.frame rfl (by simp [here, noUnlock.symm]) rfl rfl
  case createReceivingThread =>
    obtain ⟨here, rfl⟩ := taken
    have fresh := life.receivingNotCreated (by simp [here])
    exact owned.frame rfl (by simp [here]) (by simp [fresh]) rfl
  case createSendingThread =>
    obtain ⟨here, rfl⟩ := taken
    have fresh := life.sendingNotCreated (by simp [here])
    exact owned.frame rfl (by simp [here]) rfl (by simp [fresh])
  case lock | relock | wait =>
    obtain ⟨guard, rfl⟩ := taken
    obtain ⟨main, receiving, sending⟩ := owned
    constructor <;> simp_all
  all_goals
    obtain ⟨guard, rfl⟩ := taken
    refine owned.frame rfl ?_ rfl rfl
    simp [guard, endReceivingThreadOps, endThreadsOps, releaseOps]

theorem Slot.keep (slot : Slot s) (main : ∀ pc, pc ≠ .woken → s'.main = pc → s.main = pc)
    (result : s'.threadsResultDest.result = s.threadsResultDest.result)
    (pending : s'.main = .asleep →
      s.receivingThread.signals = true ∨ s.sendingThread.signals = true →
      s'.receivingThread.signals = true ∨ s'.sendingThread.signals = true)
    (passed : s.receivingThread.passed = true → s'.receivingThread.passed = true)
    (sendingStore : ∀ r, s'.sendingThread = .dispatchResult r .store →
      s.sendingThread = .dispatchResult r .store ∨ s.threadsResultDest.result.origin = .none)
    (receivingStore : ∀ r, s'.receivingThread = .post r .store →
      s.receivingThread = .post r .store ∨ r.replaces s.threadsResultDest.result = true) :
    Slot s' := by
  constructor <;> rw [result] at *
  · exact slot.posted
  · exact fun here => slot.wait (main _ (by simp) here)
  · exact fun here => slot.copy (main _ (by simp) here)
  · exact fun ops r here => slot.copied ops r (main _ (by simp) here)
  · exact fun here => slot.reachable (main _ (by simp) here)
  · exact fun here set => pending here (slot.pending (main _ (by simp) here) set)
  · exact fun origin => passed (slot.receiving origin)
  · exact fun r here => (sendingStore r here).elim (slot.sendingStore r) id
  · exact fun r here => (receivingStore r here).elim (slot.receivingStore r) id

theorem Slot.sendingThreadRoutine {a : SendingThreadAction} (slot : Slot s) (owned : Owned s)
    (taken : sendingThreadRoutine s a = some s') : Slot s' := by
  obtain ⟨-, same, ⟨aside, working, after⟩ | ⟨r, p, b, next, -, here, posted, rfl⟩ |
    ⟨r, -, here, rfl⟩⟩ := sendingThreadRoutine_cases taken
  · have silent := (SendingThreadPc.not_posting working).2
    refine slot.keep (by simp [aside.main]) (by rw [aside.threadsResultDest])
      (fun _ => by simp +contextual [same, silent]) (by simp [same]) ?_
      (fun _ stores => .inl (same ▸ stores))
    intro r stores
    simp [stores] at after
  · cases b <;> simp only [threadsDispatchResult, post, require_eq_some] at posted <;>
      obtain ⟨guard, rfl⟩ := posted
    case store =>
      obtain ⟨notMain, notReceiving⟩ := owned.sending_excludes (by simp [here, guard])
      constructor
      case posted => exact fun _ => .inl ⟨r, rfl⟩
      case wait =>
        intro (waits : s.main = .wait)
        simp [waits] at notMain
      case copy => simp [SendingThreadResult.toThreadsResult]
      case copied => exact slot.copied
      case reachable => exact slot.reachable
      case pending => simp
      case receiving => simp [SendingThreadResult.toThreadsResult]
      case sendingStore => simp
      case receivingStore =>
        intro receiving (stores : s.receivingThread = .post receiving .store)
        simp [stores] at notReceiving
    case testStore =>
      exact slot.keep (fun _ _ => id) rfl (fun _ => by simp [here, guard]) id
        (fun _ _ => .inr (by simpa using guard.2)) fun _ => .inl
    all_goals
      exact slot.keep (fun _ _ => id) rfl (fun _ => by simp +contextual [here, guard]) id (by simp)
        fun _ => .inl
  · exact slot.keep (by simp +contextual) rfl (by simp) id (by simp) fun _ => .inl

theorem Slot.receivingThreadRoutine {a : ReceivingThreadAction} (slot : Slot s) (owned : Owned s)
    (taken : receivingThreadRoutine s a = some s') : Slot s' := by
  obtain ⟨-, same, ⟨aside, working, after⟩ | ⟨r, p, b, next, -, here, posted, rfl⟩ |
    ⟨r, -, here, rfl⟩⟩ := receivingThreadRoutine_cases taken
  · obtain ⟨-, silent, before⟩ := ReceivingThreadPc.not_posting working
    refine slot.keep (by simp [aside.main]) (by rw [aside.threadsResultDest])
      (fun _ => by simp +contextual [same, silent]) (by simp [before])
      (fun _ stores => .inl (same ▸ stores)) ?_
    intro r stores
    simp [stores] at after
  · cases b <;> simp only [post, require_eq_some] at posted <;>
      obtain ⟨guard, rfl⟩ := posted
    case store =>
      obtain ⟨notMain, notSending⟩ := owned.receiving_excludes (by simp [here, guard])
      constructor
      case posted => exact fun _ => .inr ⟨r, rfl⟩
      case wait =>
        intro (waits : s.main = .wait)
        simp [waits] at notMain
      case copy => simp [ReceivingThreadResult.toThreadsResult]
      case copied => exact slot.copied
      case reachable => exact slot.reachable
      case pending => simp
      case receiving => simp
      case sendingStore =>
        intro sending (stores : s.sendingThread = .dispatchResult sending .store)
        simp [stores] at notSending
      case receivingStore => simp
    case testStore =>
      refine slot.keep (fun _ _ => id) rfl (fun _ => by simp [here, guard]) (by simp [here, guard])
        (fun _ => .inl) ?_
      intro r' stores
      obtain ⟨rfl, -⟩ := ReceivingThreadPc.post.inj stores
      exact .inr guard.2
    all_goals
      exact slot.keep (fun _ _ => id) rfl (fun _ => by simp +contextual [here, guard])
        (by simp [here, guard]) (fun _ => .inl) (by simp)
  · exact slot.keep (by simp +contextual) rfl (by simp) (by simp) (fun _ => .inl) (by simp)

theorem ThreadsResult.Posted.retStatus {r : ThreadsResult} (posted : r.Posted) :
    ∃ ret, r.retStatus = some ret := by
  rcases posted with ⟨⟨status, func⟩, rfl⟩ | ⟨⟨type, readErrno⟩, rfl⟩
  · by_cases eof : status = 0
    · exact ⟨.successEof, by
        simp [ThreadsResult.retStatus, SendingThreadResult.toThreadsResult, eof]⟩
    · exact ⟨.unknown, by
        cases func <;>
          simp [ThreadsResult.retStatus, SendingThreadResult.toThreadsResult, eof]⟩
  · cases type <;> exact ⟨_, rfl⟩

theorem MainPc.afterExit_posted {copied : Option ThreadsResult}
    (posted : ∀ r, copied = some r → r.Posted) :
    ∃ ret, MainPc.afterExit copied = .closeSocket ret := by
  cases copied with
  | none => exact ⟨.unknown, rfl⟩
  | some r =>
      obtain ⟨ret, status⟩ := (posted r rfl).retStatus
      exact ⟨ret, by simp [afterExit, status]⟩

def MainPc.unknowing : MainPc → Bool
  | .wait | .copy | .asleep | .unreachable | .exit _ (some _) => false
  | _ => true

theorem Slot.frame (slot : Slot s)
    (main : s'.main.unknowing = true ∨ ∃ ops r, s'.main = .exit ops (some r) ∧ r.Posted)
    (result : s'.threadsResultDest.result = s.threadsResultDest.result)
    (receiving : s'.receivingThread = s.receivingThread)
    (sending : s'.sendingThread = s.sendingThread) : Slot s' := by
  have elsewhere : ∀ pc : MainPc, pc.unknowing = false → (∀ ops r, pc ≠ .exit ops (some r)) →
      s'.main ≠ pc := by
    rintro pc knows other rfl
    rcases main with unknowing | ⟨ops, r, here, -⟩
    · simp [knows] at unknowing
    · exact other ops r here
  constructor <;> rw [result] at *
  case posted => exact slot.posted
  case wait => exact fun here => absurd here (elsewhere _ rfl nofun)
  case copy => exact fun here => absurd here (elsewhere _ rfl nofun)
  case copied =>
    intro ops r here
    rcases main with unknowing | ⟨ops', r', there, posted⟩
    · simp [here, MainPc.unknowing] at unknowing
    · obtain ⟨rfl, rfl⟩ : ops = ops' ∧ r = r' := by simpa [here] using there
      exact posted
  case reachable => exact elsewhere _ rfl nofun
  case pending => exact fun here => absurd here (elsewhere _ rfl nofun)
  case receiving => exact receiving ▸ slot.receiving
  case sendingStore => exact sending ▸ slot.sendingStore
  case receivingStore => exact receiving ▸ slot.receivingStore

theorem Slot.usockitClient {a : MainAction} (slot : Slot s) (life : Lifecycle s)
    (taken : usockitClient s a = some s') : Slot s' := by
  cases a <;> simp only [Client.usockitClient, require_eq_some, Option.ite_none_right_eq_some,
    Option.map_eq_some_iff] at taken
  case exit op rest copied =>
    obtain ⟨here, next, exited, rfl⟩ := taken
    obtain ⟨receiving, sending, result, -, -⟩ := exitOp_frame exited
    refine slot.frame ?_ result receiving sending
    cases copied with
    | none => exact .inl rfl
    | some r => exact .inr ⟨rest, r, rfl, slot.copied _ r here⟩
  case ret copied =>
    obtain ⟨here, rfl⟩ := taken
    obtain ⟨ret, after⟩ := MainPc.afterExit_posted fun r same => slot.copied [] r (same ▸ here)
    exact slot.frame (.inl (by rw [after]; rfl)) rfl rfl rfl
  case copy =>
    obtain ⟨here, rfl⟩ := taken
    exact slot.frame (.inr ⟨_, _, rfl, slot.posted (slot.copy here)⟩) rfl rfl rfl
  case createReceivingThread =>
    obtain ⟨here, rfl⟩ := taken
    have fresh := life.receivingNotCreated (by simp [here])
    have unposted := slot.receiving
    simp only [fresh, ReceivingThreadPc.passed, Bool.false_eq_true, imp_false] at unposted
    exact ⟨slot.posted, by simp, by simp, by simp, by simp, by simp, fun here => absurd here unposted,
      slot.sendingStore, by simp⟩
  case createSendingThread =>
    obtain ⟨here, rfl⟩ := taken
    exact ⟨slot.posted, by simp, by simp, by simp, by simp, by simp, slot.receiving, by simp,
      slot.receivingStore⟩
  case originNone =>
    obtain ⟨guard, rfl⟩ := taken
    exact ⟨slot.posted, fun _ => guard.2, by simp, by simp, by simp, by simp, slot.receiving,
      slot.sendingStore, slot.receivingStore⟩
  case originSet =>
    obtain ⟨guard, rfl⟩ := taken
    exact ⟨slot.posted, by simp, fun _ => guard.2, by simp, by simp, by simp, slot.receiving,
      slot.sendingStore, slot.receivingStore⟩
  case wait =>
    obtain ⟨here, rfl⟩ := taken
    exact ⟨slot.posted, by simp, by simp, by simp, by simp,
      fun _ set => absurd (slot.wait here) set, slot.receiving, slot.sendingStore,
      slot.receivingStore⟩
  all_goals
    obtain ⟨guard, rfl⟩ := taken
    exact slot.frame (.inl rfl) rfl rfl rfl

structure Invariants (s : State) : Prop where
  life : Lifecycle s
  owned : Owned s
  slot : Slot s

theorem Invariants.start (stdin : List Byte) : Invariants (.start stdin) := by
  constructor <;> constructor <;> simp [State.start, ThreadsResult.unset]

theorem Invariants.act {a : Action} (inv : Invariants s) (taken : act s a = some s') :
    Invariants s' := by
  obtain ⟨life, owned, slot⟩ := inv
  cases a with
  | main a =>
      exact ⟨life.usockitClient taken, owned.usockitClient life taken,
        slot.usockitClient life taken⟩
  | receivingThread a =>
      exact ⟨life.receivingThreadRoutine taken, owned.receivingThreadRoutine taken,
        slot.receivingThreadRoutine owned taken⟩
  | sendingThread a =>
      exact ⟨life.sendingThreadRoutine taken, owned.sendingThreadRoutine taken,
        slot.sendingThreadRoutine owned taken⟩
  | server a =>
      simp only [Client.act, Option.map_eq_some_iff] at taken
      obtain ⟨socket, -, rfl⟩ := taken
      obtain ⟨h₁, h₂, h₃⟩ := owned
      obtain ⟨k₁, k₂, k₃, k₄, k₅, k₆, k₇, k₈, k₉⟩ := slot
      exact ⟨life.frame (.inl rfl) rfl id id, ⟨h₁, h₂, h₃⟩,
        ⟨k₁, k₂, k₃, k₄, k₅, k₆, k₇, k₈, k₉⟩⟩

theorem Invariants.run {ok : State → Action → Prop} {actions : List Action}
    (run : system.RunWhere ok actions s) : Invariants s := by
  refine run.stateInvariant (I := Invariants) ?_ ?_
  · rintro s ⟨stdin, rfl⟩
    exact .start stdin
  · exact fun _ s a s' _ inv _ step => inv.act (system_step.mp step).2

end Usockit.Client
