import Usockit.Client.Posting

namespace Usockit.Client
open Foundation

variable {s s' : State} {actions : List Action}

/-- usockit_client does not end but by returning: no thread has reached abort(), no signal has
ended the process, and main is not at cross_support_unreachable(). -/
def State.Survives (s : State) : Prop :=
  s.receivingThread ≠ .abort ∧ s.fate = .running ∧ s.main ≠ .unreachable

instance (s : State) : Decidable s.Survives := inferInstanceAs (Decidable (_ ∧ _))

/-- When the receiving thread calls read(), the server has not closed the connection or has sent
bytes that are still unread. -/
def ReadsBeforeEnd (s : State) : Action → Prop
  | .receivingThread (.received _) =>
      s.socket.serverClosed = true → s.socket.fromServer.unread ≠ []
  | _ => True

instance (s : State) (a : Action) : Decidable (ReadsBeforeEnd s a) := by
  unfold ReadsBeforeEnd
  split <;> infer_instance

/-! ## SIGPIPE -/

/-- The sending thread has blocked SIGPIPE wherever it may write. -/
structure Masked (s : State) : Prop where
  read : s.sendingThread = .read → s.sigpipeBlocked = true
  write : ∀ w, s.sendingThread = .write w → s.sigpipeBlocked = true

theorem Masked.sendingThreadRoutine {a : SendingThreadAction} (masked : Masked s)
    (taken : sendingThreadRoutine s a = some s') : Masked s' ∧ s'.fate = s.fate := by
  obtain ⟨read, write⟩ := masked
  cases a <;> simp only [Client.sendingThreadRoutine, require_eq_some,
    Option.ite_none_right_eq_some, Option.map_eq_some_iff] at taken
  case dispatchResult r p b =>
    obtain ⟨-, next, -, rfl⟩ := taken
    exact ⟨⟨by simp, by simp⟩, rfl⟩
  case wrote w k =>
    obtain ⟨⟨here, -⟩, rfl⟩ := taken
    have blocked := write w here
    exact ⟨⟨fun _ => blocked, fun _ _ => blocked⟩, rfl⟩
  case writeFailed w errno =>
    obtain ⟨⟨here, -⟩, rfl⟩ := taken
    have blocked := write w here
    rw [State.writeFailed, if_neg (by simp [blocked])]
    exact ⟨⟨by simp, by simp⟩, rfl⟩
  case received buffer =>
    obtain ⟨⟨here, -⟩, rfl⟩ := taken
    exact ⟨⟨fun _ => read here, fun _ _ => read here⟩, rfl⟩
  case sigmask =>
    obtain ⟨-, rfl⟩ := taken
    exact ⟨⟨fun _ => rfl, fun _ _ => rfl⟩, rfl⟩
  all_goals
    obtain ⟨-, rfl⟩ := taken
    exact ⟨⟨by simp, by simp⟩, rfl⟩

theorem receivingThreadRoutine_blocked {a : ReceivingThreadAction}
    (taken : receivingThreadRoutine s a = some s') : s'.sigpipeBlocked = s.sigpipeBlocked := by
  cases a <;> simp only [receivingThreadRoutine, require_eq_some,
    Option.ite_none_right_eq_some, Option.map_eq_some_iff] at taken
  case post r p b =>
    obtain ⟨-, next, -, rfl⟩ := taken
    rfl
  all_goals
    obtain ⟨-, rfl⟩ := taken
    rfl

theorem Masked.act {a : Action} (masked : Masked s) (life : Lifecycle s)
    (taken : act s a = some s') : Masked s' := by
  cases a with
  | main a =>
      obtain ⟨-, blocked, -, -, sending⟩ := usockitClient_frame life taken
      obtain ⟨read, write⟩ := masked
      rcases sending with same | ⟨-, created⟩ <;> constructor <;> simp_all
  | receivingThread a =>
      obtain ⟨-, same, -⟩ := receivingThreadRoutine_cases taken
      have blocked := receivingThreadRoutine_blocked taken
      exact ⟨by simpa [same, blocked] using masked.read,
        by simpa [same, blocked] using masked.write⟩
  | sendingThread a => exact (masked.sendingThreadRoutine taken).1
  | server a =>
      simp only [Client.act, Option.map_eq_some_iff] at taken
      obtain ⟨socket, -, rfl⟩ := taken
      exact ⟨masked.read, masked.write⟩

theorem Masked.run {ok : State → Action → Prop} (run : system.RunWhere ok actions s) :
    Masked s := by
  refine run.stateInvariant (I := Masked) ?_ ?_
  · rintro s ⟨stdin, rfl⟩
    constructor <;> simp [State.start]
  · exact fun _ s a s' run masked _ step =>
      masked.act (Invariants.run run).life (system_step.mp step).2

/-! ## abort() -/

@[simp] theorem ReceivingThreadPc.afterRead_eq_abort {buffer : List Byte} :
    ReceivingThreadPc.afterRead buffer = .abort ↔ buffer = [] := by
  unfold afterRead
  split
  · rename_i full
    simp only [reduceCtorEq, false_iff]
    rintro rfl
    exact absurd full.1 (by decide)
  · split <;> simp_all

theorem receivingThreadRoutine_survives {a : ReceivingThreadAction}
    (running : s.fate = .running) (taken : receivingThreadRoutine s a = some s') :
    (s'.receivingThread ≠ .abort ∧ s'.fate = .running) ↔
      (s.receivingThread ≠ .abort ∧ ReadsBeforeEnd s (.receivingThread a)) := by
  cases a <;> simp only [receivingThreadRoutine, require_eq_some,
    Option.ite_none_right_eq_some, Option.map_eq_some_iff] at taken
  case received buffer =>
    obtain ⟨⟨here, front, -, atEnd⟩, rfl⟩ := taken
    have nothing : buffer = [] ↔
        s.socket.serverClosed = true ∧ s.socket.fromServer.unread = [] := by
      constructor
      · exact fun empty => (atEnd empty).symm
      · exact fun ended => List.prefix_nil.mp (ended.2 ▸ front)
    simp [here, running, ReadsBeforeEnd, nothing]
  case post r p b =>
    obtain ⟨here, next, -, rfl⟩ := taken
    simp [here, running, ReadsBeforeEnd]
  case abort =>
    obtain ⟨here, rfl⟩ := taken
    simp [here]
  all_goals
    obtain ⟨guard, rfl⟩ := taken
    simp [guard, running, ReadsBeforeEnd]

theorem act_survives {a : Action} (inv : Invariants s) (masked : Masked s)
    (running : s.fate = .running) (taken : act s a = some s') :
    s'.Survives ↔ s.Survives ∧ ReadsBeforeEnd s a := by
  have before := inv.slot.reachable
  have after := (inv.act taken).slot.reachable
  cases a with
  | receivingThread a =>
      have step := receivingThreadRoutine_survives running taken
      simp only [State.Survives]
      tauto
  | main a =>
      obtain ⟨fate, -, -, receiving, -⟩ := usockitClient_frame inv.life taken
      rcases receiving with same | ⟨fresh, created⟩ <;>
        simp_all [State.Survives, ReadsBeforeEnd]
  | sendingThread a =>
      obtain ⟨-, same, -⟩ := sendingThreadRoutine_cases taken
      have fate := (masked.sendingThreadRoutine taken).2
      simp_all [State.Survives, ReadsBeforeEnd]
  | server a =>
      simp only [act, Option.map_eq_some_iff] at taken
      obtain ⟨socket, -, rfl⟩ := taken
      simp [State.Survives, ReadsBeforeEnd]

theorem receivingThreadRoutine_fate {a : ReceivingThreadAction}
    (taken : receivingThreadRoutine s a = some s') (going : s'.receivingThread ≠ .abort) :
    s'.fate = s.fate := by
  cases a <;> simp only [receivingThreadRoutine, require_eq_some, Option.ite_none_right_eq_some,
    Option.map_eq_some_iff] at taken
  case post r p b =>
    obtain ⟨-, next, -, rfl⟩ := taken
    rfl
  case abort =>
    obtain ⟨here, rfl⟩ := taken
    exact absurd here going
  all_goals
    obtain ⟨-, rfl⟩ := taken
    rfl

theorem running_of_not_abort {ok : State → Action → Prop} (run : system.RunWhere ok actions s)
    (going : s.receivingThread ≠ .abort) : s.fate = .running := by
  cases run with
  | start initial =>
      obtain ⟨stdin, rfl⟩ := initial
      rfl
  | @snoc earlier before a _ run _ step =>
      obtain ⟨running, taken⟩ := system_step.mp step
      rw [← running]
      cases a with
      | main a => exact (usockitClient_frame (Invariants.run run).life taken).1
      | receivingThread a => exact receivingThreadRoutine_fate taken going
      | sendingThread a => exact ((Masked.run run).sendingThreadRoutine taken).2
      | server a =>
          simp only [act, Option.map_eq_some_iff] at taken
          obtain ⟨socket, -, rfl⟩ := taken
          rfl

/-- The client has sent what it was given, and returns at the end of its standard input. -/
def sentAndReturned : List Action :=
  startUp ++
    [.sendingThread (.received [104, 105]), .sendingThread (.wrote (.call 3 [104, 105]) 2),
     .sendingThread .readEof] ++ dispatch ⟨0, .read⟩ ++
    [.main .relock, .main .originSet, .main .copy] ++
    leave (SendingThreadResult.toThreadsResult ⟨0, .read⟩) ++ [.main (.closeSocket .successEof)]

/-- The server closes the connection while the client waits for input: its child has exited. -/
def serverCloses : List Action :=
  startUp ++ [.server .close, .receivingThread (.received []), .receivingThread .abort]

end Usockit.Client
