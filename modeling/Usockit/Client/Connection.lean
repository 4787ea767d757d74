import Usockit.Client.Teardown

namespace Usockit.Client
open Foundation

variable {s s' : State} {a : Action}

/-! ## What the client does to its socket -/

def Action.written : Action → List Byte
  | .sendingThread (.wrote w k) => w.offered.take k
  | _ => []

/-- What a client's step leaves to the server, and what it hands to it. -/
structure OwnSocket (a : Action) (s s' : Socket) : Prop where
  received : s'.fromServer.bytes = s.fromServer.bytes
  serverClosed : s'.serverClosed = s.serverClosed
  connected : s'.connected = true ↔ s.connected = true ∨ a = .main .connect
  toServer : s'.toServer = s.toServer ++ a.written

theorem OwnSocket.same {socket : Socket} (noConnect : a ≠ .main .connect)
    (noWrite : a.written = []) : OwnSocket a socket socket :=
  ⟨rfl, rfl, by simp [noConnect], by simp [noWrite]⟩

theorem act_ownSocket (taken : act s a = some s')
    (own : ∀ b, a ≠ .server b) : OwnSocket a s.socket s'.socket := by
  cases a with
  | main a =>
      cases a <;> simp only [act, usockitClient, require_eq_some,
        Option.ite_none_right_eq_some, Option.map_eq_some_iff] at taken
      case exit op rest copied =>
        obtain ⟨-, t, ended, rfl⟩ := taken
        cases op <;> simp only [exitOp, require_eq_some, Option.some.injEq] at ended
        case join =>
          obtain ⟨-, rfl⟩ := ended
          exact .same (by simp) rfl
        all_goals
          subst ended
          exact .same (by simp) rfl
      case connect =>
        obtain ⟨-, rfl⟩ := taken
        exact ⟨rfl, rfl, by simp, by simp [Action.written]⟩
      all_goals
        obtain ⟨-, rfl⟩ := taken
        exact .same (by simp) rfl
  | receivingThread a =>
      cases a <;> simp only [act, receivingThreadRoutine, require_eq_some,
        Option.ite_none_right_eq_some, Option.map_eq_some_iff] at taken
      case post r p a =>
        obtain ⟨-, next, -, rfl⟩ := taken
        exact .same (by simp) rfl
      case received buffer =>
        obtain ⟨-, rfl⟩ := taken
        exact ⟨rfl, rfl, by simp, by simp [Action.written]⟩
      all_goals
        obtain ⟨-, rfl⟩ := taken
        exact .same (by simp) rfl
  | sendingThread a =>
      cases a <;> simp only [act, sendingThreadRoutine, require_eq_some,
        Option.ite_none_right_eq_some, Option.map_eq_some_iff] at taken
      case dispatchResult r p a =>
        obtain ⟨-, next, -, rfl⟩ := taken
        exact .same (by simp) rfl
      case wrote w k =>
        obtain ⟨-, rfl⟩ := taken
        exact ⟨rfl, rfl, by simp, rfl⟩
      case writeFailed w errno =>
        obtain ⟨-, rfl⟩ := taken
        unfold State.writeFailed
        split <;> exact .same (by simp) rfl
      all_goals
        obtain ⟨-, rfl⟩ := taken
        exact .same (by simp) rfl
  | server b => exact absurd rfl (own b)

/-! ## The connection -/

def MainPc.beforeConnect : MainPc → Bool
  | .socket | .calloc | .mutexInit | .condInit | .connect => true
  | _ => false

def MainPc.creating : MainPc → Bool
  | .callocReceivingThreadRoutineArg | .createReceivingThread => true
  | .callocSendingThreadRoutineArg | .createSendingThread => true
  | _ => false

structure Wired (s : State) : Prop where
  before : s.main.beforeConnect = true → s.socket.connected = false
  creating : s.main.creating = true → s.socket.connected = true
  receiving : s.receivingThread ≠ .notCreated → s.socket.connected = true
  sending : s.sendingThread ≠ .notCreated → s.socket.connected = true

@[simp] theorem MainPc.beforeConnect_signalled (pc : MainPc) :
    pc.signalled.beforeConnect = pc.beforeConnect := by
  cases pc <;> rfl

@[simp] theorem MainPc.creating_signalled (pc : MainPc) :
    pc.signalled.creating = pc.creating := by
  cases pc <;> rfl

@[simp] theorem MainPc.beforeConnect_afterExit (copied : Option ThreadsResult) :
    (MainPc.afterExit copied).beforeConnect = false := by
  rcases MainPc.afterExit_cases copied with ⟨ret, here⟩ | here <;> simp [here, beforeConnect]

@[simp] theorem MainPc.creating_afterExit (copied : Option ThreadsResult) :
    (MainPc.afterExit copied).creating = false := by
  rcases MainPc.afterExit_cases copied with ⟨ret, here⟩ | here <;> simp [here, creating]

theorem Wired.usockitClient {b : MainAction} (wired : Wired s)
    (taken : usockitClient s b = some s') : Wired s' := by
  have connected := (act_ownSocket (a := .main b) taken (by simp)).connected
  obtain ⟨before, creating, receiving, sending⟩ := wired
  cases b <;> simp only [Client.usockitClient, require_eq_some, Option.ite_none_right_eq_some,
    Option.map_eq_some_iff] at taken
  case exit op rest copied =>
    obtain ⟨-, t, ended, rfl⟩ := taken
    obtain ⟨receivingThread, sendingThread, -⟩ := exitOp_frame ended
    have same : t.socket.connected = true ↔ s.socket.connected = true := by simpa using connected
    constructor
    · simp [MainPc.beforeConnect]
    · simp [MainPc.creating]
    · exact fun created => same.mpr (receiving (receivingThread ▸ created))
    · exact fun created => same.mpr (sending (sendingThread ▸ created))
  case ret copied =>
    obtain ⟨-, rfl⟩ := taken
    exact ⟨by simp, by simp, receiving, sending⟩
  all_goals
    clear connected
    obtain ⟨here, rfl⟩ := taken
    constructor <;> simp_all [MainPc.beforeConnect, MainPc.creating]

theorem Wired.thread (wired : Wired s) (main : s'.main = s.main ∨ s'.main = s.main.signalled)
    (connected : s'.socket.connected = s.socket.connected)
    (receiving : s'.receivingThread ≠ .notCreated → s.receivingThread ≠ .notCreated)
    (sending : s'.sendingThread ≠ .notCreated → s.sendingThread ≠ .notCreated) : Wired s' := by
  constructor
  · rw [connected]
    rcases main with same | same <;> simpa [same] using wired.before
  · rw [connected]
    rcases main with same | same <;> simpa [same] using wired.creating
  · exact fun created => connected.trans (wired.receiving (receiving created))
  · exact fun created => connected.trans (wired.sending (sending created))

theorem Wired.run {ok : State → Action → Prop} {actions : List Action}
    (run : system.RunWhere ok actions s) : Wired s := by
  refine run.stateInvariant ?_ ?_
  · rintro _ ⟨stdin, rfl⟩
    constructor <;> simp [State.start, MainPc.creating]
  · intro _ s a s' _ wired _ step
    have taken := (system_step.mp step).2
    cases a with
    | main b => exact wired.usockitClient taken
    | receivingThread b =>
        have connected := (act_ownSocket taken (by simp)).connected
        obtain ⟨created, sending, -⟩ := receivingThreadRoutine_cases taken
        refine wired.thread (receivingThreadRoutine_main taken) ?_ (fun _ => created) ?_
        · exact Bool.eq_iff_iff.mpr (by simpa using connected)
        · rw [sending]
          exact id
    | sendingThread b =>
        have connected := (act_ownSocket taken (by simp)).connected
        obtain ⟨created, receiving, -⟩ := sendingThreadRoutine_cases taken
        refine wired.thread (sendingThreadRoutine_main taken) ?_ ?_ (fun _ => created)
        · exact Bool.eq_iff_iff.mpr (by simpa using connected)
        · rw [receiving]
          exact id
    | server b =>
        simp only [act, Option.map_eq_some_iff] at taken
        obtain ⟨socket, taken, rfl⟩ := taken
        refine wired.thread (.inl rfl) ?_ id id
        cases b <;> simp only [server, require_eq_some] at taken <;> obtain ⟨-, rfl⟩ := taken <;>
          rfl

/-- The server can only have closed what is connected. -/
theorem connected_of_serverClosed {ok : State → Action → Prop} {actions : List Action}
    (run : system.RunWhere ok actions s) (closed : s.socket.serverClosed = true) :
    s.socket.connected = true := by
  refine run.stateInvariant
    (I := fun s => s.socket.serverClosed = true → s.socket.connected = true) ?_ ?_ closed
  · rintro _ ⟨stdin, rfl⟩
    simp [State.start]
  · intro _ s a s' _ before _ step
    have taken := (system_step.mp step).2
    cases a with
    | server b =>
        simp only [act, Option.map_eq_some_iff] at taken
        obtain ⟨socket, taken, rfl⟩ := taken
        cases b <;> simp only [server, require_eq_some] at taken <;> obtain ⟨guard, rfl⟩ := taken
        case send => exact before
        case close => exact fun _ => guard
    | _ =>
        have own := act_ownSocket taken (by simp)
        rw [own.serverClosed]
        exact fun closed => own.connected.mpr (.inl (before closed))

end Usockit.Client
