import Usockit.Server.Sigpipe
import Usockit.Server.Delivery

namespace Usockit.Server
open Foundation Kernel DescriptorTable

variable {s s' : State} {actions : List Action} {k k' : Kernel} {c : ConnId} {accepts : Prop}

/-! ## What the server does to a connection -/

/-- The server has accepted the connection or closed its end, or has written to an end that was
open. -/
structure Handled (accepts : Prop) (c : ConnId) (k k' : Kernel) : Prop where
  sent : (k'.connections c).sent = (k.connections c).sent
  shutdown : (k'.connections c).shutdown = (k.connections c).shutdown
  closed : (k'.connections c).closed = (k.connections c).closed
  received : (k'.connections c).received = (k.connections c).received ∨
    k.Open (.connection c) ∧ (k.connections c).received <+: (k'.connections c).received
  phase : (k'.connections c).phase = (k.connections c).phase ∨
    accepts ∧ (k.connections c).phase = .pending ∧ (k'.connections c).phase = .accepted
  opened : k'.Open (.connection c) → k.Open (.connection c) ∨
    (k.connections c).phase = .pending ∧ (k'.connections c).phase = .accepted

namespace Handled

/-- The step concerns descriptors, and opens none for a connection. -/
theorem frame (same : k'.connections c = k.connections c)
    (opened : k'.Open (.connection c) → k.Open (.connection c)) : Handled accepts c k k' := by
  constructor <;> simp only [same, true_or]
  exact fun after => .inl (opened after)

theorem rfl : Handled accepts c k k := frame (Eq.refl _) id

theorem close {n : Nat} : Handled accepts c k (k.close n) :=
  frame (Eq.refl _) (Or.imp_left holds_of_close)

theorem closeClient {fd : Option ClientFd} : Handled accepts c k (k.closeClient fd) := by
  cases fd with
  | none => exact rfl
  | some fd => exact close

theorem openPipe {p : Pipe} {flag : Bool} : Handled accepts c k (k.openPipe p flag) := by
  refine frame (Eq.refl _) (Or.imp_left ?_)
  rintro ⟨n, here⟩
  rw [fileAt_openPipe] at here
  split at here
  · simp at here
  · split at here
    · simp at here
    · exact ⟨n, here⟩

theorem fork {pid : Pid} : Handled accepts c k (k.fork pid) :=
  frame (Eq.refl _) fun opened => .inl (opened.elim id id)

theorem reap : Handled accepts c k k.reap := frame (Eq.refl _) id

theorem accept {d : ConnId} (here : d = c → accepts)
    (pending : (k.connections d).phase = .pending) :
    Handled accepts c k (k.accept d) := by
  have opened : (k.accept d).Open (.connection c) → k.Open (.connection c) ∨ d = c := by
    rintro (⟨n, here⟩ | child)
    · rw [fds_accept, fileAt_install] at here
      split at here
      · exact .inr (by simpa using here)
      · exact .inl (.inl ⟨n, here⟩)
    · exact .inl (.inr child)
  by_cases same : d = c
  · subst same
    constructor <;> simp [pending, here]
  · have other : c ≠ d := fun equal => same equal.symm
    constructor <;> simp only [connections_accept, other, if_false, true_or]
    exact fun after => .inl ((opened after).resolve_right same)

theorem read {d : ConnId} {readc : Nat} :
    Handled accepts c k (k.setConnection d { k.connections d with readc := readc }) := by
  by_cases same : c = d
  · subst same
    constructor <;> simp
    exact .inl
  · exact frame (by simp [same]) id

theorem deliver {f : File} {bytes : List Byte} (holds : k.Open f) :
    Handled accepts c k (k.deliver f bytes) := by
  by_cases written : f = .connection c
  · subst written
    constructor <;> simp [Kernel.deliver]
    · exact .inr holds
    · exact .inl
  · refine frame ?_ (by simp [Open])
    unfold Kernel.deliver
    split
    case h_3 d =>
      have other : c ≠ d := by
        rintro rfl
        exact written (Eq.refl _)
      simp [other]
    all_goals exact Eq.refl _

theorem writeStderr {bytes : List Byte} : Handled accepts c k (k.writeStderr bytes) := by
  obtain same | ⟨f, here, -, same⟩ := writeStderr_cases k bytes <;> rw [same]
  · exact rfl
  · exact deliver (.inl ⟨_, here⟩)

end Handled

theorem Kernel.open_of_fileAt {f : File} {n : Nat} (here : k.fds.fileAt n = some f) : k.Open f :=
  .inl ⟨n, here⟩

theorem child_holds {a : ChildAction} (taken : child s a = some k)
    (holds : k.child.fds.Holds (.connection c)) :
    s.kernel.child.fds.Holds (.connection c) := by
  cases a <;> simp only [child, require_eq_some] at taken <;> obtain ⟨-, rfl⟩ := taken
  case dup2 =>
    simp only [child_setChild, dup2Stdin] at holds
    split at holds
    · exact holds
    · obtain ⟨n, here⟩ := holds
      rw [fileAt_install] at here
      split at here
      · simp at here
      · exact ⟨n, here⟩
  case execvp =>
    obtain ⟨n, here⟩ := holds
    exact ⟨n, fileAt_of_exec here⟩
  case closeReportingRead | closeMainWrite | closeSocket | closeMainReadFailed | closeMainRead |
      closeReportingWrite | programCloses =>
    exact holds_of_close holds
  case exit | programExits | killedBySignal => simp [Holds] at holds
  case programWrites => simpa using holds
  all_goals exact holds

theorem act_handled {a : Action} (taken : act s a = some s') (server : ∀ b, a ≠ .client b)
    (c : ConnId) :
    Handled (s.accept = .accept ∧ a = .accept (.accepted c)) c s.kernel s'.kernel := by
  cases a with
  | setupThreads a =>
      cases a <;> simp only [act, setupThreads, require_eq_some] at taken <;>
        obtain ⟨-, rfl⟩ := taken <;> exact .rfl
  | setupChild a =>
      cases a <;> simp only [act, setupChild, require_eq_some] at taken <;>
        obtain ⟨-, rfl⟩ := taken
      case pipe | reportingPipe => exact .openPipe
      case fork => exact .fork
      case fcntl => exact .frame rfl (Or.imp_left (by simp [Holds]))
      case closeReportingWrite | closeMainRead | close => exact .close
      all_goals exact .rfl
  | parent a =>
      cases a <;> simp only [act, parent, require_eq_some] at taken <;>
        obtain ⟨-, rfl⟩ := taken
      case waitpid => exact .reap
      case readError | readShort => exact .frame rfl id
      case perror => exact .writeStderr
      all_goals exact .rfl
  | childWait a =>
      cases a <;> simp only [act, threadRoutineChildWait, require_eq_some,
        Option.ite_none_right_eq_some, Option.map_eq_some_iff] at taken
      case waitForChildReady w a =>
        obtain ⟨-, r, -, rfl⟩ := taken
        exact .rfl
      all_goals obtain ⟨-, rfl⟩ := taken
      case waitpid => exact .reap
      all_goals exact .rfl
  | accept a =>
      cases a <;> simp only [act, threadRoutineAccept, require_eq_some,
        Option.ite_none_right_eq_some, Option.map_eq_some_iff] at taken
      case waitForChildReady w a =>
        obtain ⟨-, r, -, rfl⟩ := taken
        exact .rfl
      all_goals obtain ⟨guard, rfl⟩ := taken
      case accepted d => exact .accept (fun same => ⟨guard.1, by rw [same]⟩) guard.2
      case wrote fd w f k => exact .deliver (open_of_fileAt guard.2.1)
      case popClose | cleanupClose => exact .close
      case perror => exact .writeStderr
      all_goals exact .rfl
  | clientConnection a =>
      cases a <;> simp only [act, threadRoutineClientConnection, require_eq_some] at taken <;>
        obtain ⟨guard, rfl⟩ := taken
      case received => exact .read
      case wrote w f k => exact .deliver (open_of_fileAt guard.2.1)
      case cleanupClose => exact .closeClient
      all_goals exact .rfl
  | child a =>
      simp only [act, Option.map_eq_some_iff] at taken
      obtain ⟨k, taken, rfl⟩ := taken
      have kept := child_holds (c := c) taken
      cases a <;> simp only [child, require_eq_some] at taken <;> obtain ⟨guard, rfl⟩ := taken
      case programWrites n f bytes => exact .deliver (.inr ⟨n, guard.2.1⟩)
      all_goals exact .frame rfl (Or.imp_right kept)
  | client b => exact absurd rfl (server b)

/-! ## The connections that are open -/

/-- accept() returns nothing before the child is ready, so that the child inherits no connection. -/
structure Accepted (s : State) : Prop where
  opened : ∀ c, s.kernel.Open (.connection c) → (s.kernel.connections c).phase = .accepted
  ready : ∀ c, (s.kernel.connections c).phase = .accepted → s.main.ready = true
  child : ∀ c, ¬ s.kernel.child.fds.Holds (.connection c)
  unheard : ∀ c, (s.kernel.connections c).phase ≠ .accepted →
    (s.kernel.connections c).received = []

theorem Accepted.start (config : Config) : Accepted (.start config) := by
  constructor <;> simp [State.start, Open, Holds]
  rintro c n here
  split at here <;> simp at here

theorem phase_client {a : ClientAction} (taken : client k a = some k') (c : ConnId) :
    (k'.connections c).phase = (k.connections c).phase ∨
      (k.connections c).phase = .unused ∧ (k'.connections c).phase = .pending := by
  cases a <;> simp only [client, require_eq_some] at taken <;> obtain ⟨guard, rfl⟩ := taken <;>
    simp only [connections_setConnection] <;> split
  case connect.isTrue d same =>
    subst same
    exact .inr ⟨guard, rfl⟩
  case send.isTrue same | shutdown.isTrue same | shutdownRead.isTrue same | close.isTrue same =>
    subst same
    exact .inl rfl
  all_goals exact .inl rfl

theorem fds_client {a : ClientAction} (taken : client k a = some k') :
    k'.fds = k.fds ∧ k'.child = k.child := by
  cases a <;> simp only [client, require_eq_some] at taken <;> obtain ⟨-, rfl⟩ := taken <;>
    exact ⟨rfl, rfl⟩

def ClientAction.target : ClientAction → ConnId
  | .connect c | .send c _ | .shutdown c | .shutdownRead c | .close c => c

def ClientAction.payload : ClientAction → List Byte
  | .send _ bytes => bytes
  | _ => []

theorem received_client {a : ClientAction} (taken : client k a = some k') (c : ConnId) :
    (k'.connections c).received = (k.connections c).received := by
  cases a <;> simp only [client, require_eq_some] at taken <;> obtain ⟨-, rfl⟩ := taken <;>
    simp only [connections_setConnection] <;> split <;> simp_all

theorem client_others {a : ClientAction} (taken : client k a = some k') (other : c ≠ a.target) :
    k'.connections c = k.connections c := by
  cases a <;> simp only [client, require_eq_some] at taken <;> obtain ⟨-, rfl⟩ := taken <;>
    rw [connections_setConnection] <;> exact if_neg other

theorem client_target {a : ClientAction} (taken : client k a = some k') :
    (k'.connections a.target).phase ≠ .unused ∧
      ((k.connections a.target).phase ≠ .unused ∨ ∃ d, a = .connect d) ∧
      (k'.connections a.target).sent = (k.connections a.target).sent ++ a.payload := by
  cases a <;> simp only [client, require_eq_some] at taken <;> obtain ⟨guard, rfl⟩ := taken <;>
    simp_all [ClientAction.target, ClientAction.payload]

theorem Accepted.client {k : Kernel} {a : ClientAction} (accepted : Accepted s)
    (taken : Server.client s.kernel a = some k) : Accepted { s with kernel := k } := by
  obtain ⟨fds, child⟩ := fds_client taken
  constructor
  · intro c opened
    have before := accepted.opened c (by simpa [Open, fds, child] using opened)
    rcases phase_client taken c with same | ⟨unused, -⟩
    · rw [same, before]
    · simp [before] at unused
  · intro c here
    rcases phase_client taken c with same | ⟨-, pending⟩
    · exact accepted.ready c (same ▸ here)
    · simp [pending] at here
  · simpa [child] using accepted.child
  · intro c unaccepted
    rw [received_client taken c]
    refine accepted.unheard c fun before => unaccepted ?_
    rcases phase_client taken c with kept | ⟨unused, -⟩
    · rw [kept, before]
    · simp [before] at unused

theorem Accepted.act {a : Action} (accepted : Accepted s) (life : Lifecycle s)
    (taken : act s a = some s') : Accepted s' := by
  by_cases client : ∃ b, a = .client b
  · obtain ⟨b, rfl⟩ := client
    simp only [Server.act, Option.map_eq_some_iff] at taken
    obtain ⟨k, taken, rfl⟩ := taken
    exact accepted.client taken
  · have handled := act_handled taken fun b equal => client ⟨b, equal⟩
    have kept : ∀ c, (s.kernel.connections c).phase = .accepted →
        (s'.kernel.connections c).phase = .accepted := fun c => act_accepted taken
    constructor
    · intro c opened
      rcases (handled c).opened opened with before | ⟨-, now⟩
      · exact kept c (accepted.opened c before)
      · exact now
    · intro c here
      rcases (handled c).phase with same | ⟨accepts, -⟩
      · exact ready_mono taken (accepted.ready c (same ▸ here))
      · exact ready_mono taken (life.accept (by simp [accepts, AcceptPc.sawReady]))
    · intro c holds
      rcases act_child taken with
        same | ⟨_, -, fork, -, -, born⟩ | ⟨-, -, reaped⟩ | ⟨b, -, step⟩
      · exact accepted.child c (same ▸ holds)
      · rw [born] at holds
        have ready := accepted.ready c (accepted.opened c (.inl holds))
        simp [fork, MainPc.ready] at ready
      · rw [reaped] at holds
        exact accepted.child c holds
      · exact accepted.child c (child_holds step holds)
    · intro c unaccepted
      rcases (handled c).received with same | ⟨opened, -⟩
      · rw [same]
        exact accepted.unheard c fun before => unaccepted (kept c before)
      · exact absurd (kept c (accepted.opened c opened)) unaccepted

theorem Accepted.run {ok : State → Action → Prop} (run : system.RunWhere ok actions s) :
    Accepted s := by
  refine run.stateInvariant ?_ ?_
  · rintro _ ⟨config, rfl⟩
    exact .start config
  · exact fun _ s a s' run accepted _ step => accepted.act (.run run) (system_step.mp step).2

end Usockit.Server
