import Mathlib.Tactic.MkIffOfInductiveProp
import Usockit.Server.Answering
import Usockit.Server.Draining

/-! What the server does for a client before it reads from it, and after it. -/

namespace Usockit.Server
open Foundation Kernel

variable {s t : State} {c : ConnId} {fd : ClientFd}

/-- The accept thread waits for a client and the connection thread for a connection, and the main
pipe is open to the connection thread and to the program. -/
@[mk_iff]
structure State.Idle (s : State) : Prop where
  alive : s.killed = false
  accepting : s.accept = .accept
  uncancelled : s.cancelRequested .accept = false
  asleep : s.clientConnection = .asleep
  unlocked : s.clientReady.mutex = none
  unoccupied : s.clientReady.clientFd = none
  stdin : s.main.hasOpen .main .write = true
  program : s.kernel.child.pc = .program
  reader : s.kernel.child.fds.Holds (.pipe .main .read)

instance (s : State) : Decidable s.Idle := decidable_of_iff _ (State.idle_iff s).symm

/-! ## Before -/

/-- From accept() to the connection thread's first read(). -/
def takesOver (fd : ClientFd) : List Action :=
  (handOver fd).tail ++
    [.clientConnection .relock, .clientConnection (.take fd), .clientConnection .load]

theorem State.Idle.exec_takesOver (idle : s.Idle)
    (pending : (s.kernel.connections c).phase = .pending) :
    system.exec s (takesOver ⟨s.kernel.fds.lowestFree, c⟩) = some { s with
      clientReady := ⟨some .clientConnection, some ⟨s.kernel.fds.lowestFree, c⟩⟩
      clientConnection := .read (some ⟨s.kernel.fds.lowestFree, c⟩)
      kernel := s.kernel.accept c } := by
  simp [System.exec, system, Server.step, act, threadRoutineAccept, threadRoutineClientConnection,
    require, takesOver, handOver, idle.alive, idle.accepting, idle.uncancelled, idle.asleep,
    idle.unlocked, idle.unoccupied, pending, ClientConnectionPc.signalled]

/-! ## After -/

/-- From the end of the stream to the next pthread_cond_wait(). -/
def leaves (fd : ClientFd) : List Action :=
  [.clientConnection (.cleanupLoad false), .clientConnection (.cleanupStore (some fd) false),
   .clientConnection (.cleanupUnlock (some fd) false),
   .clientConnection (.cleanupClose (some fd) false),
   .clientConnection .lock, .clientConnection .slotEmpty, .clientConnection .wait]

theorem exec_leaves (fd : ClientFd) (alive : s.killed = false)
    (here : s.clientConnection = .cleanupLoad false) (slot : s.clientReady.clientFd = some fd) :
    system.exec s (leaves fd) = some { s with
      clientConnection := .asleep
      clientReady := ⟨none, none⟩
      kernel := s.kernel.close fd.number } := by
  simp [System.exec, system, Server.step, act, threadRoutineClientConnection, require, leaves,
    alive, here, slot, ClientConnectionPc.afterCleanup]

theorem State.Idle.leaves (idle : s.Idle) (fd : ClientFd) (forwarded : Forwarded { s with
      clientReady := ⟨some .clientConnection, some fd⟩
      clientConnection := .read (some fd)
      kernel := s.kernel.accept c } t) :
    State.Idle { t with
      clientConnection := .asleep
      clientReady := ⟨none, none⟩
      kernel := t.kernel.close s.kernel.fds.lowestFree } := by
  obtain ⟨pc, k, rfl, -, child⟩ := forwarded
  have child : k.child = s.kernel.child := child
  refine ⟨idle.alive, idle.accepting, idle.uncancelled, rfl, rfl, rfl, idle.stdin, ?_, ?_⟩
  · exact (congrArg Child.pc child).trans idle.program
  · change k.child.fds.Holds _
    rw [child]
    exact idle.reader

/-! ## The log -/

theorem Session.foldl_record {more : List Action} (log : List Session)
    (same : ∀ a ∈ more, a.taken = none) (session : Session) :
    ∃ session', session'.fd = session.fd ∧
      more.foldl Session.record (session :: log) = session' :: log := by
  induction more generalizing session with
  | nil => exact ⟨session, rfl, rfl⟩
  | cons a rest ih =>
      obtain ⟨session', fd, head⟩ : ∃ session', session'.fd = session.fd ∧
          Session.record (session :: log) a = session' :: log := by
        unfold Session.record
        split
        · cases same _ List.mem_cons_self
        · exact ⟨{ session with written := session.written ++ _ }, rfl, rfl⟩
        · exact ⟨{ session with eof := true }, rfl, rfl⟩
        · exact ⟨session, rfl, rfl⟩
      obtain ⟨last, fd', tail⟩ := ih (fun b member => same b (by simp [member])) session'
      exact ⟨last, fd'.trans fd, by rw [List.foldl_cons, head, tail]⟩

theorem foldl_record_takesOver (log : List Session) :
    (takesOver fd).foldl Session.record log = ⟨fd, [], false⟩ :: log := rfl

end Usockit.Server
