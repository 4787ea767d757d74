import Mathlib.Tactic.MkIffOfInductiveProp
import Usockit.Server.Refusal

/-! The accept thread answers every client by itself: it never waits for the connection thread. -/

namespace Usockit.Server
open Foundation Kernel

variable {s s' t : State} {actions : List Action} {c : ConnId} {fd : ClientFd}

/-! ## The way back to accept() -/

def AcceptPc.inLoop : AcceptPc → Bool
  | .notCreated | .waitForChildReady _ | .perror | .cleanupRoutine _ | .ended => false
  | _ => true

def AcceptPc.stepsToAccept : AcceptPc → Nat
  | .trylock _ => 6
  | .store _ => 5
  | .unlock _ | .readSlot _ => 4
  | .testcancelPublished _ | .callWriteAll _ => 3
  | .signal _ | .testcancelSpurious _ | .write _ _ => 2
  | .cleanupPop _ _ => 1
  | _ => 0

/-- The descriptor that the accept thread may write to before it calls accept() again. -/
def AcceptPc.writesTo : AcceptPc → Option Nat
  | .trylock fd | .readSlot fd | .callWriteAll fd => some fd.number
  | .write _ w => some w.fd
  | _ => none

/-- The accept thread is in its loop, but not in perror(), and neither cancelled nor about to die of
SIGPIPE. -/
structure Answering (s : State) : Prop where
  alive : s.killed = false
  inLoop : s.accept.inLoop = true
  uncancelled : s.cancelRequested .accept = false
  heard : ∀ n, s.accept.writesTo = some n → ¬ s.kernel.RaisesSigpipe n

theorem Answering.step {a : AcceptAction} (answering : Answering s)
    (taken : threadRoutineAccept s a = some s') : system.step s (.accept a) = some s' :=
  system_step.mpr ⟨answering.alive, taken⟩

/-- A client that has connected and not gone away waits for accept(). -/
@[mk_iff]
structure State.Waits (s : State) (c : ConnId) : Prop where
  pending : (s.kernel.connections c).phase = .pending
  isOpen : (s.kernel.connections c).closed = false

instance (s : State) (c : ConnId) : Decidable (s.Waits c) :=
  decidable_of_iff _ (State.waits_iff s c).symm

/-- A step towards accept(), while `c` waits. -/
structure Returns (c : ConnId) (s : State) (a : AcceptAction) (s' : State) : Prop where
  step : system.step s (.accept a) = some s'
  answering : Answering s'
  waits : s'.Waits c
  closer : s'.accept.stepsToAccept < s.accept.stepsToAccept

attribute [local simp] AcceptPc.inLoop AcceptPc.stepsToAccept AcceptPc.writesTo

theorem Answering.returns {a : AcceptAction} (answering : Answering s) (waits : s.Waits c)
    (taken : threadRoutineAccept s a = some s') (kernel : s'.kernel = s.kernel)
    (killed : s'.killed = s.killed)
    (inLoop : s'.accept.inLoop = true)
    (writes : ∀ n, s'.accept.writesTo = some n → s.accept.writesTo = some n)
    (closer : s'.accept.stepsToAccept < s.accept.stepsToAccept) : Returns c s a s' := by
  have same := threadRoutineAccept_sameMain taken
  refine ⟨answering.step taken, ⟨?_, inLoop, ?_, ?_⟩, ⟨?_, ?_⟩, closer⟩
  · rw [killed, answering.alive]
  · rw [same.cancelRequested, answering.uncancelled]
  · rw [kernel]
    exact fun n writing => answering.heard n (writes n writing)
  · rw [kernel]
    exact waits.pending
  · rw [kernel]
    exact waits.isOpen

theorem Answering.returns_write {w : WriteAll} (answering : Answering s) (waits : s.Waits c)
    (here : s.accept = .write fd w) : ∃ a s', Returns c s a s' := by
  have heard := answering.heard w.fd (by simp [here])
  by_cases possible : ∃ f, s.kernel.fds.fileAt w.fd = some f ∧ s.kernel.Writable f
  · obtain ⟨f, file, writable⟩ := possible
    have last : AcceptPc.afterWrite fd w w.offered.length = .cleanupPop fd true := by
      simp [AcceptPc.afterWrite, w.accepted_offered]
    obtain ⟨received, delivered⟩ := connections_deliver s.kernel c f
      (w.offered.take w.offered.length)
    refine ⟨.wrote fd w f w.offered.length, _, answering.step
      (require_eq_some.mpr ⟨⟨here, file, writable, Nat.le_refl _⟩, rfl⟩), ?_, ?_, ?_⟩
    · exact ⟨answering.alive, by simp [last], answering.uncancelled, by simp [last]⟩
    · exact ⟨by rw [delivered]; exact waits.pending, by rw [delivered]; exact waits.isOpen⟩
    · simp [last, here]
  · have taken : threadRoutineAccept s (.writeFailed fd w) =
        some { s with accept := .cleanupPop fd true } := require_eq_some.mpr ⟨⟨here, heard⟩, rfl⟩
    exact ⟨_, _, answering.returns waits taken rfl rfl (by simp) (by simp) (by simp [here])⟩

/-- The step that the accept thread takes next, unless it is in accept(). -/
theorem Answering.returns_next (answering : Answering s) (waits : s.Waits c)
    (elsewhere : s.accept ≠ .accept) : ∃ a s', Returns c s a s' := by
  have inLoop := answering.inLoop
  cases here : s.accept with
  | trylock fd =>
      by_cases free : s.clientReady.mutex = none
      · have taken : threadRoutineAccept s (.trylockAcquired fd) = some { s with
            accept := .store fd
            clientReady := { s.clientReady with mutex := some .accept } } :=
          require_eq_some.mpr ⟨⟨here, free⟩, rfl⟩
        exact ⟨_, _, answering.returns waits taken rfl rfl (by simp) (by simp) (by simp [here])⟩
      · have taken : threadRoutineAccept s (.trylockBusy fd) = some { s with
            accept := .readSlot fd } := require_eq_some.mpr ⟨⟨here, free⟩, rfl⟩
        exact ⟨_, _, answering.returns waits taken rfl rfl (by simp) (by simp [here])
          (by simp [here])⟩
  | readSlot fd =>
      by_cases empty : s.clientReady.clientFd = none
      · have taken : threadRoutineAccept s (.slotEmpty fd) = some { s with
            accept := .testcancelSpurious fd } := require_eq_some.mpr ⟨⟨here, empty⟩, rfl⟩
        exact ⟨_, _, answering.returns waits taken rfl rfl (by simp) (by simp) (by simp [here])⟩
      · have taken : threadRoutineAccept s (.slotTaken fd) = some { s with
            accept := .callWriteAll fd } := require_eq_some.mpr ⟨⟨here, empty⟩, rfl⟩
        exact ⟨_, _, answering.returns waits taken rfl rfl (by simp) (by simp [here])
          (by simp [here])⟩
  | callWriteAll fd =>
      have taken : threadRoutineAccept s (.callWriteAll fd) = some { s with
          accept := .write fd (.call fd.number rejection) } := require_eq_some.mpr ⟨here, rfl⟩
      exact ⟨_, _, answering.returns waits taken rfl rfl (by simp)
        (by simp [here, WriteAll.call]) (by simp [here])⟩
  | write fd w => exact answering.returns_write waits here
  | store fd =>
      have taken : threadRoutineAccept s (.store fd) = some { s with
          accept := .unlock fd
          clientReady := { s.clientReady with clientFd := some fd } } :=
        require_eq_some.mpr ⟨here, rfl⟩
      exact ⟨_, _, answering.returns waits taken rfl rfl (by simp) (by simp) (by simp [here])⟩
  | unlock fd =>
      have taken : threadRoutineAccept s (.unlock fd) = some { s with
          accept := .testcancelPublished fd
          clientReady := { s.clientReady with mutex := none } } := require_eq_some.mpr ⟨here, rfl⟩
      exact ⟨_, _, answering.returns waits taken rfl rfl (by simp) (by simp) (by simp [here])⟩
  | testcancelPublished fd =>
      have taken : threadRoutineAccept s (.testcancelPublished fd) = some { s with
          accept := .signal fd } := require_eq_some.mpr ⟨⟨here, answering.uncancelled⟩, rfl⟩
      exact ⟨_, _, answering.returns waits taken rfl rfl (by simp) (by simp) (by simp [here])⟩
  | testcancelSpurious fd =>
      have taken : threadRoutineAccept s (.testcancelSpurious fd) = some { s with
          accept := .cleanupPop fd true } :=
        require_eq_some.mpr ⟨⟨here, answering.uncancelled⟩, rfl⟩
      exact ⟨_, _, answering.returns waits taken rfl rfl (by simp) (by simp) (by simp [here])⟩
  | signal fd =>
      have taken : threadRoutineAccept s (.signal fd) = some { s with
          accept := .cleanupPop fd false
          clientConnection := s.clientConnection.signalled } := require_eq_some.mpr ⟨here, rfl⟩
      exact ⟨_, _, answering.returns waits taken rfl rfl (by simp) (by simp) (by simp [here])⟩
  | cleanupPop fd doCleanup =>
      cases doCleanup with
      | false =>
          have taken : threadRoutineAccept s (.popNoClose fd) = some { s with accept := .accept } :=
            require_eq_some.mpr ⟨here, rfl⟩
          exact ⟨_, _, answering.returns waits taken rfl rfl (by simp) (by simp) (by simp [here])⟩
      | true =>
          refine ⟨.popClose fd, { s with accept := .accept, kernel := s.kernel.close fd.number },
            answering.step (require_eq_some.mpr ⟨here, rfl⟩), ?_, ?_, by simp [here]⟩
          · exact ⟨answering.alive, by simp, answering.uncancelled, by simp⟩
          · exact ⟨waits.pending, waits.isOpen⟩
  | accept => exact absurd here elsewhere
  | notCreated | waitForChildReady | perror | cleanupRoutine | ended => simp [here] at inLoop

def Action.OfAccept : Action → Prop
  | .accept _ => True
  | _ => False

theorem Answering.idles (answering : Answering s) (waits : s.Waits c) :
    ∃ more t, system.exec s more = some t ∧ (∀ a ∈ more, a.OfAccept) ∧ Answering t ∧ t.Waits c ∧
      t.accept = .accept := by
  have advances : ∀ (_ : List Action) s, Answering s ∧ s.Waits c → s.accept ≠ .accept →
      ∃ a s', a.OfAccept ∧ system.step s a = some s' ∧ (Answering s' ∧ s'.Waits c) ∧
        s'.accept.stepsToAccept < s.accept.stepsToAccept := by
    rintro _ s ⟨answering, waits⟩ elsewhere
    obtain ⟨a, s', returns⟩ := answering.returns_next waits elsewhere
    exact ⟨.accept a, s', trivial, returns.step, ⟨returns.answering, returns.waits⟩, returns.closer⟩
  obtain ⟨more, t, path, only, ⟨answering, waits⟩, idle⟩ :=
    @System.exists_exec_of_rank _ _ system [] s _ _ _ (fun s => s.accept.stepsToAccept) advances
      ⟨answering, waits⟩
  exact ⟨more, t, path, only, answering, waits, idle⟩

/-! ## The answer -/

theorem exec_handsOver (s : State) (fd : ClientFd) (alive : s.killed = false)
    (here : s.accept = .trylock fd)
    (uncancelled : s.cancelRequested .accept = false) (free : s.clientReady.mutex = none) :
    system.exec s [.accept (.trylockAcquired fd), .accept (.store fd), .accept (.unlock fd),
      .accept (.testcancelPublished fd), .accept (.signal fd), .accept (.popNoClose fd)] =
    some { s with
      accept := .accept
      clientReady := ⟨none, some fd⟩
      clientConnection := s.clientConnection.signalled } := by
  simp [System.exec, system, Server.step, act, threadRoutineAccept, require, here, free, alive,
    uncancelled]

theorem exec_rejects (s : State) (fd : ClientFd) (alive : s.killed = false)
    (here : s.accept = .trylock fd)
    (busy : s.clientReady.mutex ≠ none) (taken : s.clientReady.clientFd ≠ none)
    (file : s.Refers fd) (isOpen : (s.kernel.connections fd.connection).closed = false) :
    system.exec s [.accept (.trylockBusy fd), .accept (.slotTaken fd), .accept (.callWriteAll fd),
      .accept (.wrote fd (.call fd.number rejection) (.connection fd.connection)
        rejection.length),
      .accept (.popClose fd)] =
    some { s with
      accept := .accept
      kernel := (s.kernel.deliver (.connection fd.connection) rejection).close fd.number } := by
  have last : AcceptPc.afterWrite fd (.call fd.number rejection) rejection.length =
      .cleanupPop fd true := by
    simp [AcceptPc.afterWrite, WriteAll.accepted, WriteAll.call]
  have file : s.kernel.fds.fileAt (WriteAll.call fd.number rejection).fd =
      some (.connection fd.connection) := file
  simp [System.exec, system, Server.step, act, threadRoutineAccept, require, here, busy, taken,
    alive, last, Writable, isOpen, file]

theorem exec_drops (s : State) (fd : ClientFd) (alive : s.killed = false)
    (here : s.accept = .trylock fd)
    (uncancelled : s.cancelRequested .accept = false) (busy : s.clientReady.mutex ≠ none)
    (empty : s.clientReady.clientFd = none) :
    system.exec s [.accept (.trylockBusy fd), .accept (.slotEmpty fd),
      .accept (.testcancelSpurious fd), .accept (.popClose fd)] =
    some { s with accept := .accept, kernel := s.kernel.close fd.number } := by
  simp [System.exec, system, Server.step, act, threadRoutineAccept, require, here, busy, empty,
    alive, uncancelled]

/-- What becomes of a connection is decided by the mutex and the slot of client_ready_info: it is
handed over, rejected or, where the connection thread has just left its client, only closed. -/
inductive Answer (s t : State) (fd : ClientFd) : Prop
  | handedOver (free : s.clientReady.mutex = none) (slot : t.clientReady = ⟨none, some fd⟩)
      (woken : t.clientConnection = s.clientConnection.signalled) (file : t.Refers fd)
  | rejected (busy : s.clientReady.mutex ≠ none) (taken : s.clientReady.clientFd ≠ none)
      (received : t.received fd.connection = rejection) (closed : t.Closed fd)
  | dropped (busy : s.clientReady.mutex ≠ none) (empty : s.clientReady.clientFd = none)
      (received : t.received fd.connection = []) (closed : t.Closed fd)

theorem Answering.answers (run : system.Run actions s) (answering : Answering s)
    (waits : s.Waits c) (here : s.accept = .accept) :
    ∃ more t, system.exec s more = some t ∧ (∀ a ∈ more, a.OfAccept) ∧ t.accept = .accept ∧
      Answer s t ⟨s.kernel.fds.lowestFree, c⟩ := by
  have unheard := (Accepted.run run).unheard c (by simp [waits.pending])
  let fd : ClientFd := ⟨s.kernel.fds.lowestFree, c⟩
  let s' : State := { s with accept := .trylock fd, kernel := s.kernel.accept c }
  have accepts : system.exec s [.accept (.accepted c)] = some s' :=
    System.exec_singleton (answering.step (require_eq_some.mpr ⟨⟨here, waits.pending⟩, rfl⟩))
  have file : s'.Refers fd := by simp [s', fd, State.Refers]
  have isOpen : (s'.kernel.connections fd.connection).closed = false := by
    simpa [s', fd, accept] using waits.isOpen
  by_cases free : s.clientReady.mutex = none
  · have path := System.exec_trans accepts
      (exec_handsOver s' fd answering.alive rfl answering.uncancelled free)
    exact ⟨_, _, path, by simp [Action.OfAccept], rfl, .handedOver free rfl rfl file⟩
  by_cases empty : s.clientReady.clientFd = none
  · have path := System.exec_trans accepts
      (exec_drops s' fd answering.alive rfl answering.uncancelled free empty)
    refine ⟨_, _, path, by simp [Action.OfAccept], rfl, .dropped free empty ?_ ?_⟩
    · simpa [s', fd, State.received] using unheard
    · simp [State.Closed, fd, DescriptorTable.fileAt_close]
  · have path := System.exec_trans accepts
      (exec_rejects s' fd answering.alive rfl free empty file isOpen)
    refine ⟨_, _, path, by simp [Action.OfAccept], rfl, .rejected free empty ?_ ?_⟩
    · simpa [s', fd, State.received, deliver] using unheard
    · simp [State.Closed, fd, DescriptorTable.fileAt_close]

/-- Connection 1 waits while connection 0 is served. -/
def waitsWhileServed : List Action :=
  startUp ++ handOver ⟨4, 0⟩ ++
    [.clientConnection .relock, .clientConnection (.take ⟨4, 0⟩), .clientConnection .load,
     .client (.connect 1)]

end Usockit.Server
