import Usockit.Server.Integrity
import Usockit.Server.Stdin

/-! The connection thread forwards what a client has sent, and the program reads it. -/

namespace Usockit.Server
open Foundation Kernel

variable {s s' : State} {actions : List Action} {fd : ClientFd}

/-! ## Room in the main pipe -/

def Kernel.mainUnread (k : Kernel) : List Byte := k.mainPipe.drop k.mainReadc

@[simp] theorem Kernel.mainUnread_setConnection {k : Kernel} {c : ConnId}
    {connection : Connection} : (k.setConnection c connection).mainUnread = k.mainUnread := rfl

/-- No write() has to wait: the connection thread writes at most a buffer to an empty pipe, and
nobody else writes. -/
def FindsRoom (s : State) : Action → Prop
  | .clientConnection (.wrote w _ _) => s.kernel.mainUnread = [] ∧ w.offered.length ≤ bufferSize
  | .accept (.wrote _ _ _ _) | .accept (.perror _ _ _) | .parent (.perror _ _ _ _) => False
  | _ => True

theorem FindsRoom.spares {a : Action} (room : FindsRoom s a) : SparesPeers s a := by
  intro calls
  unfold Action.callsPerror at calls
  split at calls
  · exact room.elim
  · exact room.elim
  · cases calls

theorem pending_fits {ok : State → Action → Prop} {bytes : List Byte}
    (run : system.RunWhere ok actions s) (here : s.clientConnection.pending = some bytes) :
    bytes.length ≤ bufferSize := by
  refine run.stateInvariant
    (I := fun s => ∀ bytes, s.clientConnection.pending = some bytes → bytes.length ≤ bufferSize)
    ?_ ?_ bytes here
  · rintro _ ⟨config, rfl⟩
    simp [State.start, ClientConnectionPc.pending]
  · rintro _ s a s' run fits - step bytes here
    have taken := (system_step.mp step).2
    by_cases own : ∃ b, a = .clientConnection b
    · obtain ⟨b, rfl⟩ := own
      cases b <;> simp only [act, threadRoutineClientConnection, require_eq_some] at taken <;>
        obtain ⟨guard, rfl⟩ := taken
      case received fd c k =>
        obtain rfl := Option.some.inj here
        exact Nat.le_trans (List.length_take_le _ _) guard.2.2.2.1
      case callWriteAll buffer n =>
        obtain rfl := Option.some.inj here
        exact fits _ (by simp [guard])
      case wrote w f k =>
        have split := congrArg List.length (ClientConnectionPc.pending_afterWrite here)
        have before := fits _ (by rw [guard.1]; rfl)
        rw [List.length_append] at split
        omega
      case take | load =>
        obtain rfl := Option.some.inj here
        exact Nat.zero_le _
      case writeSigpipe => exact fits _ here
      case cleanupClose => simp at here
      all_goals simp [ClientConnectionPc.pending] at here
    · rcases act_sameClientConnection taken (fun b same => own ⟨b, same⟩) with
        same | same | ⟨-, same⟩
      · exact fits _ (same ▸ here)
      · exact fits _ (by simpa [same] using here)
      · simp [same, ClientConnectionPc.pending] at here

/-! ## A session -/

/-- The connection thread is in its loop for `fd`, and the main pipe is open to it and to the
program. -/
structure InSession (fd : ClientFd) (s : State) : Prop where
  alive : s.killed = false
  looping : s.clientConnection.pending ≠ none
  slot : s.clientReady.clientFd = some fd
  file : s.kernel.fds.fileAt fd.number = some (.connection fd.connection)
  stdin : ∃ n, s.childStdinFdCell = some n ∧ s.kernel.fds.fileAt n = some (.pipe .main .write)
  program : s.kernel.child.pc = .program
  reader : s.kernel.child.fds.Holds (.pipe .main .read)

/-- Everything has been read and forwarded that the client has sent. -/
structure Drained (fd : ClientFd) (s : State) : Prop where
  reading : s.clientConnection = .read (some fd)
  connection : (s.kernel.connections fd.connection).unread = []
  mainPipe : s.kernel.mainUnread = []

/-- The connection thread has touched nothing but its own state and the streams. -/
def Forwarded (s t : State) : Prop :=
  ∃ pc k, t = { s with clientConnection := pc, kernel := k } ∧ k.fds = s.kernel.fds ∧
    k.child = s.kernel.child

theorem Forwarded.trans {t : State} (first : Forwarded s s') (second : Forwarded s' t) :
    Forwarded s t := by
  obtain ⟨pc, k, rfl, fds, child⟩ := first
  obtain ⟨pc', k', rfl, fds', child'⟩ := second
  exact ⟨pc', k', rfl, fds'.trans fds, child'.trans child⟩

/-- Only what the server has read of the connections has changed. -/
def SameConnections (s t : State) : Prop :=
  ∀ c, ∃ readc, t.kernel.connections c = { s.kernel.connections c with readc := readc }

theorem SameConnections.rfl : SameConnections s s := fun _ => ⟨_, by rfl⟩

theorem SameConnections.trans {t : State} (first : SameConnections s s')
    (second : SameConnections s' t) : SameConnections s t := by
  intro c
  obtain ⟨readc, same⟩ := first c
  obtain ⟨readc', same'⟩ := second c
  exact ⟨readc', by rw [same', same]⟩

def ClientConnectionPc.unforwarded : ClientConnectionPc → Nat
  | .callWriteAll buffer => 2 * buffer.length + 4
  | .write w => 2 * w.offered.length + 3
  | .load => 2
  | .read _ => 1
  | _ => 0

def State.unforwarded (fd : ClientFd) (s : State) : Nat :=
  6 * (s.kernel.connections fd.connection).unread.length + s.clientConnection.unforwarded +
    s.kernel.mainUnread.length

/-- A step of the connection thread in its loop, or a read() of the program. -/
def Action.OfSession : Action → Prop
  | .clientConnection _ | .child (.programReads _ _) => True
  | _ => False

/-- The bytes of the client come closer to the program. -/
structure Forwards (fd : ClientFd) (s : State) (a : Action) (s' : State) : Prop where
  step : system.step s a = some s'
  room : FindsRoom s a
  ofSession : a.OfSession
  sameSession : a.taken = none
  inSession : InSession fd s'
  forwarded : Forwarded s s'
  connections : SameConnections s s'
  closer : s'.unforwarded fd < s.unforwarded fd

namespace InSession

attribute [local simp] State.unforwarded ClientConnectionPc.unforwarded

theorem reads (inSession : InSession fd s) (unread : s.kernel.mainUnread ≠ []) :
    ∃ a s', Forwards fd s a s' := by
  obtain ⟨n, here⟩ := inSession.reader
  have positive := List.length_pos_iff.mpr unread
  simp only [Kernel.mainUnread, List.length_drop] at positive
  refine ⟨.child (.programReads n s.kernel.mainUnread.length), _, system_step.mpr
    ⟨inSession.alive, Option.map_eq_some_iff.mpr ⟨_, require_eq_some.mpr
      ⟨⟨inSession.program, here, ?_⟩, rfl⟩, rfl⟩⟩, trivial, trivial, rfl, { inSession with },
    ⟨_, _, rfl, rfl, rfl⟩, .rfl, ?_⟩
  · simp only [Kernel.mainUnread, List.length_drop]
    omega
  · simp only [State.unforwarded, Kernel.mainUnread, List.length_drop]
    omega

theorem receives (inSession : InSession fd s) (here : s.clientConnection = .read (some fd))
    (unread : (s.kernel.connections fd.connection).unread ≠ []) : ∃ a s', Forwards fd s a s' := by
  let k := min bufferSize (s.kernel.connections fd.connection).unread.length
  have positive : 0 < k := Nat.lt_min.mpr ⟨by decide, List.length_pos_iff.mpr unread⟩
  have enough : k ≤ (s.kernel.connections fd.connection).unread.length := Nat.min_le_right _ _
  refine ⟨.clientConnection (.received fd fd.connection k), _, system_step.mpr ⟨inSession.alive,
    require_eq_some.mpr ⟨⟨here, inSession.file, positive, Nat.min_le_left _ _, enough⟩, rfl⟩⟩,
    trivial, trivial, rfl, { inSession with looping := by simp }, ⟨_, _, rfl, rfl, rfl⟩, ?_, ?_⟩
  · intro c
    rw [connections_setConnection]
    split
    · next same => exact ⟨_, by rw [same]⟩
    · exact ⟨_, rfl⟩
  · have buffer : ((s.kernel.connections fd.connection).unread.take k).length = k := by
      rw [List.length_take, Nat.min_eq_left enough]
    simp only [State.unforwarded, here, ClientConnectionPc.unforwarded, buffer,
      connections_setConnection, ↓reduceIte, mainUnread_setConnection]
    simp only [Connection.unread, List.length_drop] at enough ⊢
    omega

theorem writes {w : WriteAll} (inSession : InSession fd s) (run : system.Run actions s)
    (here : s.clientConnection = .write w) (room : s.kernel.mainUnread = []) :
    ∃ a s', Forwards fd s a s' := by
  obtain ⟨n, cell, pipe⟩ := inSession.stdin
  obtain rfl := Option.some.inj (cell.symm.trans (write_stdin run w here))
  have last : ClientConnectionPc.afterWrite w w.offered.length = .load := by
    simp [ClientConnectionPc.afterWrite, w.accepted_offered]
  refine ⟨.clientConnection (.wrote w (.pipe .main .write) w.offered.length), _, system_step.mpr
    ⟨inSession.alive, require_eq_some.mpr ⟨⟨here, pipe, .inr inSession.reader, Nat.le_refl _⟩,
      rfl⟩⟩, ⟨room, pending_fits run (by simp [here])⟩, trivial, rfl,
    { inSession with looping := by simp [last] }, ⟨_, _, rfl, rfl, rfl⟩, .rfl, ?_⟩
  simp only [Kernel.mainUnread, List.drop_eq_nil_iff] at room
  simp only [State.unforwarded, here, last, ClientConnectionPc.unforwarded, deliver,
    Kernel.mainUnread, List.take_length, List.length_drop, List.length_append]
  omega

theorem forwards (inSession : InSession fd s) (run : system.Run actions s)
    (undrained : ¬ Drained fd s) : ∃ a s', Forwards fd s a s' := by
  by_cases room : s.kernel.mainUnread = []
  · cases here : s.clientConnection with
    | load =>
        exact ⟨.clientConnection .load, _, system_step.mpr ⟨inSession.alive,
          require_eq_some.mpr ⟨here, rfl⟩⟩, trivial, trivial, rfl,
          { inSession with looping := by simp }, ⟨_, _, rfl, rfl, rfl⟩, .rfl, by simp [here]⟩
    | read f =>
        obtain rfl : some fd = f :=
          inSession.slot.symm.trans ((Handoff.run run).loaded f (by simp [here]))
        exact inSession.receives here fun nothing => undrained ⟨here, nothing, room⟩
    | callWriteAll buffer =>
        obtain ⟨n, cell, -⟩ := inSession.stdin
        exact ⟨.clientConnection (.callWriteAll buffer n), _, system_step.mpr ⟨inSession.alive,
          require_eq_some.mpr ⟨⟨here, cell⟩, rfl⟩⟩, trivial, trivial, rfl,
          { inSession with looping := by simp }, ⟨_, _, rfl, rfl, rfl⟩, .rfl, by simp [here]⟩
    | write w => exact inSession.writes run here room
    | _ => exact absurd inSession.looping (by simp [here, ClientConnectionPc.pending])
  · exact inSession.reads room

/-- What `fd` has left to be forwarded gets to the program, and no write() has to wait. -/
theorem drains (inSession : InSession fd s) (run : system.Run actions s) :
    ∃ more t, system.exec s more = some t ∧
      system.Meets (fun s a => FindsRoom s a ∧ a.OfSession ∧ a.taken = none) s more ∧
      InSession fd t ∧ Drained fd t ∧ Forwarded s t ∧ SameConnections s t := by
  have reached := System.exists_path_of_rank (M := system) (g := Drained fd)
    (fun s a => FindsRoom s a ∧ a.OfSession ∧ a.taken = none)
    (I := fun actions t => system.Run actions t ∧ InSession fd t ∧ Forwarded s t ∧
      SameConnections s t) (State.unforwarded fd) ?_ ⟨run, inSession, ⟨_, _, rfl, rfl, rfl⟩, .rfl⟩
  · obtain ⟨more, t, path, meets, ⟨-, there, forwarded, connections⟩, drained⟩ := reached
    exact ⟨more, t, path, meets, there, drained, forwarded, connections⟩
  · rintro actions t ⟨run, inSession, forwarded, connections⟩ undrained
    obtain ⟨a, t', forwards⟩ := inSession.forwards run undrained
    exact ⟨[a], t', System.exec_singleton forwards.step,
      System.meets_singleton ⟨forwards.room, forwards.ofSession, forwards.sameSession⟩,
      ⟨.snoc run trivial forwards.step, forwards.inSession, forwarded.trans forwards.forwarded,
        connections.trans forwards.connections⟩, forwards.closer⟩

end InSession

/-- Then the end of the stream is read. -/
theorem Drained.step_readEof (drained : Drained fd s) (inSession : InSession fd s)
    (shutdown : (s.kernel.connections fd.connection).shutdown = true) :
    system.step s (.clientConnection (.readEof fd fd.connection)) =
      some { s with clientConnection := .cleanupLoad false } :=
  system_step.mpr ⟨inSession.alive, require_eq_some.mpr
    ⟨⟨drained.reading, inSession.file, drained.connection, shutdown⟩, rfl⟩⟩

end Usockit.Server
