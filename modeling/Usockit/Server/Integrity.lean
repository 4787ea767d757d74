import Mathlib.Data.List.Induction
import Usockit.Server.Stderr
import Usockit.Server.Stdin

namespace Usockit.Server
open Foundation Kernel

variable {s s' : State} {actions : List Action}

/-! ## The sessions of a run -/

/-- What the connection thread wrote for a client, and whether read() returned 0 in the end. -/
structure Session where
  fd : ClientFd
  written : List Byte
  eof : Bool
  deriving DecidableEq

def Session.record (sessions : List Session) : Action → List Session
  | .clientConnection (.take fd) => ⟨fd, [], false⟩ :: sessions
  | .clientConnection (.wrote w _ k) => sessions.modifyHead fun session =>
      { session with written := session.written ++ w.offered.take k }
  | .clientConnection (.readEof _ _) => sessions.modifyHead fun session =>
      { session with eof := true }
  | _ => sessions

def sessionLog (actions : List Action) : List Session := actions.foldl Session.record []

def sessions (actions : List Action) : List Session := (sessionLog actions).reverse

def Action.taken : Action → Option ClientFd
  | .clientConnection (.take fd) => some fd
  | _ => none

/-- The bytes of the main pipe, session by session. -/
structure StdinIntegrity (actions : List Action) (s : State) : Prop where
  concatenation : s.kernel.mainPipe = ((sessions actions).map Session.written).flatten
  order : (sessions actions).map Session.fd = actions.filterMap Action.taken
  distinct : ((sessions actions).map fun session => session.fd.connection).Nodup
  isPrefix : ∀ session ∈ sessions actions,
    session.written <+: (s.kernel.connections session.fd.connection).sent
  whole : ∀ session ∈ sessions actions, session.eof = true →
    session.written = (s.kernel.connections session.fd.connection).sent

@[simp] theorem sessionLog_snoc (a : Action) :
    sessionLog (actions ++ [a]) = Session.record (sessionLog actions) a := by
  simp [sessionLog]

theorem Session.record_fds (log : List Session) (a : Action) :
    (Session.record log a).map Session.fd = a.taken.toList ++ log.map Session.fd := by
  have head : ∀ f : Session → Session, (∀ session, (f session).fd = session.fd) →
      (log.modifyHead f).map Session.fd = log.map Session.fd := by
    intro f same
    cases log <;> simp [same]
  unfold Session.record Action.taken
  split
  · rfl
  · simp [head]
  · simp [head]
  · split <;> simp_all

theorem sessions_order : (sessions actions).map Session.fd = actions.filterMap Action.taken := by
  induction actions using List.reverseRecOn with
  | nil => rfl
  | append_singleton actions a ih =>
      have log : (sessionLog actions).map Session.fd =
          (actions.filterMap Action.taken).reverse := by
        rw [← ih, sessions, List.map_reverse, List.reverse_reverse]
      rw [sessions, List.map_reverse, sessionLog_snoc, Session.record_fds, log,
        List.filterMap_append]
      cases taken : a.taken <;> simp [taken]

theorem taken_of_session {session : Session} (logged : session ∈ sessionLog actions) :
    Taken actions session.fd := by
  have listed : session.fd ∈ actions.filterMap Action.taken := by
    rw [← sessions_order]
    exact List.mem_map_of_mem (List.mem_reverse.mpr logged)
  obtain ⟨a, here, taken⟩ := List.mem_filterMap.mp listed
  unfold Action.taken at taken
  split at taken
  · obtain rfl := Option.some.inj taken
    exact here
  · cases taken

/-! ## What the other steps do to a client's stream -/

/-- The client may have sent more, but not after its end of the stream. -/
structure Connection.Extends (c c' : Connection) : Prop where
  sent : c.sent <+: c'.sent
  readc : c'.readc = c.readc
  final : c.shutdown = true → c'.sent = c.sent ∧ c'.shutdown = true

theorem Connection.Extends.rfl {c : Connection} : c.Extends c :=
  ⟨List.prefix_rfl, Eq.refl _, fun final => ⟨Eq.refl _, final⟩⟩

theorem extends_deliver (k : Kernel) (f : File) (bytes : List Byte) (c : ConnId) :
    (k.connections c).Extends ((k.deliver f bytes).connections c) := by
  obtain ⟨received, same⟩ := connections_deliver k c f bytes
  rw [same]
  exact ⟨List.prefix_rfl, rfl, fun final => ⟨rfl, final⟩⟩

theorem extends_writeStderr (k : Kernel) (bytes : List Byte) (c : ConnId) :
    (k.connections c).Extends ((k.writeStderr bytes).connections c) := by
  obtain ⟨received, same⟩ := connections_writeStderr k c bytes
  rw [same]
  exact ⟨List.prefix_rfl, rfl, fun final => ⟨rfl, final⟩⟩

theorem extends_client {k k' : Kernel} {a : ClientAction} (taken : client k a = some k')
    (c : ConnId) : (k.connections c).Extends (k'.connections c) := by
  cases a <;> simp only [client, require_eq_some] at taken <;> obtain ⟨guard, rfl⟩ := taken <;>
    simp only [connections_setConnection] <;> split
  case send.isTrue d bytes same =>
    subst same
    exact ⟨List.prefix_append _ _, rfl, fun final => by simp [guard.2] at final⟩
  case connect.isTrue same | shutdown.isTrue same | shutdownRead.isTrue same | close.isTrue same =>
    subst same
    exact ⟨List.prefix_rfl, rfl, by simp⟩
  all_goals exact .rfl

theorem act_extends {a : Action} (taken : act s a = some s')
    (other : ∀ b, a ≠ .clientConnection b) (c : ConnId) :
    (s.kernel.connections c).Extends (s'.kernel.connections c) := by
  cases a with
  | setupThreads | setupChild | childWait =>
      rw [(act_sameStreams taken id).connections]
      exact .rfl
  | parent a =>
      cases a <;> simp only [act, parent, require_eq_some] at taken <;> obtain ⟨-, rfl⟩ := taken
      case perror => exact extends_writeStderr _ _ _
      all_goals exact .rfl
  | accept a =>
      cases a <;> simp only [act, threadRoutineAccept, require_eq_some,
        Option.ite_none_right_eq_some, Option.map_eq_some_iff] at taken
      case waitForChildReady w a =>
        obtain ⟨-, r, -, rfl⟩ := taken
        exact .rfl
      case accepted d =>
        obtain ⟨-, rfl⟩ := taken
        simp only [connections_accept]
        split
        · next same =>
          subst same
          exact ⟨List.prefix_rfl, rfl, fun final => ⟨rfl, final⟩⟩
        · exact .rfl
      case wrote fd w f k =>
        obtain ⟨-, rfl⟩ := taken
        exact extends_deliver _ _ _ _
      case perror =>
        obtain ⟨-, rfl⟩ := taken
        exact extends_writeStderr _ _ _
      all_goals
        obtain ⟨-, rfl⟩ := taken
        exact .rfl
  | clientConnection a => exact absurd rfl (other a)
  | child a =>
      cases a <;> simp only [act, child, Option.map_eq_some_iff, require_eq_some] at taken <;>
        obtain ⟨k, ⟨-, rfl⟩, rfl⟩ := taken
      case wrote error k =>
        exact extends_deliver s.kernel (.pipe .reporting .write) (error.bytes.take k) c
      case programWrites f bytes => exact extends_deliver s.kernel f bytes c
      all_goals exact .rfl
  | client a =>
      simp only [act, Option.map_eq_some_iff] at taken
      obtain ⟨k, taken, rfl⟩ := taken
      exact extends_client taken c

/-! ## Who writes to the main pipe -/

theorem mainPipe_deliver {k : Kernel} {f : File} (bytes : List Byte)
    (other : f ≠ .pipe .main .write) : (k.deliver f bytes).mainPipe = k.mainPipe := by
  unfold deliver
  split <;> simp_all

theorem mainPipe_writeStderr {k : Kernel} (bytes : List Byte)
    (other : k.fds.fileAt stderrFileno ≠ some (.pipe .main .write)) :
    (k.writeStderr bytes).mainPipe = k.mainPipe := by
  obtain same | ⟨f, here, -, same⟩ := writeStderr_cases k bytes
  · rw [same]
  · rw [same]
    exact mainPipe_deliver bytes fun main => other (main ▸ here)

theorem act_mainPipe {ok : State → Action → Prop} {a : Action}
    (run : system.RunWhere ok actions s) (spares : SparesStdin s a) (taken : act s a = some s')
    (other : ∀ b, a ≠ .clientConnection b) : s'.kernel.mainPipe = s.kernel.mainPipe := by
  cases a with
  | setupThreads | setupChild | childWait => exact (act_sameStreams taken id).mainPipe
  | parent a =>
      cases a <;> simp only [act, parent, require_eq_some] at taken <;> obtain ⟨-, rfl⟩ := taken
      case perror => exact mainPipe_writeStderr _ (spares rfl)
      all_goals rfl
  | accept a =>
      cases a <;> simp only [act, threadRoutineAccept, require_eq_some,
        Option.ite_none_right_eq_some, Option.map_eq_some_iff] at taken
      case waitForChildReady w a =>
        obtain ⟨-, r, -, rfl⟩ := taken
        rfl
      case wrote fd w f k =>
        obtain ⟨⟨here, file, -⟩, rfl⟩ := taken
        have refers := (Descriptors.run run).unpublished fd (by simp [here])
        rw [State.Refers, ← accept_write run fd w here, file] at refers
        exact mainPipe_deliver _ (by simp_all)
      case perror =>
        obtain ⟨-, rfl⟩ := taken
        exact mainPipe_writeStderr _ (spares rfl)
      all_goals
        obtain ⟨-, rfl⟩ := taken
        rfl
  | clientConnection a => exact absurd rfl (other a)
  | child a =>
      cases a <;> simp only [act, child, Option.map_eq_some_iff, require_eq_some] at taken <;>
        obtain ⟨k, ⟨guard, rfl⟩, rfl⟩ := taken
      case wrote => exact mainPipe_deliver _ (by simp)
      case programWrites =>
        exact mainPipe_deliver _ ((ChildTable.run run).program_writes guard.1 guard.2.1)
      all_goals rfl
  | client a =>
      cases a <;> simp only [act, client, Option.map_eq_some_iff, require_eq_some] at taken <;>
        obtain ⟨k, ⟨-, rfl⟩, rfl⟩ := taken <;> rfl

/-! ## The ledger -/

/-- What was read from the client and is still to be written. -/
def ClientConnectionPc.pending : ClientConnectionPc → Option (List Byte)
  | .load | .read _ => some []
  | .callWriteAll buffer => some buffer
  | .write w => some w.offered
  | _ => none

attribute [simp] ClientConnectionPc.pending.eq_1 ClientConnectionPc.pending.eq_2
  ClientConnectionPc.pending.eq_3 ClientConnectionPc.pending.eq_4 ClientConnectionPc.pending.eq_5

@[simp] theorem ClientConnectionPc.pending_signalled (pc : ClientConnectionPc) :
    pc.signalled.pending = pc.pending := by
  cases pc <;> rfl

@[simp] theorem ClientConnectionPc.pending_afterCleanup (cancelled : Bool) :
    (ClientConnectionPc.afterCleanup cancelled).pending = none := by
  cases cancelled <;> rfl

theorem ClientConnectionPc.pending_afterWrite {w : WriteAll} {k : Nat} {bytes : List Byte}
    (left : (ClientConnectionPc.afterWrite w k).pending = some bytes) :
    w.offered.take k ++ bytes = w.offered := by
  unfold afterWrite at left
  split at left
  · next next =>
    obtain rfl : WriteAll.offered _ = bytes := by simpa using left
    exact WriteAll.offered_of_accepted next
  · next last =>
    obtain rfl : [] = bytes := by simpa using left
    rw [List.append_nil]
    exact WriteAll.offered_of_accepted_none last

theorem ClientConnectionPc.serving_of_pending {pc : ClientConnectionPc} {bytes : List Byte}
    (pending : pc.pending = some bytes) : pc.serving = true := by
  cases pc <;> simp_all

abbrev State.connectionOf (s : State) (session : Session) : Connection :=
  s.kernel.connections session.fd.connection

/-- Every byte that was read from a client is written or pending. -/
structure Ledger (log : List Session) (s : State) : Prop where
  readc : ∀ c, (s.kernel.connections c).readc ≤ (s.kernel.connections c).sent.length
  unread : ∀ c, (∀ session ∈ log, session.fd.connection ≠ c) →
    (s.kernel.connections c).readc = 0
  distinct : (log.map fun session => session.fd.connection).Nodup
  isPrefix : ∀ session ∈ log, session.written <+: (s.connectionOf session).sent
  whole : ∀ session ∈ log, session.eof = true →
    (s.connectionOf session).shutdown = true ∧ session.written = (s.connectionOf session).sent
  current : ∀ bytes, s.clientConnection.pending = some bytes → ∃ session rest,
    log = session :: rest ∧ s.clientReady.clientFd = some session.fd ∧ session.eof = false ∧
      session.written ++ bytes = (s.connectionOf session).sent.take (s.connectionOf session).readc

variable {log : List Session}

theorem Ledger.start (config : Config) : Ledger [] (.start config) := by
  constructor <;> simp [State.start]

theorem Ledger.frame (ledger : Ledger log s)
    (grows : ∀ c, (s.kernel.connections c).Extends (s'.kernel.connections c))
    (pending : ∀ bytes, s'.clientConnection.pending = some bytes →
      s.clientConnection.pending = some bytes ∧
        s'.clientReady.clientFd = s.clientReady.clientFd) : Ledger log s' := by
  constructor
  · intro c
    rw [(grows c).readc]
    exact Nat.le_trans (ledger.readc c) (grows c).sent.length_le
  · intro c none
    rw [(grows c).readc, ledger.unread c none]
  · exact ledger.distinct
  · exact fun session logged => (ledger.isPrefix session logged).trans (grows _).sent
  · intro session logged eof
    obtain ⟨final, written⟩ := ledger.whole session logged eof
    obtain ⟨sent, final⟩ := (grows _).final final
    exact ⟨final, written.trans sent.symm⟩
  · intro bytes here
    obtain ⟨before, slot⟩ := pending bytes here
    obtain ⟨session, rest, latest, current, notEof, sum⟩ := ledger.current bytes before
    refine ⟨session, rest, latest, slot.trans current, notEof, ?_⟩
    obtain ⟨more, sent⟩ := (grows session.fd.connection).sent
    rw [sum, State.connectionOf, State.connectionOf, (grows _).readc, ← sent,
      List.take_append_of_le_length (ledger.readc _)]

theorem Ledger.take {fd : ClientFd} (ledger : Ledger log s)
    (slot : s.clientReady.clientFd = some fd)
    (fresh : ∀ session ∈ log, session.fd.connection ≠ fd.connection) :
    Ledger (⟨fd, [], false⟩ :: log) { s with clientConnection := .load } := by
  constructor
  · exact ledger.readc
  · exact fun c none => ledger.unread c fun session logged => none session (.tail _ logged)
  · simpa using ⟨fresh, ledger.distinct⟩
  · simpa using ledger.isPrefix
  · simpa using ledger.whole
  · intro bytes here
    obtain rfl : [] = bytes := by simpa using here
    exact ⟨_, _, rfl, slot, rfl, by simp [State.connectionOf, ledger.unread _ fresh]⟩

theorem Ledger.readEof {fd : ClientFd} {flag : Bool} (ledger : Ledger log s)
    (here : s.clientConnection.pending = some []) (slot : s.clientReady.clientFd = some fd)
    (unread : (s.kernel.connections fd.connection).unread = [])
    (final : (s.kernel.connections fd.connection).shutdown = true) :
    Ledger (log.modifyHead fun session => { session with eof := true })
      { s with clientConnection := .cleanupLoad flag } := by
  obtain ⟨session, rest, rfl, current, -, sum⟩ := ledger.current [] here
  obtain rfl : fd = session.fd := Option.some.inj (slot.symm.trans current)
  have whole : session.written = (s.connectionOf session).sent := by
    rw [← List.append_nil session.written, sum, List.take_of_length_le]
    simpa [Connection.unread] using unread
  obtain ⟨readc, unread, distinct, isPrefix, complete, -⟩ := ledger
  constructor
  · exact readc
  · simpa using unread
  · simpa using distinct
  · simpa using isPrefix
  · simp only [List.modifyHead_cons, List.mem_cons, forall_eq_or_imp] at complete ⊢
    exact ⟨fun _ => ⟨final, whole⟩, complete.2⟩
  · simp

theorem Ledger.received {fd : ClientFd} {k : Nat} (ledger : Ledger log s)
    (here : s.clientConnection.pending = some []) (slot : s.clientReady.clientFd = some fd)
    (enough : k ≤ (s.kernel.connections fd.connection).unread.length) :
    Ledger log { s with
      clientConnection := .callWriteAll ((s.kernel.connections fd.connection).unread.take k)
      kernel := s.kernel.setConnection fd.connection
        { s.kernel.connections fd.connection with
          readc := (s.kernel.connections fd.connection).readc + k } } := by
  obtain ⟨session, rest, rfl, current, notEof, sum⟩ := ledger.current [] here
  obtain rfl : fd = session.fd := Option.some.inj (slot.symm.trans current)
  obtain ⟨readc, unread, distinct, isPrefix, whole, -⟩ := ledger
  have sent : ∀ c, ((s.kernel.setConnection session.fd.connection
      { s.kernel.connections session.fd.connection with
        readc := (s.kernel.connections session.fd.connection).readc + k }).connections c).sent =
      (s.kernel.connections c).sent := by
    intro c
    rw [connections_setConnection]
    split <;> simp_all
  constructor
  · intro c
    rw [sent, connections_setConnection]
    split
    · next same =>
      subst same
      simp only [Connection.unread, List.length_drop] at enough
      have bound := readc session.fd.connection
      dsimp only
      omega
    · exact readc c
  · intro c none
    rw [connections_setConnection, if_neg (none session (.head _)).symm]
    exact unread c none
  · exact distinct
  · intro d logged
    rw [State.connectionOf, sent]
    exact isPrefix d logged
  · intro d logged eof
    obtain ⟨final, written⟩ := whole d logged eof
    rw [State.connectionOf, sent, connections_setConnection]
    refine ⟨?_, written⟩
    split
    · next same => rw [← same]; exact final
    · exact final
  · intro bytes now
    obtain rfl := Option.some.inj now
    refine ⟨session, rest, rfl, current, notEof, ?_⟩
    rw [List.append_nil] at sum
    simp [State.connectionOf, Connection.unread, sum, List.take_add]

theorem Ledger.wrote {w : WriteAll} {k : Nat} (ledger : Ledger log s)
    (here : s.clientConnection = .write w) :
    Ledger
      (log.modifyHead fun session =>
        { session with written := session.written ++ w.offered.take k })
      { s with
        clientConnection := .afterWrite w k
        kernel := s.kernel.deliver (.pipe .main .write) (w.offered.take k) } := by
  obtain ⟨session, rest, rfl, current, notEof, sum⟩ := ledger.current w.offered (by simp [here])
  obtain ⟨readc, unread, distinct, isPrefix, whole, -⟩ := ledger
  constructor
  · exact readc
  · simpa [deliver] using unread
  · simpa using distinct
  · simp only [List.modifyHead_cons, List.mem_cons, forall_eq_or_imp] at isPrefix ⊢
    refine ⟨?_, isPrefix.2⟩
    have more : session.written ++ w.offered.take k <+: session.written ++ w.offered :=
      (List.prefix_append_right_inj _).mpr (List.take_prefix _ _)
    exact (sum ▸ more).trans (List.take_prefix _ _)
  · simp only [List.modifyHead_cons, List.mem_cons, forall_eq_or_imp] at whole ⊢
    exact ⟨fun eof => by simp [notEof] at eof, whole.2⟩
  · intro bytes now
    refine ⟨_, rest, rfl, current, notEof, ?_⟩
    rw [List.append_assoc, ClientConnectionPc.pending_afterWrite now]
    exact sum

theorem file_of_slot {ok : State → Action → Prop} {fd : ClientFd} {c : ConnId}
    (run : system.RunWhere ok actions s) (slot : s.clientReady.clientFd = some fd)
    (file : s.kernel.fds.fileAt fd.number = some (.connection c)) : fd.connection = c := by
  rcases (Descriptors.run run).held fd (.inl slot) with refers | ⟨closed, -⟩
  · simpa using refers.symm.trans file
  · cases closed.symm.trans file

theorem Ledger.threadRoutineClientConnection {ok : State → Action → Prop}
    {a : ClientConnectionAction} (ledger : Ledger (sessionLog actions) s)
    (run : system.RunWhere ok actions s) (taken : act s (.clientConnection a) = some s') :
    Ledger (sessionLog (actions ++ [.clientConnection a])) s' := by
  rw [sessionLog_snoc]
  have handoff := Handoff.run run
  cases a <;>
    simp only [Server.act, Server.threadRoutineClientConnection, require_eq_some] at taken <;>
    obtain ⟨guard, rfl⟩ := taken
  case take fd =>
    refine ledger.take guard.2 fun session logged same => ?_
    obtain ⟨stored, notCleaned⟩ := handoff.slot fd guard.2
    have cleaned : Cleaned actions session.fd :=
      (taken_cleaned run _ (taken_of_session logged)).resolve_right (by simp [guard.1])
    have again := stored_unique run _ _ (handoff.cleaned _ cleaned) stored same
    exact notCleaned (again ▸ cleaned)
  case received fd c k =>
    obtain ⟨here, file, -, -, enough⟩ := guard
    have slot := handoff.loaded (some fd) (by simp [here])
    obtain rfl := file_of_slot run slot file
    exact ledger.received (by simp [here]) slot enough
  case readEof fd c =>
    obtain ⟨here, file, unread, final⟩ := guard
    have slot := handoff.loaded (some fd) (by simp [here])
    obtain rfl := file_of_slot run slot file
    exact ledger.readEof (by simp [here]) slot unread final
  case wrote w f k =>
    obtain ⟨here, file, -, -⟩ := guard
    obtain rfl := (Descriptors.run run).stdin _ _ (write_stdin run w here) file
    exact ledger.wrote here
  all_goals
    refine ledger.frame (fun c => by simp [Connection.Extends.rfl]) ?_
    simp_all

theorem record_of_other {a : Action} (other : ∀ b, a ≠ .clientConnection b) :
    Session.record log a = log := by
  cases a with
  | clientConnection b => exact absurd rfl (other b)
  | _ => rfl

theorem Ledger.act {ok : State → Action → Prop} {a : Action}
    (ledger : Ledger (sessionLog actions) s) (run : system.RunWhere ok actions s)
    (taken : act s a = some s') : Ledger (sessionLog (actions ++ [a])) s' := by
  by_cases own : ∃ b, a = .clientConnection b
  · obtain ⟨b, rfl⟩ := own
    exact ledger.threadRoutineClientConnection run taken
  · have other := fun b equal => own ⟨b, equal⟩
    rw [sessionLog_snoc, record_of_other other]
    refine ledger.frame (act_extends taken other) ?_
    intro bytes pending
    have before : s.clientConnection.pending = some bytes := by
      rcases act_sameClientConnection taken other with same | same | ⟨-, same⟩ <;> simp_all
    exact ⟨before, act_servingSlot (.run run) taken
      (ClientConnectionPc.serving_of_pending before) other⟩

theorem Ledger.run {ok : State → Action → Prop} (run : system.RunWhere ok actions s) :
    Ledger (sessionLog actions) s := by
  refine run.invariant (I := fun actions s => Ledger (sessionLog actions) s) ?_ ?_
  · rintro _ ⟨config, rfl⟩
    exact .start config
  · rintro actions s a s' run ledger - step
    exact ledger.act run (system_step.mp step).2

/-- What the connection thread writes is added to the log and to the pipe. -/
theorem written_of_clientConnection {ok : State → Action → Prop} {a : ClientConnectionAction}
    (run : system.RunWhere ok actions s) (taken : act s (.clientConnection a) = some s')
    (before : s.kernel.mainPipe = ((sessionLog actions).reverse.map Session.written).flatten) :
    s'.kernel.mainPipe =
      ((sessionLog (actions ++ [.clientConnection a])).reverse.map Session.written).flatten := by
  have current := (Ledger.run run).current
  rw [sessionLog_snoc]
  cases a <;> simp only [Server.act, Server.threadRoutineClientConnection, require_eq_some] at taken <;>
    obtain ⟨guard, rfl⟩ := taken
  case take fd => simpa [Session.record] using before
  case wrote w f k =>
    obtain ⟨here, file, -, -⟩ := guard
    obtain rfl := (Descriptors.run run).stdin _ _ (write_stdin run w here) file
    obtain ⟨session, rest, log, -⟩ := current w.offered (by simp [here])
    rw [log] at before ⊢
    simp only [List.map_reverse] at before
    simp [Session.record, deliver, before]
  case readEof fd c =>
    obtain ⟨session, rest, log, -⟩ := current [] (by simp [guard])
    rw [log] at before ⊢
    simpa [Session.record] using before
  all_goals simpa [Session.record] using before

theorem mainPipe_written (run : system.RunWhere SparesStdin actions s) :
    s.kernel.mainPipe = ((sessions actions).map Session.written).flatten := by
  refine run.invariant (I := fun actions s =>
    s.kernel.mainPipe = ((sessions actions).map Session.written).flatten) ?_ ?_
  · rintro _ ⟨config, rfl⟩
    rfl
  · intro actions s a s' run before spares step
    have taken := (system_step.mp step).2
    by_cases own : ∃ b, a = .clientConnection b
    · obtain ⟨b, rfl⟩ := own
      exact written_of_clientConnection run taken before
    · have other := fun b equal => own ⟨b, equal⟩
      rw [act_mainPipe run spares taken other, before, sessions, sessions, sessionLog_snoc,
        record_of_other other]

theorem stdin_integrity (run : system.RunWhere SparesStdin actions s) :
    StdinIntegrity actions s := by
  have ledger := Ledger.run run
  refine ⟨mainPipe_written run, sessions_order, ?_, ?_, ?_⟩
  · rw [sessions, List.map_reverse, List.Perm.nodup_iff (List.reverse_perm _)]
    exact ledger.distinct
  · exact fun session served => ledger.isPrefix session (List.mem_reverse.mp served)
  · exact fun session served eof =>
      (ledger.whole session (List.mem_reverse.mp served) eof).2

/-- Two clients one after the other. The bytes of the first take two reads, and the first of them
two writes; the second client is not read to its end. -/
def twoSessions : List Action :=
  startUp ++ handOver ⟨4, 0⟩ ++
    [.clientConnection .relock, .clientConnection (.take ⟨4, 0⟩), .clientConnection .load,
     .client (.send 0 [1, 2, 3]), .clientConnection (.received ⟨4, 0⟩ 0 2),
     .clientConnection (.callWriteAll [1, 2] 5),
     .clientConnection (.wrote ⟨5, [1, 2], 0⟩ (.pipe .main .write) 1),
     .clientConnection (.wrote ⟨5, [1, 2], 1⟩ (.pipe .main .write) 1),
     .client (.shutdown 0), .clientConnection .load, .clientConnection (.received ⟨4, 0⟩ 0 1),
     .clientConnection (.callWriteAll [3] 5),
     .clientConnection (.wrote ⟨5, [3], 0⟩ (.pipe .main .write) 1),
     .clientConnection .load, .clientConnection (.readEof ⟨4, 0⟩ 0),
     .clientConnection (.cleanupLoad false), .clientConnection (.cleanupStore (some ⟨4, 0⟩) false),
     .clientConnection (.cleanupUnlock (some ⟨4, 0⟩) false),
     .clientConnection (.cleanupClose (some ⟨4, 0⟩) false)] ++
  handOver ⟨4, 1⟩ ++
    [.client (.send 1 [4, 5]), .clientConnection .lock, .clientConnection (.take ⟨4, 1⟩),
     .clientConnection .load, .clientConnection (.received ⟨4, 1⟩ 1 1),
     .clientConnection (.callWriteAll [4] 5),
     .clientConnection (.wrote ⟨5, [4], 0⟩ (.pipe .main .write) 1)]

theorem stdin_integrity_twoSessions :
    ∃ s, system.exec (.start .shell) twoSessions = some s ∧ s.kernel.mainPipe = [1, 2, 3, 4] ∧
      StdinIntegrity twoSessions s := by
  obtain ⟨s, path, bytes⟩ :
      ∃ s, system.exec (.start .shell) twoSessions = some s ∧ s.kernel.mainPipe = [1, 2, 3, 4] :=
    System.exists_exec (by decide +kernel)
  exact ⟨s, path, bytes,
    stdin_integrity (System.runWhere_of_exec ⟨_, rfl⟩ path (by decide +kernel))⟩

/-- The server is started with its standard descriptors closed, so that descriptor 2 becomes the
write end of the main pipe, and accept() fails. -/
def reportedToChild : List Action :=
  startUp ++ [.accept .acceptFailed, .accept (.perror false [69, 73, 79] 15)]

theorem stdin_not_integral :
    ¬ ∀ actions s, system.Run actions s → StdinIntegrity actions s := by
  intro claim
  obtain ⟨s, path, bytes⟩ :
      ∃ s, system.exec (.start ⟨true, false, .empty⟩) reportedToChild = some s ∧
        s.kernel.mainPipe = bytesOf "accept(2): EIO\n" :=
    System.exists_exec (by decide +kernel)
  have integrity := (claim _ s (System.run_of_exec ⟨_, rfl⟩ path)).concatenation
  rw [bytes] at integrity
  exact absurd integrity (by decide)

end Usockit.Server
