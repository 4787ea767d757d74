import Usockit.Client.Transfer
import Usockit.Network.Console
import Usockit.Server.Draining

namespace Usockit.Network
open Foundation
open Server (ConnId ClientFd Kernel)

variable {n n' : State} {actions : List Action} {c : ConnId} {fd : ClientFd}

/-! ## One party takes a step -/

/-- The server has only learned what its clients have done to their sockets. -/
structure Untouched (n n' : State) : Prop where
  server : ∃ k, n'.server = { n.server with kernel := k } ∧ Relayed n.server.kernel k
  serverEnded : n'.serverEnded = n.serverEnded
  clientEnded : n'.clientEnded = n.clientEnded

theorem Untouched.transmit {sent : Option Server.ClientAction}
    (taken : n.transmit sent = some n') : Untouched n n' := by
  rcases transmit_cases taken with ⟨b, k, -, -, client, rfl⟩ | ⟨-, rfl⟩
  · exact ⟨⟨k, rfl, .client client⟩, rfl, rfl⟩
  · exact ⟨⟨_, rfl, .refl⟩, rfl, rfl⟩

theorem exec_server {more : List Server.Action} {t : Server.State} (alive : n.serverEnded = false)
    (path : Server.system.exec n.server more = some t) (ofServer : ∀ a ∈ more, OfServer a) :
    system.exec n (more.map .server) = some { n with server := t } := by
  induction more generalizing n with
  | nil =>
      obtain rfl := Option.some.inj path
      rfl
  | cons a rest ih =>
      obtain ⟨s, taken, path⟩ := Option.bind_eq_some_iff.mp path
      have step : system.step n (.server a) = some { n with server := s } := by
        have up : n.Up := ⟨alive, (Server.system_step.mp taken).1⟩
        have taken : Server.step n.server a = some s := taken
        simp [system, Network.step, up, ofServer a (by simp), taken]
      refine System.exec_trans (System.exec_singleton step) ?_
      exact ih (n := { n with server := s }) alive path
        fun b member => ofServer b (by simp [member])

theorem meets_server {ok : Server.State → Server.Action → Prop} {more : List Server.Action}
    (meets : Server.system.Meets ok n.server more) :
    system.Meets (fun n a => ∃ b, a = .server b ∧ ok n.server b) n (more.map .server) := by
  induction more generalizing n with
  | nil => trivial
  | cons a rest ih =>
      refine ⟨⟨a, rfl, meets.1⟩, fun n' step => ?_⟩
      simp only [system, Network.step, Option.mem_def, Option.ite_none_right_eq_some,
        Option.map_eq_some_iff] at step
      obtain ⟨-, s, taken, rfl⟩ := step
      exact ih (meets.2 s taken)

/-! ## Room for what is written -/

/-- A write() never has to wait: the pipe or the socket is empty and takes the whole buffer. -/
def FindsRoom (n : State) : Action → Prop
  | .server a => Server.FindsRoom n.server a
  | .client c (.sendingThread (.wrote w _)) =>
      (n.connection c).unread = [] ∧ w.offered.length ≤ Client.sendingBufferSize
  | _ => True

theorem FindsRoom.spares {a : Action} (room : FindsRoom n a) :
    ServerMeets Server.SparesPeers n a := by
  cases a with
  | server a => exact Server.FindsRoom.spares room
  | _ => trivial

/-- A step of client `c` or of the connection thread, or the program reads. -/
def Action.OfSession (c : ConnId) : Action → Prop
  | .client d _ | .clientEnds d => d = c
  | .server a => a.OfSession
  | _ => False

structure SessionStep (c : ConnId) (n : State) (a : Action) : Prop where
  room : FindsRoom n a
  ofSession : a.OfSession c
  sameSession : ∀ b ∈ serverActions a, b.taken = none

theorem drains_server {ok : State → Action → Prop} (run : system.RunWhere ok actions n)
    (alive : n.serverEnded = false) (inSession : Server.InSession fd n.server) (c : ConnId) :
    ∃ more t, system.exec n more = some { n with server := t } ∧
      system.Meets (SessionStep c) n more ∧ more.flatMap (clientActions c) = [] ∧
      Server.InSession fd t ∧ Server.Drained fd t ∧ Server.Forwarded n.server t ∧
      Server.SameConnections n.server t := by
  obtain ⟨serverRun, there, -⟩ := exists_serverRun run
  obtain ⟨more, t, path, meets, inSession, drained, forwarded, connections⟩ :=
    inSession.drains there
  have only : ∀ a ∈ more, a.OfSession :=
    System.forall_of_meets path (System.meets_mono (fun _ _ met => met.2.1) meets)
  refine ⟨more.map .server, t, exec_server alive path fun a member => ?_,
    System.meets_mono ?_ (meets_server meets), ?_, inSession, drained, forwarded, connections⟩
  · cases a with
    | client b => exact absurd (only _ member) id
    | _ => trivial
  · rintro n _ ⟨b, rfl, room, ofSession, sameSession⟩
    exact ⟨room, ofSession, by simpa [serverActions] using sameSession⟩
  · rw [List.flatMap_map]
    exact List.flatMap_eq_nil_iff.mpr fun _ _ => rfl

/-! ## The client that has the console -/

/-- The connection thread is in its loop for client `c`, in which no call has failed, main has kept
its end of the main pipe, and the program its own. -/
structure BeingServed (actions : List Action) (n : State) (c : ConnId) (fd : ClientFd) : Prop where
  up : n.Up
  alive : n.clientEnded c = false
  running : (n.clients c).fate = .running
  works : ∀ a ∈ actions.flatMap (clientActions c), a.fails = false
  looping : n.server.clientConnection.pending ≠ none
  slot : n.server.clientReady.clientFd = some fd
  connection : fd.connection = c
  file : n.server.kernel.fds.fileAt fd.number = some (.connection c)
  stdin : n.server.main.hasOpen .main .write = true
  program : n.server.kernel.child.pc = .program
  reader : n.server.kernel.child.fds.Holds (.pipe .main .read)

theorem works_of_clientRun {clientRun : List Client.Action} {s : Client.State}
    (works : ∀ a ∈ actions.flatMap (clientActions c), a.fails = false)
    (there : Client.system.Run clientRun s)
    (same : clientRun.flatMap (own OfClient) = actions.flatMap (clientActions c)) :
    Client.system.RunWhere Client.Works clientRun s := by
  refine there.restrict fun a member => ?_
  by_cases ofClient : OfClient a
  · exact works a (same ▸ List.mem_flatMap.mpr ⟨a, member, by simp [own, ofClient]⟩)
  · cases a with
    | server b => rfl
    | _ => exact absurd trivial ofClient

theorem relayed_of_forwarded {s t : Server.State} (forwarded : Server.Forwarded s t)
    (connections : Server.SameConnections s t) : Relayed s.kernel t.kernel := by
  obtain ⟨pc, k, rfl, fds, child⟩ := forwarded
  refine ⟨fds, child, fun c => ?_, fun c => ?_⟩ <;>
    obtain ⟨readc, same⟩ := connections c <;> simp only at same <;> rw [same]

theorem inSession_of_relayed {s : Server.State} {k : Kernel} (inSession : Server.InSession fd s)
    (relayed : Relayed s.kernel k) : Server.InSession fd { s with kernel := k } := by
  obtain ⟨alive, looping, slot, file, stdin, program, reader⟩ := inSession
  constructor <;> simp only [relayed.fds, relayed.child] <;> assumption

namespace BeingServed

theorem inSession {ok : State → Action → Prop} (served : BeingServed actions n c fd)
    (run : system.RunWhere ok actions n) : Server.InSession fd n.server := by
  obtain ⟨serverRun, there, -⟩ := exists_serverRun run
  obtain ⟨bytes, pending⟩ := Option.ne_none_iff_exists'.mp served.looping
  have stored := Server.serving_stdin there (Server.ClientConnectionPc.serving_of_pending pending)
  have file := ((Server.Descriptors.run there).pipes _ .main .write).mpr ⟨served.stdin, rfl⟩
  obtain rfl := served.connection
  exact ⟨served.up.2, served.looping, served.slot, served.file, ⟨_, stored, file⟩, served.program,
    served.reader⟩

theorem of_inSession {t : Server.State} {more : List Action} (served : BeingServed actions n c fd)
    (inSession : Server.InSession fd t) (forwarded : Server.Forwarded n.server t)
    (silent : more.flatMap (clientActions c) = []) :
    BeingServed (actions ++ more) { n with server := t } c fd := by
  obtain ⟨up, alive, running, works, -, -, rfl, -, stdin, -, -⟩ := served
  refine ⟨⟨up.1, inSession.alive⟩, alive, running, ?_, inSession.looping, inSession.slot, rfl,
    inSession.file, ?_, inSession.program, inSession.reader⟩
  · simpa [silent] using works
  · obtain ⟨pc, k, rfl, -⟩ := forwarded
    exact stdin

/-- A client that is being served gets nothing from the server. -/
theorem silent (served : BeingServed actions n c fd)
    (run : system.RunWhere (ServerMeets Server.SparesPeers) actions n) :
    (n.client c).socket.fromServer.bytes = [] := by
  obtain ⟨serverRun, there, -⟩ := exists_serverRunWhere Server.SparesPeers.client run
  rw [client_refresh served.running]
  by_contra received
  obtain ⟨d, same, refused⟩ := ((Server.RejectsOnly.run there).received c).2 received
  have stored := ((Server.Handoff.run there).slot fd served.slot).1
  exact ((Server.Refusal.run there).refused d refused).2 fd stored
    (served.connection.trans same.symm)

theorem isOpen {ok : State → Action → Prop} (served : BeingServed actions n c fd)
    (run : system.RunWhere ok actions n) : (n.client c).socket.serverClosed = false := by
  have unclosed : ¬ ClosedByServer n.server.kernel c := fun closed =>
    closed.2 (Server.Kernel.open_of_fileAt served.file)
  rw [client_refresh served.running]
  simp only [refresh, unclosed, decide_false, Bool.or_false, ← Bool.not_eq_true]
  exact fun closed => unclosed ((Coupled.run run).closed served.up c closed)

theorem of_client {ok : State → Action → Prop} {a : Client.Action} {s : Client.State}
    (served : BeingServed actions n c fd) (run : system.RunWhere ok actions n)
    (untouched : Untouched n n') (works : a.fails = false) (running : s.fate = .running) :
    BeingServed (actions ++ [.client c a]) (n'.setClient c s) c fd := by
  obtain ⟨⟨k, server, relayed⟩, serverEnded, clientEnded⟩ := untouched
  have inSession := inSession_of_relayed (served.inSession run) relayed
  obtain ⟨up, alive, -, before, -, -, rfl, -, stdin, -, -⟩ := served
  refine ⟨⟨serverEnded.trans up.1, ?_⟩, (congrFun clientEnded _).trans alive, ?_, ?_, ?_, ?_, rfl,
    ?_, ?_, ?_, ?_⟩
  · exact (congrArg Server.State.killed server).trans inSession.alive
  · simpa [State.setClient] using running
  · simpa [clientActions, or_imp, forall_and, works] using before
  all_goals simp only [State.setClient, server]
  · exact inSession.looping
  · exact inSession.slot
  · exact inSession.file
  · exact stdin
  · exact inSession.program
  · exact inSession.reader

/-- The server has caught up with the client, which takes its next step. -/
theorem transfers {ok : State → Action → Prop} (served : BeingServed actions n c fd)
    (run : system.RunWhere ok actions n) (caughtUp : (n.connection c).unread = [])
    (unreturned : ∀ ret, (n.client c).main ≠ .returned ret) :
    ∃ a n', system.step n a = some n' ∧ SessionStep c n a ∧
      BeingServed (actions ++ [a]) n' c fd ∧ Server.Forwarded n.server n'.server ∧
      (n'.client c).potential < (n.client c).potential := by
  obtain ⟨clientRun, client, shown⟩ := exists_clientRun run c
  have running : (n.client c).fate = .running := by
    rw [client_refresh served.running]
    exact served.running
  obtain ⟨a, s, transfers⟩ := Client.exists_transfers
    (works_of_clientRun served.works client shown) running (served.isOpen run) unreturned
  have ofClient : OfClient a := by
    cases a with
    | server b => exact absurd rfl transfers.counts
    | _ => trivial
  obtain ⟨n', sent, step, here⟩ := exists_clientStep run.run served.alive ofClient
    (fun refuses => refuses.2 served.up) transfers.step
  have untouched := Untouched.transmit sent
  obtain ⟨k, server, relayed⟩ := untouched.server
  refine ⟨_, _, step, ⟨?_, rfl, by simp [serverActions]⟩,
    served.of_client run untouched transfers.works transfers.running,
    ⟨_, k, server, relayed.fds, relayed.child⟩, here.symm ▸ transfers.closer⟩
  unfold FindsRoom
  split
  · trivial
  · next equal =>
      obtain ⟨rfl, rfl⟩ := Action.client.inj equal
      have taken := (Client.system_step.mp transfers.step).2
      simp only [Client.act, Client.sendingThreadRoutine, require_eq_some] at taken
      exact ⟨caughtUp, Client.sending_fits client _ taken.1.1⟩
  · trivial

/-- The client sends its input and returns, while the server reads and forwards what it sends. -/
theorem sends (served : BeingServed actions n c fd)
    (run : system.RunWhere (ServerMeets Server.SparesPeers) actions n) :
    ∃ more n', system.exec n more = some n' ∧ system.Meets (SessionStep c) n more ∧
      BeingServed (actions ++ more) n' c fd ∧ (n'.client c).main = .returned .successEof ∧
      Server.Forwarded n.server n'.server := by
  have reached := System.exists_path_of_rank (M := system) (SessionStep c)
    (I := fun actions m => system.RunWhere (ServerMeets Server.SparesPeers) actions m ∧
      BeingServed actions m c fd ∧ Server.Forwarded n.server m.server)
    (g := fun m => ∃ ret, (m.client c).main = .returned ret)
    (fun m => (m.client c).potential) ?_ ⟨run, served, ⟨_, _, rfl, rfl, rfl⟩⟩
  · obtain ⟨more, n', path, meets, ⟨run, served, forwarded⟩, ret, returned⟩ := reached
    obtain ⟨clientRun, client, shown⟩ := exists_clientRun run c
    obtain rfl := Client.successEof_of_returned (works_of_clientRun served.works client shown)
      (served.silent run) returned
    exact ⟨more, n', path, meets, served, returned, forwarded⟩
  · rintro actions m ⟨run, served, forwarded⟩ unreturned
    obtain ⟨drain, t, path, meets, silent, inSession, drained, drains, connections⟩ :=
      drains_server run served.up.1 (served.inSession run) c
    have served₁ := served.of_inSession inSession drains silent
    have run₁ := run.exec path (System.meets_mono (fun _ _ met => met.room.spares) meets)
    have same : ({ m with server := t } : State).client c = m.client c :=
      client_congr rfl (relayed_of_forwarded drains connections)
    obtain ⟨a, m', step, met, served₂, sends, closer⟩ :=
      served₁.transfers run₁ (served.connection ▸ drained.connection) fun ret returned =>
        unreturned ⟨ret, same ▸ returned⟩
    refine ⟨drain ++ [a], m', System.exec_trans path (System.exec_singleton step),
      System.meets_append path meets (System.meets_singleton met), ⟨?_, ?_, ?_⟩, same ▸ closer⟩
    · rw [← List.append_assoc]
      exact .snoc run₁ met.room.spares step
    · rwa [← List.append_assoc]
    · exact (forwarded.trans drains).trans sends

end BeingServed

/-- When the process of a client ends, the server sees the end of its stream. -/
theorem exists_clientEnds (run : system.Run actions n) (up : n.Up) (alive : n.clientEnded c = false)
    (accepted : (n.connection c).phase = .accepted) :
    ∃ n', system.step n (.clientEnds c) = some n' ∧ n'.clients = n.clients ∧
      (n'.connection c).shutdown = true ∧ n'.serverEnded = n.serverEnded ∧
      ∃ k, n'.server = { n.server with kernel := k } ∧ Relayed n.server.kernel k := by
  have connected := ((Coupled.run run).connected c).mpr (by simp [accepted])
  obtain ⟨k, client⟩ : ∃ k, Server.client n.server.kernel (.close c) = some k :=
    ⟨_, require_eq_some.mpr ⟨by simp [accepted], rfl⟩⟩
  have closes : Server.step n.server (.client (.close c)) = some { n.server with kernel := k } :=
    Server.system_step.mpr ⟨up.2, by simp [Server.act, client]⟩
  refine ⟨{ n with
    server := { n.server with kernel := k }
    clientEnded := Function.update n.clientEnded c true }, ?_, rfl, ?_, rfl, k, rfl, .client client⟩
  · simp [system, Network.step, alive, closeAction, connected, State.transmit, up, closes]
  · obtain ⟨-, rfl⟩ := require_eq_some.mp client
    simp [State.connection]

theorem BeingServed.delivers (served : BeingServed actions n c fd)
    (run : system.RunWhere (ServerMeets Server.SparesPeers) actions n) :
    ∃ more n', system.exec n more = some n' ∧ system.Meets (SessionStep c) n more ∧
      .server (.clientConnection (.readEof fd c)) ∈ more ∧
      (n'.clients c).main = .returned .successEof ∧ n'.serverEnded = false ∧
      n'.server.clientConnection = .cleanupLoad false ∧ n'.server.kernel.mainUnread = [] ∧
      Server.Forwarded n.server n'.server := by
  obtain ⟨first, n₁, path₁, meets₁, served₁, returned, forwarded₁⟩ := served.sends run
  have run₁ := run.exec path₁ (System.meets_mono (fun _ _ met => met.room.spares) meets₁)
  -- The client's process ends,
  have accepted : (n₁.connection c).phase = .accepted := by
    obtain ⟨serverRun, there, -⟩ := exists_serverRun run₁
    exact (Server.Accepted.run there).opened c (Server.Kernel.open_of_fileAt served₁.file)
  obtain ⟨n₂, ends, clients₂, shutdown, serverEnded₂, k, server₂, relayed⟩ :=
    exists_clientEnds run₁.run served₁.up served₁.alive accepted
  have met₂ : SessionStep c n₁ (.clientEnds c) := ⟨trivial, rfl, by simp [serverActions]⟩
  have run₂ : system.RunWhere (ServerMeets Server.SparesPeers) _ n₂ :=
    .snoc run₁ met₂.room.spares ends
  have inSession := inSession_of_relayed (served₁.inSession run₁) relayed
  -- and the server reads and forwards what is left.
  obtain ⟨last, t, path₃, meets₃, -, inSession, drained, forwarded₃, connections⟩ :=
    drains_server run₂ (serverEnded₂.trans served₁.up.1) (server₂ ▸ inSession) c
  obtain rfl := served.connection
  have reads : system.step { n₂ with server := t } (.server (.clientConnection
      (.readEof fd fd.connection))) =
      some { n₂ with server := { t with clientConnection := .cleanupLoad false } } := by
    obtain ⟨readc, same⟩ := connections fd.connection
    have step : Server.step t _ = _ :=
      drained.step_readEof inSession (by rw [same]; exact shutdown)
    have up : n₂.serverEnded = false := serverEnded₂.trans served₁.up.1
    simpa [system, Network.step, State.Up, up, inSession.alive, OfServer] using step
  have path₂ := System.exec_trans path₁ (System.exec_singleton ends)
  have meets₂ := System.meets_append path₁ meets₁ (System.meets_singleton met₂)
  have path := System.exec_trans path₂ path₃
  refine ⟨_, _, System.exec_trans path (System.exec_singleton reads),
    System.meets_append path (System.meets_append path₂ meets₂ meets₃)
      (System.meets_singleton ⟨trivial, trivial, by simp [serverActions, Server.Action.taken]⟩),
    by simp, ?_, serverEnded₂.trans served₁.up.1, rfl, drained.mainPipe, ?_⟩
  · change (n₂.clients _).main = _
    rw [clients₂, ← main_client, returned]
  · have learned : Server.Forwarded n₁.server n₂.server :=
      ⟨_, k, server₂, relayed.fds, relayed.child⟩
    obtain ⟨pc, k', rfl, fds, child⟩ := (forwarded₁.trans learned).trans forwarded₃
    exact ⟨_, k', rfl, fds, child⟩

/-- A client that is being served can go on with the connection thread and the program to where its
whole standard input is in the program's, and no write() has to wait for room. -/
theorem network_delivers (run : system.RunWhere (ServerMeets Server.SparesPeers) actions n)
    (served : BeingServed actions n c fd) :
    ∃ more n' t, system.exec n more = some n' ∧ system.Meets FindsRoom n more ∧
      (∀ a ∈ more, a.OfSession c) ∧ (n'.clients c).main = .returned .successEof ∧
      OneConsole (actions ++ more) n' t ∧ c ∈ t.served ∧
      t.portion c = (n'.clients c).stdin.bytes ∧ n'.server.kernel.mainUnread = [] := by
  obtain ⟨more, n', path, meets, read, returned, -, -, drained, -⟩ := served.delivers run
  have run' := run.exec path (System.meets_mono (fun _ _ met => met.room.spares) meets)
  obtain ⟨serverRun, there, same⟩ := exists_serverRunWhere Server.SparesPeers.client run'
  have console := oneConsole run' there same
  obtain ⟨listed, whole⟩ := console.served c fd (by simp [read]) returned
  exact ⟨more, n', _, path, System.meets_mono (fun _ _ met => met.room) meets,
    System.forall_of_meets path (System.meets_mono (fun _ _ met => met.ofSession) meets), returned,
    console, listed, whole, drained⟩

def served : List Action := startUp ++ connects 0 ++ handOver ⟨4, 0⟩

theorem network_delivers_served :
    ∃ n, system.exec (.start .shell fun _ => [104, 105]) served = some n ∧
      n.server.kernel.mainPipe = [] ∧ ∃ more n', system.exec n more = some n' ∧
        (n'.clients 0).main = .returned .successEof := by
  obtain ⟨n, path, pipe, up, ⟨alive, running⟩, looping, slot, file, stdin, program, reader⟩ :
      ∃ n, system.exec (.start .shell fun _ => [104, 105]) served = some n ∧
        n.server.kernel.mainPipe = [] ∧ n.Up ∧
        (n.clientEnded 0 = false ∧ (n.clients 0).fate = .running) ∧
        n.server.clientConnection.pending ≠ none ∧
        n.server.clientReady.clientFd = some ⟨4, 0⟩ ∧
        n.server.kernel.fds.fileAt 4 = some (.connection 0) ∧
        n.server.main.hasOpen .main .write = true ∧ n.server.kernel.child.pc = .program ∧
        n.server.kernel.child.fds.Holds (.pipe .main .read) :=
    System.exists_exec (by decide +kernel)
  have being : BeingServed served n 0 ⟨4, 0⟩ :=
    ⟨up, alive, running, by decide, looping, slot, rfl, file, stdin, program, reader⟩
  obtain ⟨more, n', t, path', -, -, returned, -⟩ :=
    network_delivers (System.runWhere_of_exec ⟨_, _, rfl⟩ path (by decide +kernel)) being
  exact ⟨n, path, pipe, more, n', path', returned⟩

end Usockit.Network
