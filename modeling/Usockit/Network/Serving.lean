import Usockit.Network.Delivery
import Usockit.Server.Turn

namespace Usockit.Network
open Foundation
open Server (ConnId ClientFd Kernel)

variable {n n' : State} {actions : List Action} {c d : ConnId}

/-! ## The clients that wait -/

/-- Client `c` has connected and waits for the server, and no call of it has failed. -/
@[mk_iff]
structure Waiting (actions : List Action) (n : State) (c : ConnId) : Prop where
  waits : n.server.Waits c
  alive : n.clientEnded c = false
  running : (n.clients c).fate = .running
  works : ∀ a ∈ actions.flatMap (clientActions c), a.fails = false

instance (actions : List Action) (n : State) (c : ConnId) : Decidable (Waiting actions n c) :=
  decidable_of_iff _ (waiting_iff actions n c).symm

/-- A step of client `c` or of the threads that serve it, or the program reads. -/
def Action.OfTurn (c : ConnId) : Action → Prop
  | .client d _ | .clientEnds d | .server (.accept (.accepted d)) => d = c
  | .server (.accept _) | .server (.clientConnection _) => True
  | .server (.child (.programReads _ _)) => True
  | _ => False

/-- Nothing has happened to client `d`. -/
structure Aside (d : ConnId) (n n' : State) : Prop where
  waits : n.server.Waits d → n'.server.Waits d
  client : n'.clients d = n.clients d
  clientEnded : n'.clientEnded d = n.clientEnded d

theorem Aside.refl : Aside d n n := ⟨id, rfl, rfl⟩

theorem Aside.trans {n'' : State} (first : Aside d n n') (second : Aside d n' n'') :
    Aside d n n'' :=
  ⟨second.waits ∘ first.waits, second.client.trans first.client,
    second.clientEnded.trans first.clientEnded⟩

theorem Aside.transmit {sent : Option Server.ClientAction} (taken : n.transmit sent = some n')
    (others : ∀ a ∈ sent, d ≠ a.target) : Aside d n n' := by
  obtain ⟨clients, clientEnded⟩ := clients_transmit taken
  have same : n'.connection d = n.connection d := transmit_others taken others
  refine ⟨fun waits => ⟨?_, ?_⟩, by rw [clients], by rw [clientEnded]⟩
  · exact (congrArg Server.Connection.phase same).trans waits.pending
  · exact (congrArg Server.Connection.closed same).trans waits.isOpen

theorem Aside.server {s : Server.State} {a : Server.Action}
    (taken : Server.step n.server a = some s) (ofServer : OfServer a)
    (other : a ≠ .accept (.accepted d)) : Aside d n { n with server := s } := by
  have handled := Server.act_handled (Server.system_step.mp taken).2
    (fun b same => by subst same; exact ofServer) d
  refine ⟨fun waits => ⟨?_, handled.closed.trans waits.isOpen⟩, rfl, rfl⟩
  rcases handled.phase with same | ⟨⟨-, accepts⟩, -⟩
  · exact same.trans waits.pending
  · exact absurd accepts other

theorem aside_of_turn {a : Action} (taken : system.step n a = some n') (turn : a.OfTurn c)
    (other : d ≠ c) : Aside d n n' := by
  cases a with
  | server a =>
      simp only [system, step, Option.ite_none_right_eq_some, Option.map_eq_some_iff] at taken
      obtain ⟨⟨-, ofServer⟩, server, taken, rfl⟩ := taken
      refine .server taken ofServer ?_
      rintro rfl
      exact other turn
  | client e a =>
      obtain rfl : e = c := turn
      simp only [system, step, Option.ite_none_right_eq_some, Option.bind_eq_some_iff,
        Option.map_eq_some_iff] at taken
      obtain ⟨-, s, -, n', sent, rfl⟩ := taken
      have aside : Aside d n n' :=
        .transmit sent fun b action => (socketAction_some action).1 ▸ other
      exact ⟨aside.waits, by simp [State.setClient, other, aside.client], aside.clientEnded⟩
  | clientEnds e =>
      obtain rfl : e = c := turn
      simp only [system, step, Option.ite_none_right_eq_some, Option.map_eq_some_iff] at taken
      obtain ⟨-, n', sent, rfl⟩ := taken
      have aside : Aside d n n' := .transmit sent fun b action => by
        rw [(closeAction_some action).2]
        exact other
      exact ⟨aside.waits, aside.client, by simp [other, aside.clientEnded]⟩
  | serverEnds | hangUp => exact absurd turn id

theorem aside_of_exec {more : List Action} (path : system.exec n more = some n')
    (turns : ∀ a ∈ more, ∃ c ≠ d, a.OfTurn c) : Aside d n n' := by
  induction more generalizing n with
  | nil =>
      obtain rfl := Option.some.inj path
      exact .refl
  | cons a rest ih =>
      obtain ⟨n₁, taken, path⟩ := Option.bind_eq_some_iff.mp path
      obtain ⟨c, other, turn⟩ := turns a (by simp)
      exact (aside_of_turn taken turn other.symm).trans
        (ih path fun b member => turns b (by simp [member]))

theorem clientActions_of_turn {a : Action} (turn : a.OfTurn c) (other : d ≠ c) :
    clientActions d a = [] := by
  cases a with
  | client e b =>
      obtain rfl : e = c := turn
      simp [clientActions, other.symm]
  | _ => rfl

theorem Waiting.goesOn {more : List Action} (waiting : Waiting actions n d)
    (path : system.exec n more = some n') (turns : ∀ a ∈ more, ∃ c ≠ d, a.OfTurn c) :
    Waiting (actions ++ more) n' d := by
  obtain ⟨waits, client, clientEnded⟩ := aside_of_exec path turns
  refine ⟨waits waiting.waits, clientEnded ▸ waiting.alive, client ▸ waiting.running, ?_⟩
  have silent : more.flatMap (clientActions d) = [] := List.flatMap_eq_nil_iff.mpr fun a member =>
    (turns a member).elim fun _ turn => clientActions_of_turn turn.2 turn.1.symm
  rw [List.flatMap_append, silent, List.append_nil]
  exact waiting.works

theorem exec_stdin {more : List Action} (path : system.exec n more = some n') (c : ConnId) :
    (n'.clients c).stdin.bytes = (n.clients c).stdin.bytes := by
  refine System.exec_keeps (I := fun n' => (n'.clients c).stdin.bytes = (n.clients c).stdin.bytes)
    ?_ rfl path
  intro n₁ a n₂ same taken
  rw [← same]
  cases a with
  | server a =>
      simp only [system, step, Option.ite_none_right_eq_some, Option.map_eq_some_iff] at taken
      obtain ⟨-, server, -, rfl⟩ := taken
      rfl
  | client d a =>
      simp only [system, step, Option.ite_none_right_eq_some, Option.bind_eq_some_iff,
        Option.map_eq_some_iff] at taken
      obtain ⟨-, s, taken, n₃, sent, rfl⟩ := taken
      have own := Client.act_stdinBytes (Client.system_step.mp taken).2
      by_cases same : c = d
      · subst same
        simpa [State.setClient, stdin_client] using own
      · simp [State.setClient, same, (clients_transmit sent).1]
  | clientEnds d =>
      simp only [system, step, Option.ite_none_right_eq_some, Option.map_eq_some_iff] at taken
      obtain ⟨-, n₃, sent, rfl⟩ := taken
      simp [(clients_transmit sent).1]
  | serverEnds =>
      simp only [system, step, require_eq_some] at taken
      obtain ⟨-, rfl⟩ := taken
      rfl
  | hangUp d =>
      simp only [system, step, require_eq_some] at taken
      obtain ⟨-, rfl⟩ := taken
      by_cases same : c = d
      · subst same
        simp [State.hangUp, State.setClient]
      · simp [State.hangUp, State.setClient, same]

/-! ## The bytes of a session -/

theorem record_own (log : List Server.Session) (a : Server.Action) :
    (own OfServer a).foldl Server.Session.record log = Server.Session.record log a := by
  cases a with
  | client b => rfl
  | _ => rfl

theorem sessionLog_of_serverRun {serverRun : List Server.Action}
    (same : serverRun.flatMap (own OfServer) = actions.flatMap serverActions) :
    Server.sessionLog serverRun = Server.sessionLog (actions.flatMap serverActions) := by
  rw [← same]
  simp only [Server.sessionLog, List.foldl_flatMap, record_own]

theorem sessionLog_of_turn {session : List Action} (actions : List Action) (fd : ClientFd)
    (same : ∀ a ∈ session.flatMap serverActions, a.taken = none) :
    ∃ last : Server.Session, last.fd = fd ∧
      Server.sessionLog ((actions ++ ((Server.takesOver fd).map Action.server ++
        session)).flatMap serverActions) =
          last :: Server.sessionLog (actions.flatMap serverActions) := by
  obtain ⟨last, current, latest⟩ := Server.Session.foldl_record
    (Server.sessionLog (actions.flatMap serverActions)) same ⟨fd, [], false⟩
  have opened : ((Server.takesOver fd).map Action.server).flatMap serverActions =
      Server.takesOver fd := rfl
  refine ⟨last, current, ?_⟩
  rw [List.flatMap_append, List.flatMap_append, opened, Server.sessionLog, List.foldl_append,
    List.foldl_append, Server.foldl_record_takesOver]
  exact latest

/-- The bytes of the latest session are the last in the program's standard input. -/
theorem mainPipe_of_session {fd : ClientFd} {session : Server.Session} {log : List Server.Session}
    (run : system.RunWhere (ServerMeets Server.SparesPeers) actions n)
    (latest : Server.sessionLog (actions.flatMap serverActions) = session :: log)
    (current : session.fd.connection = c)
    (read : .server (.clientConnection (.readEof fd c)) ∈ actions)
    (returned : (n.clients c).main = .returned .successEof) :
    n.server.kernel.mainPipe =
      (log.reverse.map Server.Session.written).flatten ++ (n.clients c).stdin.bytes := by
  obtain ⟨serverRun, there, same⟩ := exists_serverRunWhere Server.SparesPeers.client run
  have ledger := Server.Ledger.run there
  have logged := sessionLog_of_serverRun same
  rw [latest] at logged
  obtain ⟨ended, listed, connection, eof⟩ :=
    Server.session_of_readEof there.run fd c (mem_serverRun same read)
  rw [logged] at ledger listed
  obtain rfl : ended = session := List.inj_on_of_nodup_map ledger.distinct listed (by simp)
    (connection.trans current.symm)
  obtain ⟨shutdown, whole⟩ := ledger.whole ended listed eof
  obtain ⟨clientRun, client, -⟩ := exists_clientRun run c
  have sent := Client.sent_of_successEof client (main_client ▸ returned)
  rw [stdin_client, toServer_client, ← (Finished.run run.run).sent _ (connection ▸ shutdown)] at sent
  rw [Server.mainPipe_written (there.mono fun _ _ => Server.SparesPeers.stdin), Server.sessions,
    logged, ← sent, ← connection]
  simp [whole]

/-! ## One turn after the other -/

/-- Client `c` has had the program's standard input for itself, and the server waits again. -/
structure Turn (c : ConnId) (n : State) (more : List Action) (n' : State) : Prop where
  path : system.exec n more = some n'
  room : system.Meets FindsRoom n more
  ofTurn : ∀ a ∈ more, a.OfTurn c
  up : n'.serverEnded = false
  idle : n'.server.Idle
  returned : (n'.clients c).main = .returned .successEof
  mainPipe : n'.server.kernel.mainPipe = n.server.kernel.mainPipe ++ (n.clients c).stdin.bytes

theorem ofTurn_takesOver {fd : ClientFd} :
    ∀ a ∈ Server.takesOver fd, (Action.server a).OfTurn fd.connection := by
  simp [Server.takesOver, Server.handOver, Action.OfTurn]

theorem ofTurn_leaves {fd : ClientFd} :
    ∀ a ∈ Server.leaves fd, (Action.server a).OfTurn fd.connection := by
  simp [Server.leaves, Action.OfTurn]

theorem Action.OfSession.ofTurn {a : Action} (session : a.OfSession c) : a.OfTurn c := by
  cases a with
  | server a =>
      cases a with
      | clientConnection b => trivial
      | child b =>
          cases b with
          | programReads => trivial
          | _ => exact absurd session id
      | _ => exact absurd session id
  | client d b | clientEnds d => exact session
  | serverEnds | hangUp => exact absurd session id

/-- The connection thread is about to read from `fd` for the first time. -/
def State.handedOver (n : State) (fd : ClientFd) : State :=
  { n with
    server := { n.server with
      clientReady := ⟨some .clientConnection, some fd⟩
      clientConnection := .read (some fd)
      kernel := n.server.kernel.accept fd.connection } }

theorem Waiting.beingServed {fd : ClientFd} (waiting : Waiting actions n fd.connection)
    (up : n.serverEnded = false) (idle : n.server.Idle)
    (number : fd.number = n.server.kernel.fds.lowestFree) :
    BeingServed (actions ++ (Server.takesOver fd).map .server) (n.handedOver fd)
      fd.connection fd := by
  have silent : ((Server.takesOver fd).map Action.server).flatMap
      (clientActions fd.connection) = [] := rfl
  refine ⟨⟨up, idle.alive⟩, waiting.alive, waiting.running, ?_, by simp [State.handedOver], rfl,
    rfl, ?_, idle.stdin, idle.program, idle.reader⟩
  · rw [List.flatMap_append, silent, List.append_nil]
    exact waiting.works
  · simp [State.handedOver, number]

theorem findsRoom_takesOver (fd : ClientFd) :
    ∀ a ∈ (Server.takesOver fd).map Action.server, ∀ n, FindsRoom n a := by
  simp [Server.takesOver, Server.handOver, FindsRoom, Server.FindsRoom]

theorem findsRoom_leaves (fd : ClientFd) :
    ∀ a ∈ (Server.leaves fd).map Action.server, ∀ n, FindsRoom n a := by
  simp [Server.leaves, FindsRoom, Server.FindsRoom]

theorem Waiting.exists_turn (waiting : Waiting actions n c)
    (run : system.RunWhere (ServerMeets Server.SparesPeers) actions n)
    (up : n.serverEnded = false) (idle : n.server.Idle) : ∃ more n', Turn c n more n' := by
  let fd : ClientFd := ⟨n.server.kernel.fds.lowestFree, c⟩
  have path₁ : system.exec n ((Server.takesOver fd).map .server) = some (n.handedOver fd) :=
    exec_server up (idle.exec_takesOver waiting.waits.pending) (by
      simp [Server.takesOver, Server.handOver, OfServer])
  have room₁ : system.Meets FindsRoom n ((Server.takesOver fd).map .server) :=
    System.meets_of_forall (findsRoom_takesOver fd)
  have served : BeingServed _ (n.handedOver fd) c fd := waiting.beingServed up idle rfl
  obtain ⟨session, n₂, path₂, meets, read, returned, up₂, there, -, forwarded⟩ :=
    served.delivers (run.exec path₁ (System.meets_mono (fun _ _ => FindsRoom.spares) room₁))
  have path := System.exec_trans path₁ path₂
  have room := System.meets_append path₁ room₁ (System.meets_mono (fun _ _ met => met.room) meets)
  have only : ∀ a ∈ session, a.OfSession c :=
    System.forall_of_meets path₂ (System.meets_mono (fun _ _ met => met.ofSession) meets)
  have same : ∀ a ∈ session.flatMap serverActions, a.taken = none := by
    intro b member
    obtain ⟨a, listed, shown⟩ := List.mem_flatMap.mp member
    have sameSession : ∀ a ∈ session, ∀ b ∈ serverActions a, b.taken = none :=
      System.forall_of_meets path₂ (System.meets_mono (fun _ _ met => met.sameSession) meets)
    exact sameSession a listed b shown
  have run₂ := run.exec path (System.meets_mono (fun _ _ => FindsRoom.spares) room)
  have mainPipe : n₂.server.kernel.mainPipe =
      n.server.kernel.mainPipe ++ (n.clients c).stdin.bytes := by
    obtain ⟨serverRun, before, projected⟩ := exists_serverRunWhere Server.SparesPeers.client run
    obtain ⟨last, current, logged⟩ := sessionLog_of_turn actions fd same
    have ended : Action.server (.clientConnection (.readEof fd c)) ∈
        actions ++ ((Server.takesOver fd).map .server ++ session) := by simp [read]
    rw [mainPipe_of_session run₂ logged (congrArg ClientFd.connection current) ended returned,
      exec_stdin path,
      Server.mainPipe_written (before.mono fun _ _ => Server.SparesPeers.stdin), Server.sessions,
      sessionLog_of_serverRun projected]
  have idle₃ := idle.leaves fd forwarded
  obtain ⟨pc, k, server, fds, child⟩ := forwarded
  have leaves := Server.exec_leaves fd (by rw [server]; exact idle.alive) there
    (by rw [server]; rfl)
  have path₃ := exec_server up₂ leaves (by simp [Server.leaves, OfServer])
  refine ⟨_, _, System.exec_trans path path₃,
    System.meets_append path room (System.meets_of_forall (findsRoom_leaves fd)), ?_, up₂, idle₃,
    returned, mainPipe⟩
  intro a member
  rcases (by simpa [or_assoc] using member : (∃ b ∈ Server.takesOver fd, .server b = a) ∨
    a ∈ session ∨ ∃ b ∈ Server.leaves fd, .server b = a) with ⟨b, listed, rfl⟩ | during |
    ⟨b, listed, rfl⟩
  · exact ofTurn_takesOver b listed
  · exact (only a during).ofTurn
  · exact ofTurn_leaves b listed

/-- Clients 0 and 1 have connected, and nobody has been accepted. -/
def bothWait : List Action := startUp ++ connects 0 ++ connects 1

end Usockit.Network
