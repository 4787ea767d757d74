import Usockit.Network.Projection
import Usockit.Client.Ending

namespace Usockit.Network
open Foundation
open Server (ConnId Kernel)

variable {n n' : State} {actions : List Action} {c d : ConnId}

/-! ## A client that has closed its connection -/

theorem main_client : (n.client c).main = (n.clients c).main := by
  unfold State.client
  split <;> rfl

theorem Coupled.received_client (coupled : Coupled n) (c : ConnId) :
    (n.client c).socket.fromServer.bytes <+: (n.connection c).received := by
  unfold State.client
  split
  · exact List.prefix_rfl
  · exact coupled.received c

theorem stdin_client : (n.client c).stdin = (n.clients c).stdin := by
  unfold State.client
  split <;> rfl

theorem act_leaving {s s' : Client.State} {a : Client.Action} (taken : Client.act s a = some s')
    (gone : ∀ t ≠ .main, ¬ s.Alive t) (leaving : s.main.leaving = true) :
    s'.main.leaving = true ∧ a.written = [] := by
  cases a with
  | main a =>
      refine ⟨?_, rfl⟩
      cases a <;> simp only [Client.act, Client.usockitClient, require_eq_some,
        Option.ite_none_right_eq_some, Option.map_eq_some_iff] at taken
      case exit op rest copied => simp [taken.1, Client.MainPc.leaving] at leaving
      case closeSocket ret =>
        obtain ⟨-, rfl⟩ := taken
        rfl
      all_goals
        obtain ⟨here, -⟩ := taken
        simp [here, Client.MainPc.leaving] at leaving
  | receivingThread a =>
      exact absurd (Client.alive_of_receivingThread taken) (gone .receiving (by simp))
  | sendingThread a =>
      exact absurd (Client.alive_of_sendingThread taken) (gone .sending (by simp))
  | server a =>
      simp only [Client.act, Option.map_eq_some_iff] at taken
      obtain ⟨socket, -, rfl⟩ := taken
      exact ⟨leaving, rfl⟩

/-- The server has seen everything that a client has sent before it closed the connection. -/
structure Finished (n : State) : Prop where
  done : ∀ c, (n.connection c).shutdown = true →
    n.clientEnded c = true ∨ (n.clients c).main.leaving = true
  sent : ∀ c, (n.connection c).shutdown = true →
    (n.connection c).sent = (n.clients c).socket.toServer

theorem shutdown_client {b : Server.ClientAction} {k k' : Kernel}
    (taken : Server.client k b = some k') (after : (k'.connections b.target).shutdown = true) :
    (k.connections b.target).shutdown = true ∨ b = .shutdown b.target ∨ b = .close b.target := by
  cases b <;> simp only [Server.client, require_eq_some] at taken <;> obtain ⟨-, rfl⟩ := taken <;>
    simp_all [Server.ClientAction.target]

theorem closes_of_socketAction {a : Client.Action} {s : Client.State} {b : Server.ClientAction}
    (sent : socketAction c s a = some b) (ends : b = .shutdown d ∨ b = .close d) :
    ∃ ret, a = .main (.closeSocket ret) := by
  unfold socketAction at sent
  split at sent
  case h_2 ret => exact ⟨ret, rfl⟩
  case h_4 => cases sent
  all_goals
    obtain rfl := Option.some.inj sent
    simp at ends

/-- Its own step has ended the stream of client `c`, or the stream had ended before. -/
theorem ended_before {a : Client.Action} {s : Client.State}
    (taken : Client.step (n.client c) a = some s)
    (sent : n.transmit (socketAction c (n.client c) a) = some n')
    (after : (n'.connection c).shutdown = true) :
    (n.connection c).shutdown = true ∨ n'.Up ∧ s.main.leaving = true := by
  rcases transmit_cases sent with ⟨b, k, action, up, client, rfl⟩ | ⟨-, rfl⟩
  · obtain ⟨rfl, -, -⟩ := socketAction_some action
    rcases shutdown_client client after with before | ends
    · exact .inl before
    · obtain ⟨ret, rfl⟩ := closes_of_socketAction action ends
      have act := (Client.system_step.mp taken).2
      simp only [Client.act, Client.usockitClient, require_eq_some] at act
      obtain ⟨-, rfl⟩ := act
      exact .inr ⟨up, rfl⟩
  · exact .inl after

theorem Finished.client {a : Client.Action} {s : Client.State} (finished : Finished n)
    (run : system.Run actions n) (coupled : Coupled (n'.setClient c s))
    (alive : n.clientEnded c = false) (ofClient : OfClient a)
    (taken : Client.step (n.client c) a = some s)
    (sent : n.transmit (socketAction c (n.client c) a) = some n') :
    Finished (n'.setClient c s) := by
  have unchanged : ∀ d ≠ c, n'.connection d = n.connection d := fun d other =>
    transmit_others sent fun b action => (socketAction_some action).1 ▸ other
  obtain ⟨clients, clientEnded⟩ := clients_transmit sent
  have act := (Client.system_step.mp taken).2
  have silent : (n.connection c).shutdown = true → s.main.leaving = true ∧
      s.socket.toServer = (n.clients c).socket.toServer := by
    intro before
    obtain ⟨clientRun, there, -⟩ := exists_clientRun run c
    have leaving := (finished.done c before).resolve_left (by simp [alive])
    rw [← main_client] at leaving
    obtain ⟨leaves, nothing⟩ := act_leaving act (Client.gone_of_leaving there leaving) leaving
    rw [(act_ownSocket act ofClient).toServer, nothing, List.append_nil, toServer_client]
    exact ⟨leaves, rfl⟩
  have own : (n'.connection c).shutdown = true → s.main.leaving = true ∧
      (n'.connection c).sent = s.socket.toServer := by
    intro after
    have upToDate : n'.Up → (n'.connection c).sent = s.socket.toServer := by
      intro up
      simpa [State.setClient] using coupled.upToDate up c
    rcases ended_before taken sent after with before | ⟨up, leaves⟩
    · refine ⟨(silent before).1, ?_⟩
      rw [(silent before).2]
      by_cases up : n'.Up
      · rw [upToDate up, (silent before).2]
      · rcases transmit_cases sent with ⟨b, k, -, wasUp, -, rfl⟩ | ⟨-, rfl⟩
        · exact absurd wasUp up
        · exact finished.sent c before
    · exact ⟨leaves, upToDate up⟩
  constructor
  all_goals
    intro d after
    by_cases same : d = c
    · subst same
      simp only [State.setClient, Function.update_self]
      first
      | exact .inr (own after).1
      | exact (own after).2
    · have before : (n.connection d).shutdown = true := unchanged d same ▸ after
      simp only [State.setClient, ne_eq, same, not_false_eq_true, Function.update_of_ne, clients,
        clientEnded]
      first
      | exact finished.done d before
      | exact (congrArg _ (unchanged d same)).trans (finished.sent d before)

theorem Finished.clientEnds (finished : Finished n)
    (coupled : Coupled { n' with clientEnded := Function.update n'.clientEnded c true })
    (sent : n.transmit (closeAction c (n.clients c)) = some n') :
    Finished { n' with clientEnded := Function.update n'.clientEnded c true } := by
  obtain ⟨clients, clientEnded⟩ := clients_transmit sent
  have others : ∀ d ≠ c, n'.connection d = n.connection d := fun d other =>
    transmit_others sent fun b action => (closeAction_some action).2 ▸ other
  constructor
  · intro d after
    by_cases same : d = c
    · exact .inl (by simp [same])
    · have before : (n.connection d).shutdown = true := others d same ▸ after
      simpa [same, clients, clientEnded] using finished.done d before
  · intro d after
    by_cases up : n'.Up
    · exact coupled.upToDate up d
    · rcases transmit_cases sent with ⟨b, k, -, wasUp, -, rfl⟩ | ⟨-, rfl⟩
      · exact absurd wasUp up
      · exact finished.sent d after

theorem Finished.run (run : system.Run actions n) : Finished n := by
  refine run.stateInvariant ?_ ?_
  · rintro _ ⟨config, stdins, rfl⟩
    constructor <;> simp [State.start, Server.State.start]
  · intro actions n a n' run finished _ taken
    have coupled := (Coupled.run run).step taken
    cases a with
    | server a =>
        simp only [system, step, Option.ite_none_right_eq_some, Option.map_eq_some_iff] at taken
        obtain ⟨⟨-, ofServer⟩, server, taken, rfl⟩ := taken
        have served := served_of_step taken ofServer
        have same : ∀ c, (server.kernel.connections c).shutdown = (n.connection c).shutdown ∧
            (server.kernel.connections c).sent = (n.connection c).sent := fun c =>
          (served.handled c).elim fun _ handled => ⟨handled.shutdown, handled.sent⟩
        constructor <;> simp only [State.connection, same]
        · exact finished.done
        · exact finished.sent
    | client c a =>
        simp only [system, step, Option.ite_none_right_eq_some, Option.bind_eq_some_iff,
          Option.map_eq_some_iff] at taken
        obtain ⟨⟨alive, ofClient, -⟩, s, taken, n', sent, rfl⟩ := taken
        exact finished.client run coupled alive ofClient taken sent
    | serverEnds =>
        simp only [system, step, require_eq_some] at taken
        obtain ⟨-, rfl⟩ := taken
        exact ⟨finished.done, finished.sent⟩
    | clientEnds c =>
        simp only [system, step, Option.ite_none_right_eq_some, Option.map_eq_some_iff] at taken
        obtain ⟨-, n', sent, rfl⟩ := taken
        exact finished.clientEnds coupled sent
    | hangUp c =>
        simp only [system, step, require_eq_some] at taken
        obtain ⟨-, rfl⟩ := taken
        refine ⟨fun d ended => ?_, fun d ended => ?_⟩
        · rw [(hangUp n c d).1]
          exact finished.done d ended
        · obtain ⟨closed, socket⟩ := (hangUp n c d).2
          rw [socket]
          exact finished.sent d ended

/-! ## The network seen from its processes -/

/-- For each process alone, its steps are a run of its own, and the network refuses it no step but
to connect to a server that is gone. -/
structure Composed (actions : List Action) (n : State) : Prop where
  server : ∃ serverRun, Server.system.Run serverRun n.server ∧
    serverRun.flatMap (own OfServer) = actions.flatMap serverActions
  client : ∀ c, ∃ clientRun, Client.system.Run clientRun (n.client c) ∧
    clientRun.flatMap (own OfClient) = actions.flatMap (clientActions c)
  sent : ∀ c, (n.connection c).sent <+: (n.client c).socket.toServer
  upToDate : n.Up → ∀ c, (n.connection c).sent = (n.client c).socket.toServer
  enabled : ∀ c a s, n.clientEnded c = false → OfClient a → ¬ n.Refuses a →
    Client.system.step (n.client c) a = some s →
    ∃ n', system.step n (.client c a) = some n' ∧ n'.client c = s

/-- What a client does to its socket, the server's kernel can do. -/
theorem exists_transmit {a : Client.Action} {s : Client.State} (run : system.Run actions n)
    (alive : n.clientEnded c = false) (taken : Client.step (n.client c) a = some s) :
    ∃ n', n.transmit (socketAction c (n.client c) a) = some n' := by
  have coupled := Coupled.run run
  obtain ⟨clientRun, there, -⟩ := exists_clientRun run c
  have wired := Client.Wired.run there
  have possible : ∀ b, socketAction c (n.client c) a = some b →
      ∃ k, Server.client n.server.kernel b = some k := by
    intro b action
    have used : (n.client c).socket.connected = true → (n.connection c).phase ≠ .unused :=
      fun connected => (coupled.connected c).mp (connected_client ▸ connected)
    have act := (Client.system_step.mp taken).2
    unfold socketAction at action
    split at action
    · obtain rfl := Option.some.inj action
      simp only [Client.act, Client.usockitClient, require_eq_some] at act
      have unconnected := wired.before (by simp [act.1, Client.MainPc.beforeConnect])
      rw [connected_client] at unconnected
      have unused := (coupled.connected c).not.mp (by simp [unconnected])
      exact ⟨_, require_eq_some.mpr ⟨not_not.mp unused, rfl⟩⟩
    · obtain ⟨connected, rfl⟩ := closeAction_some action
      exact ⟨_, require_eq_some.mpr ⟨used connected, rfl⟩⟩
    · obtain rfl := Option.some.inj action
      simp only [Client.act] at act
      have sending := Client.alive_of_sendingThread act
      refine ⟨_, require_eq_some.mpr ⟨⟨used (wired.sending sending.1), ?_⟩, rfl⟩⟩
      by_contra final
      have left := ((Finished.run run).done c (by simpa using final)).resolve_left (by simp [alive])
      exact Client.gone_of_leaving there (main_client ▸ left) .sending (by simp) sending
    · cases action
  cases action : socketAction c (n.client c) a with
  | none => exact ⟨n, rfl⟩
  | some b =>
      unfold State.transmit
      by_cases up : n.Up
      · obtain ⟨k, client⟩ := possible b action
        have step : Server.step n.server (.client b) = some { n.server with kernel := k } :=
          Server.system_step.mpr ⟨up.2, by simp [Server.act, client]⟩
        exact ⟨_, by simp [up, step]; rfl⟩
      · exact ⟨n, by simp [up]⟩

theorem exists_clientStep {a : Client.Action} {s : Client.State} (run : system.Run actions n)
    (alive : n.clientEnded c = false) (ofClient : OfClient a) (connects : ¬ n.Refuses a)
    (taken : Client.step (n.client c) a = some s) :
    ∃ n', n.transmit (socketAction c (n.client c) a) = some n' ∧
      system.step n (.client c a) = some (n'.setClient c s) ∧ (n'.setClient c s).client c = s := by
  obtain ⟨n', sent⟩ := exists_transmit run alive taken
  refine ⟨n', sent, ?_, client_setClient taken ofClient (.transmit sent)⟩
  simp [system, Network.step, alive, ofClient, connects, taken, sent]

theorem network_composes (run : system.Run actions n) : Composed actions n := by
  have coupled := Coupled.run run
  refine ⟨exists_serverRun run, exists_clientRun run, ?_, ?_, ?_⟩
  · exact fun c => toServer_client ▸ coupled.sent c
  · exact fun up c => (coupled.upToDate up c).trans toServer_client.symm
  · intro c a s alive ofClient connects taken
    obtain ⟨n', -, step, here⟩ := exists_clientStep run alive ofClient connects taken
    exact ⟨_, step, here⟩

/-! ## Schedules -/

def startUp : List Action := Server.startUp.map .server

def connects (c : ConnId) : List Action := Client.startUp.map (.client c)

/-- The accept thread hands over a client that has connected, and the connection thread is about to
read from it. -/
def handOver (fd : Server.ClientFd) : List Action :=
  ((Server.handOver fd).tail ++
    ([.clientConnection .relock, .clientConnection (.take fd), .clientConnection .load] :
      List Server.Action)).map .server

/-- A client that has connected sends its two bytes and returns. -/
def clientReturns (c : ConnId) : List Action :=
  (Client.sentAndReturned.drop Client.startUp.length).map (.client c)

/-- The server reads what the client has sent when this one has returned. -/
def wholeSession : List Action :=
  startUp ++ connects 0 ++ handOver ⟨4, 0⟩ ++ clientReturns 0 ++
    [.server (.clientConnection (.received ⟨4, 0⟩ 0 2)),
     .server (.clientConnection (.callWriteAll [104, 105] 5)),
     .server (.clientConnection (.wrote (.call 5 [104, 105]) (.pipe .main .write) 2)),
     .server (.clientConnection .load),
     .server (.clientConnection (.readEof ⟨4, 0⟩ 0))]

theorem network_composes_wholeSession :
    ∃ n, system.exec (.start .shell fun _ => [104, 105]) wholeSession = some n ∧
      Composed wholeSession n := by
  obtain ⟨n, path, -⟩ : ∃ n,
      system.exec (.start .shell fun _ => [104, 105]) wholeSession = some n ∧ True :=
    System.exists_exec (by decide +kernel)
  exact ⟨n, path, network_composes (System.run_of_exec ⟨_, _, rfl⟩ path)⟩

end Usockit.Network
