import Usockit.Foundation.Simulation
import Usockit.Network.Step
import Usockit.Client.Connection
import Usockit.Server.Connections

namespace Usockit.Network
open Foundation
open Server (ConnId Kernel)

variable {n n' : State} {actions : List Action} {c d : ConnId} {k k' : Kernel}

/-! ## What each party does by itself -/

def serverActions : Action → List Server.Action
  | .server a => [a]
  | _ => []

def clientActions (c : ConnId) : Action → List Client.Action
  | .client d a => if d = c then [a] else []
  | _ => []

def own {α : Type} (p : α → Prop) [DecidablePred p] (a : α) : List α := if p a then [a] else []

/-! ## The server -/

/-- The server's kernel learns of `b`, unless the server's process has ended. -/
theorem transmit_cases {sent : Option Server.ClientAction} (taken : n.transmit sent = some n') :
    (∃ b k, sent = some b ∧ n.Up ∧ Server.client n.server.kernel b = some k ∧
      n' = { n with server := { n.server with kernel := k } }) ∨
    (sent = none ∨ ¬ n.Up) ∧ n' = n := by
  unfold State.transmit at taken
  split at taken
  · next b =>
    split at taken
    · next up =>
      obtain ⟨server, step, rfl⟩ := Option.map_eq_some_iff.mp taken
      have act := (Server.system_step.mp step).2
      simp only [Server.act, Option.map_eq_some_iff] at act
      obtain ⟨k, client, rfl⟩ := act
      exact .inl ⟨b, k, rfl, up, client, rfl⟩
    · next down => exact .inr ⟨.inr down, (Option.some.inj taken).symm⟩
  · exact .inr ⟨.inl rfl, (Option.some.inj taken).symm⟩

/-- The condition `ok` on the server's steps, none on the others. -/
def ServerMeets (ok : Server.State → Server.Action → Prop) (n : State) : Action → Prop
  | .server a => ok n.server a
  | _ => True

instance (ok : Server.State → Server.Action → Prop) [∀ s a, Decidable (ok s a)] (n : State) :
    ∀ a, Decidable (ServerMeets ok n a)
  | .server a => inferInstanceAs (Decidable (ok n.server a))
  | .client _ _ | .serverEnds | .clientEnds _ | .hangUp _ => instDecidableTrue

section
variable {ok : Server.State → Server.Action → Prop}

theorem transmit_server {sent : Option Server.ClientAction} (clients : ∀ s b, ok s (.client b))
    (taken : n.transmit sent = some n') :
    ∃ more, Server.system.exec n.server more = some n'.server ∧
      Server.system.Meets ok n.server more ∧ more.flatMap (own OfServer) = [] := by
  rcases transmit_cases taken with ⟨b, k, -, up, client, rfl⟩ | ⟨-, rfl⟩
  · refine ⟨[.client b], System.exec_singleton ?_, ⟨clients _ _, fun _ _ => trivial⟩,
      by simp [own, OfServer]⟩
    exact Server.system_step.mpr ⟨up.2, by simp [Server.act, client]⟩
  · exact ⟨[], rfl, trivial, rfl⟩

theorem server_simulation (clients : ∀ s b, ok s (.client b)) :
    Simulation system (ServerMeets ok) Server.system ok (fun _ n t => n.server = t) serverActions
      (own OfServer) := by
  constructor
  · rintro _ ⟨config, stdins, rfl⟩
    exact ⟨_, ⟨config, rfl⟩, rfl⟩
  · rintro _ n a n' _ - rfl meets taken
    cases a with
    | server a =>
        simp only [system, step, Option.ite_none_right_eq_some, Option.map_eq_some_iff] at taken
        obtain ⟨⟨-, ofServer⟩, server, taken, rfl⟩ := taken
        exact ⟨[a], server, System.exec_singleton taken, ⟨meets, fun _ _ => trivial⟩,
          by simp [own, ofServer, serverActions], rfl⟩
    | client c a =>
        simp only [system, step, Option.ite_none_right_eq_some, Option.bind_eq_some_iff,
          Option.map_eq_some_iff] at taken
        obtain ⟨-, s, -, n', sent, rfl⟩ := taken
        obtain ⟨more, path, met, silent⟩ := transmit_server clients sent
        exact ⟨more, _, path, met, silent, rfl⟩
    | clientEnds c =>
        simp only [system, step, Option.ite_none_right_eq_some, Option.map_eq_some_iff] at taken
        obtain ⟨-, n', sent, rfl⟩ := taken
        obtain ⟨more, path, met, silent⟩ := transmit_server clients sent
        exact ⟨more, _, path, met, silent, rfl⟩
    | serverEnds | hangUp c =>
        simp only [system, step, require_eq_some] at taken
        obtain ⟨-, rfl⟩ := taken
        exact ⟨[], _, rfl, trivial, rfl, rfl⟩

theorem exists_serverRunWhere (clients : ∀ s b, ok s (.client b))
    (run : system.RunWhere (ServerMeets ok) actions n) :
    ∃ serverRun, Server.system.RunWhere ok serverRun n.server ∧
      serverRun.flatMap (own OfServer) = actions.flatMap serverActions := by
  obtain ⟨followed, _, there, same, rfl⟩ := (server_simulation clients).run run
  exact ⟨followed, there, same⟩

end

theorem exists_serverRun {ok : State → Action → Prop} (run : system.RunWhere ok actions n) :
    ∃ serverRun, Server.system.Run serverRun n.server ∧
      serverRun.flatMap (own OfServer) = actions.flatMap serverActions :=
  exists_serverRunWhere (fun _ _ => trivial) (run.mono fun _ a _ => by cases a <;> trivial)

/-! ## The socket of a client -/

theorem act_ownSocket {a : Client.Action} {s s' : Client.State} (taken : Client.act s a = some s')
    (ofClient : OfClient a) : Client.OwnSocket a s.socket s'.socket := by
  refine Client.act_ownSocket taken ?_
  rintro b rfl
  exact ofClient

/-! ## What the kernel makes of it -/

/-- Only the client's side of the connections has changed. -/
structure Relayed (k k' : Kernel) : Prop where
  fds : k'.fds = k.fds
  child : k'.child = k.child
  received : ∀ c, (k'.connections c).received = (k.connections c).received
  accepted : ∀ c, (k'.connections c).phase = .accepted ↔ (k.connections c).phase = .accepted

theorem Relayed.refl : Relayed k k := ⟨rfl, rfl, fun _ => rfl, fun _ => Iff.rfl⟩

theorem Relayed.trans {k'' : Kernel} (first : Relayed k k') (second : Relayed k' k'') :
    Relayed k k'' :=
  ⟨second.fds.trans first.fds, second.child.trans first.child,
    fun c => (second.received c).trans (first.received c),
    fun c => (second.accepted c).trans (first.accepted c)⟩

theorem Relayed.client {a : Server.ClientAction} (taken : Server.client k a = some k') :
    Relayed k k' := by
  obtain ⟨fds, child⟩ := Server.fds_client taken
  refine ⟨fds, child, Server.received_client taken, fun c => ?_⟩
  rcases Server.phase_client taken c with same | ⟨unused, pending⟩
  · rw [same]
  · simp [unused, pending]

theorem Relayed.transmit {sent : Option Server.ClientAction}
    (taken : n.transmit sent = some n') : Relayed n.server.kernel n'.server.kernel := by
  rcases transmit_cases taken with ⟨b, k, -, -, client, rfl⟩ | ⟨-, rfl⟩
  · exact .client client
  · exact .refl

theorem Relayed.closedByServer (relayed : Relayed k k') :
    ClosedByServer k' c ↔ ClosedByServer k c := by
  simp [ClosedByServer, relayed.accepted, Server.Kernel.Open, relayed.fds, relayed.child]

theorem Relayed.refresh (relayed : Relayed k k') (s : Client.State) :
    refresh k' c s = refresh k c s := by
  simp [Network.refresh, relayed.received, relayed.closedByServer]

/-! ## What the network keeps in step -/

abbrev State.connection (n : State) (c : ConnId) : Server.Connection :=
  n.server.kernel.connections c

structure Coupled (n : State) : Prop where
  connected : ∀ c, (n.clients c).socket.connected = true ↔ (n.connection c).phase ≠ .unused
  sent : ∀ c, (n.connection c).sent <+: (n.clients c).socket.toServer
  upToDate : n.Up → ∀ c, (n.connection c).sent = (n.clients c).socket.toServer
  received : ∀ c, (n.clients c).socket.fromServer.bytes <+: (n.connection c).received
  closed : n.Up → ∀ c, (n.clients c).socket.serverClosed = true →
    ClosedByServer n.server.kernel c

theorem Coupled.start (config : Server.Config) (stdins : ConnId → List Byte) :
    Coupled (.start config stdins) := by
  constructor <;> simp [State.start, Server.State.start, Client.State.start]

/-- A step of the server has touched nothing but its own side of the connections. -/
structure Served (k k' : Kernel) : Prop where
  handled : ∀ c, ∃ accepts, Server.Handled accepts c k k'
  accepted : ∀ c, (k.connections c).phase = .accepted → (k'.connections c).phase = .accepted

theorem Served.unused (served : Served k k') (c : ConnId) :
    (k'.connections c).phase = .unused ↔ (k.connections c).phase = .unused := by
  obtain ⟨accepts, handled⟩ := served.handled c
  rcases handled.phase with same | ⟨-, pending, accepted⟩
  · rw [same]
  · simp [pending, accepted]

theorem Served.closedByServer (served : Served k k') (closed : ClosedByServer k c) :
    ClosedByServer k' c := by
  obtain ⟨accepts, handled⟩ := served.handled c
  refine ⟨served.accepted c closed.1, fun isOpen => ?_⟩
  rcases handled.opened isOpen with before | ⟨pending, -⟩
  · exact closed.2 before
  · simp [closed.1] at pending

theorem served_of_step {s s' : Server.State} {a : Server.Action} (taken : Server.step s a = some s')
    (ofServer : OfServer a) : Served s.kernel s'.kernel := by
  have act := (Server.system_step.mp taken).2
  refine ⟨fun c => ⟨_, Server.act_handled act ?_ c⟩, fun c => Server.act_accepted act⟩
  rintro b rfl
  exact ofServer

theorem Coupled.server {s : Server.State} {a : Server.Action} (coupled : Coupled n)
    (up : n.Up) (taken : Server.step n.server a = some s) (ofServer : OfServer a) :
    Coupled { n with server := s } := by
  have served := served_of_step taken ofServer
  have sent : ∀ c, (s.kernel.connections c).sent = (n.connection c).sent := fun c =>
    (served.handled c).elim fun _ handled => handled.sent
  constructor <;> simp only [State.connection, sent]
  · exact fun c => (coupled.connected c).trans (served.unused c).not.symm
  · exact coupled.sent
  · exact fun _ => coupled.upToDate up
  · intro c
    obtain ⟨_, handled⟩ := served.handled c
    rcases handled.received with same | ⟨-, more⟩
    · exact same ▸ coupled.received c
    · exact (coupled.received c).trans more
  · exact fun _ c closed => served.closedByServer (coupled.closed up c closed)

/-! ## The steps of a client -/

theorem socketAction_some {s : Client.State} {a : Client.Action} {b : Server.ClientAction}
    (sent : socketAction c s a = some b) : b.target = c ∧ b.payload = a.written ∧
      ∀ d, b = .connect d → a = .main .connect := by
  unfold socketAction closeAction at sent
  split at sent
  case h_2 =>
    split at sent
    · obtain rfl := Option.some.inj sent
      simp [Server.ClientAction.target, Server.ClientAction.payload, Client.Action.written]
    · cases sent
  case h_4 => cases sent
  all_goals
    obtain rfl := Option.some.inj sent
    simp [Server.ClientAction.target, Server.ClientAction.payload, Client.Action.written]

theorem socketAction_none {s : Client.State} {a : Client.Action}
    (silent : socketAction c s a = none) : a ≠ .main .connect ∧ a.written = [] := by
  cases a with
  | main a =>
      refine ⟨?_, rfl⟩
      rintro ⟨⟩
      simp [socketAction] at silent
  | receivingThread | server => exact ⟨by simp, rfl⟩
  | sendingThread a =>
      refine ⟨by simp, ?_⟩
      cases a
      case wrote => simp [socketAction] at silent
      all_goals rfl

theorem client_refresh (running : (n.clients c).fate = .running) :
    n.client c = refresh n.server.kernel c (n.clients c) := if_pos running

@[simp] theorem connected_client :
    (n.client c).socket.connected = (n.clients c).socket.connected := by
  unfold State.client
  split <;> rfl

@[simp] theorem toServer_client : (n.client c).socket.toServer = (n.clients c).socket.toServer := by
  unfold State.client
  split <;> rfl

theorem client_running {a : Client.Action} {s : Client.State}
    (taken : Client.step (n.client c) a = some s) : (n.clients c).fate = .running := by
  have running := (Client.system_step.mp taken).1
  unfold State.client at running
  split at running
  · assumption
  · exact running

theorem Up.transmit {sent : Option Server.ClientAction} (taken : n.transmit sent = some n') :
    n'.Up ↔ n.Up := by
  rcases transmit_cases taken with ⟨b, k, -, -, -, rfl⟩ | ⟨-, rfl⟩ <;> rfl

theorem clients_transmit {sent : Option Server.ClientAction} (taken : n.transmit sent = some n') :
    n'.clients = n.clients ∧ n'.clientEnded = n.clientEnded := by
  rcases transmit_cases taken with ⟨b, k, -, -, -, rfl⟩ | ⟨-, rfl⟩ <;> exact ⟨rfl, rfl⟩

theorem transmit_others {b : Option Server.ClientAction} (sent : n.transmit b = some n')
    (others : ∀ a ∈ b, d ≠ a.target) : n'.connection d = n.connection d := by
  rcases transmit_cases sent with ⟨a, k, rfl, -, client, rfl⟩ | ⟨-, rfl⟩
  · exact Server.client_others client (others a rfl)
  · rfl

/-- Both ends of the client's connection have seen the step. -/
theorem Coupled.ownSide {a : Client.Action} {s : Client.State} (coupled : Coupled n)
    (connects : ¬ n.Refuses a) (socket : Client.OwnSocket a (n.client c).socket s.socket)
    (sent : n.transmit (socketAction c (n.client c) a) = some n') :
    (s.socket.connected = true ↔ (n'.connection c).phase ≠ .unused) ∧
      (n'.connection c).sent <+: s.socket.toServer ∧
      (n.Up → (n'.connection c).sent = s.socket.toServer) := by
  rw [socket.connected, socket.toServer, connected_client, toServer_client, coupled.connected c]
  rcases transmit_cases sent with ⟨b, k, action, up, client, rfl⟩ | ⟨silent, rfl⟩
  · obtain ⟨rfl, payload, connect⟩ := socketAction_some action
    obtain ⟨used, before, sum⟩ := Server.client_target client
    have same : (k.connections b.target).sent =
        (n.clients b.target).socket.toServer ++ a.written := by
      rw [sum, payload, ← coupled.upToDate up]
    refine ⟨⟨fun _ => used, fun _ => before.imp_right fun ⟨d, equal⟩ => connect d equal⟩, ?_, ?_⟩
    · exact same ▸ List.prefix_rfl
    · exact fun _ => same
  · have noConnect : a ≠ .main .connect := by
      rintro rfl
      rcases silent with none | down
      · simp [socketAction] at none
      · exact connects ⟨rfl, down⟩
    refine ⟨by simp [noConnect], (coupled.sent c).trans (List.prefix_append _ _), fun up => ?_⟩
    have none := silent.resolve_right (absurd up)
    rw [(socketAction_none none).2, List.append_nil, coupled.upToDate up c]

theorem Coupled.client {a : Client.Action} {s : Client.State} (coupled : Coupled n)
    (ofClient : OfClient a) (connects : ¬ n.Refuses a)
    (taken : Client.step (n.client c) a = some s)
    (sent : n.transmit (socketAction c (n.client c) a) = some n') :
    Coupled (n'.setClient c s) := by
  have running := client_running taken
  have socket := act_ownSocket (Client.system_step.mp taken).2 ofClient
  obtain ⟨connected, prefixed, upToDate⟩ := coupled.ownSide connects socket sent
  have relayed := Relayed.transmit sent
  have up := Up.transmit sent
  have unchanged : ∀ d ≠ c, n'.connection d = n.connection d := fun d other =>
    transmit_others sent fun b action => (socketAction_some action).1 ▸ other
  have frame : ∀ P : Server.Connection → Client.State → Prop,
      (∀ d, P (n.connection d) (n.clients d)) → P (n'.connection c) s →
        ∀ d, P ((n'.setClient c s).connection d) ((n'.setClient c s).clients d) := by
    intro P before self d
    by_cases same : d = c
    · subst same
      simpa [State.setClient] using self
    · simpa [State.setClient, same, (clients_transmit sent).1, ← unchanged d same] using before d
  constructor
  · exact frame (fun connection client => client.socket.connected = true ↔
      connection.phase ≠ .unused) coupled.connected connected
  · exact frame (fun connection client => connection.sent <+: client.socket.toServer)
      coupled.sent prefixed
  · intro up'
    exact frame (fun connection client => connection.sent = client.socket.toServer)
      (coupled.upToDate (up.mp up')) (upToDate (up.mp up'))
  · refine frame (fun connection client => client.socket.fromServer.bytes <+: connection.received)
      coupled.received ?_
    rw [socket.received, client_refresh running, State.connection, relayed.received]
    exact List.prefix_rfl
  · intro up' d
    change _ → ClosedByServer n'.server.kernel d
    rw [relayed.closedByServer]
    have before := coupled.closed (up.mp up') d
    by_cases same : d = c
    · subst same
      intro closed
      have either : (n.clients d).socket.serverClosed = true ∨
          ClosedByServer n.server.kernel d := by
        simpa [State.setClient, socket.serverClosed, client_refresh running, refresh] using closed
      exact either.elim before id
    · simpa [State.setClient, same, (clients_transmit sent).1] using before

theorem closeAction_some {s : Client.State} {b : Server.ClientAction}
    (sent : closeAction c s = some b) : s.socket.connected = true ∧ b = .close c := by
  unfold closeAction at sent
  split at sent
  · next connected => exact ⟨connected, (Option.some.inj sent).symm⟩
  · cases sent

theorem Coupled.clientEnds (coupled : Coupled n)
    (sent : n.transmit (closeAction c (n.clients c)) = some n') (ended : ConnId → Bool) :
    Coupled { n' with clientEnded := ended } := by
  have relayed := Relayed.transmit sent
  have up := Up.transmit sent
  have clients := (clients_transmit sent).1
  have kept : ∀ d, (n'.connection d).sent = (n.connection d).sent ∧
      ((n'.connection d).phase ≠ .unused ↔ (n.connection d).phase ≠ .unused) := by
    intro d
    rcases transmit_cases sent with ⟨b, k, action, -, client, rfl⟩ | ⟨-, rfl⟩
    · obtain ⟨-, rfl⟩ := closeAction_some action
      simp only [Server.client, require_eq_some] at client
      obtain ⟨-, rfl⟩ := client
      simp only [State.connection, Server.Kernel.connections_setConnection]
      split <;> simp_all
    · exact ⟨rfl, Iff.rfl⟩
  constructor
  · simpa only [clients, State.connection, (kept _).2] using coupled.connected
  · simpa only [clients, State.connection, (kept _).1] using coupled.sent
  · intro up'
    simpa only [clients, State.connection, (kept _).1] using coupled.upToDate (up.mp up')
  · intro d
    simpa only [clients, State.connection, relayed.received] using coupled.received d
  · intro up' d closed
    exact relayed.closedByServer.mpr (coupled.closed (up.mp up') d (clients ▸ closed))

/-- A client whose server has gone only learns that its stream has ended. -/
theorem hangUp (n : State) (c d : ConnId) :
    ((n.hangUp c).clients d).main = (n.clients d).main ∧
      ∃ closed, ((n.hangUp c).clients d).socket =
        { (n.clients d).socket with serverClosed := closed } := by
  by_cases same : d = c
  · subst same
    simp [State.hangUp, State.setClient]
  · refine ⟨by simp [State.hangUp, State.setClient, same], (n.clients d).socket.serverClosed, ?_⟩
    simp [State.hangUp, State.setClient, same]

theorem Coupled.step {a : Action} (coupled : Coupled n) (taken : Network.step n a = some n') :
    Coupled n' := by
  cases a with
  | server a =>
      simp only [Network.step, Option.ite_none_right_eq_some, Option.map_eq_some_iff] at taken
      obtain ⟨⟨up, ofServer⟩, server, taken, rfl⟩ := taken
      exact coupled.server up taken ofServer
  | client c a =>
      simp only [Network.step, Option.ite_none_right_eq_some, Option.bind_eq_some_iff,
        Option.map_eq_some_iff] at taken
      obtain ⟨⟨-, ofClient, connects⟩, s, taken, n', sent, rfl⟩ := taken
      exact coupled.client ofClient connects taken sent
  | clientEnds c =>
      simp only [Network.step, Option.ite_none_right_eq_some, Option.map_eq_some_iff] at taken
      obtain ⟨-, n', sent, rfl⟩ := taken
      exact coupled.clientEnds sent _
  | serverEnds =>
      simp only [Network.step, require_eq_some] at taken
      obtain ⟨-, rfl⟩ := taken
      exact ⟨coupled.connected, coupled.sent, fun up => by simp [State.Up] at up, coupled.received,
        fun up => by simp [State.Up] at up⟩
  | hangUp c =>
      simp only [Network.step, require_eq_some] at taken
      obtain ⟨⟨down, -⟩, rfl⟩ := taken
      refine ⟨fun d => ?_, fun d => ?_, fun up => absurd up down, fun d => ?_,
        fun up => absurd up down⟩ <;>
        obtain ⟨closed, socket⟩ := (hangUp n c d).2 <;> rw [socket]
      · exact coupled.connected d
      · exact coupled.sent d
      · exact coupled.received d

theorem Coupled.run {ok : State → Action → Prop} (run : system.RunWhere ok actions n) :
    Coupled n := by
  refine run.stateInvariant ?_ fun _ n a n' _ coupled _ taken => coupled.step taken
  rintro _ ⟨config, stdins, rfl⟩
  exact .start config stdins

/-! ## The clients -/

theorem exec_send {s : Client.State} (bytes : List Byte) (running : s.fate = .running)
    (connected : s.socket.connected = true) (isOpen : s.socket.serverClosed = false) :
    Client.system.exec s [.server (.send bytes)] = some { s with
      socket := { s.socket with
        fromServer := { s.socket.fromServer with
          bytes := s.socket.fromServer.bytes ++ bytes } } } := by
  refine System.exec_singleton (Client.system_step.mpr ⟨running, ?_⟩)
  simp [Client.act, Client.server, require, connected, isOpen]

theorem exec_close {s : Client.State} (running : s.fate = .running)
    (connected : s.socket.connected = true) : Client.system.exec s [.server .close] =
      some { s with socket := { s.socket with serverClosed := true } } := by
  refine System.exec_singleton (Client.system_step.mpr ⟨running, ?_⟩)
  simp [Client.act, Client.server, require, connected]

/-- The server's side of a client's connection has changed: for the client, the server has sent
some bytes, or closed its end. -/
theorem refresh_exec {s : Client.State} (running : s.fate = .running)
    (received : (k'.connections c).received = (k.connections c).received ∨
      s.socket.connected = true ∧ s.socket.serverClosed = false ∧ ¬ ClosedByServer k c ∧
        (k.connections c).received <+: (k'.connections c).received)
    (stays : ClosedByServer k c → ClosedByServer k' c)
    (closes : ClosedByServer k' c → s.socket.connected = true) :
    ∃ more, Client.system.exec (refresh k c s) more = some (refresh k' c s) ∧
      more.flatMap (own OfClient) = [] := by
  obtain ⟨first, t, path, silent, rfl⟩ : ∃ first t,
      Client.system.exec (refresh k c s) first = some t ∧ first.flatMap (own OfClient) = [] ∧
        t = { refresh k c s with socket := { (refresh k c s).socket with
          fromServer := (refresh k' c s).socket.fromServer } } := by
    rcases received with same | ⟨connected, isOpen, unclosed, bytes, more⟩
    · exact ⟨[], _, rfl, rfl, by simp [refresh, same]⟩
    · refine ⟨_, _, exec_send bytes running connected ?_, by simp [own, OfClient], ?_⟩
      · simp [refresh, isOpen, unclosed]
      · simp [refresh, more]
  by_cases closing : ClosedByServer k' c ∧ ¬ ClosedByServer k c
  · refine ⟨first ++ [.server .close], System.exec_trans path ?_, by simp [silent, own, OfClient]⟩
    rw [exec_close (by exact running) (by exact closes closing.1)]
    simp [refresh, closing.1]
  · have same : ClosedByServer k' c ↔ ClosedByServer k c :=
      ⟨fun after => by_contra fun before => closing ⟨after, before⟩, stays⟩
    refine ⟨first, path.trans ?_, silent⟩
    simp [refresh, same]

theorem client_congr (clients : n'.clients c = n.clients c)
    (relayed : Relayed n.server.kernel n'.server.kernel) : n'.client c = n.client c := by
  simp [State.client, clients, relayed.refresh]

theorem client_setClient {a : Client.Action} {s : Client.State}
    (taken : Client.step (n.client c) a = some s) (ofClient : OfClient a)
    (relayed : Relayed n.server.kernel n'.server.kernel) : (n'.setClient c s).client c = s := by
  have socket := act_ownSocket (Client.system_step.mp taken).2 ofClient
  rw [client_refresh (client_running taken)] at socket
  have kept : refresh n.server.kernel c s = s := by
    have closed : (s.socket.serverClosed || decide (ClosedByServer n.server.kernel c)) =
        s.socket.serverClosed := by
      simp [socket.serverClosed, refresh]
    have received : (n.connection c).received = s.socket.fromServer.bytes := socket.received.symm
    simp only [refresh, closed, received]
  simp only [State.client, State.setClient, Function.update_self]
  split
  · rw [relayed.refresh, kept]
  · rfl

theorem Coupled.served {s : Server.State} {a : Server.Action} (coupled : Coupled n)
    (run : system.Run actions n) (up : n.Up) (taken : Server.step n.server a = some s)
    (ofServer : OfServer a) (running : (n.clients c).fate = .running) :
    ∃ more, Client.system.exec (refresh n.server.kernel c (n.clients c)) more =
        some (refresh s.kernel c (n.clients c)) ∧
      more.flatMap (own OfClient) = [] := by
  have served := served_of_step taken ofServer
  obtain ⟨serverRun, there, -⟩ := exists_serverRun run
  apply refresh_exec running
  · obtain ⟨_, handled⟩ := served.handled c
    refine handled.received.imp_right fun ⟨isOpen, more⟩ => ?_
    have accepted := (Server.Accepted.run there).opened c isOpen
    have unclosed : ¬ ClosedByServer n.server.kernel c := fun closed => closed.2 isOpen
    refine ⟨(coupled.connected c).mpr (by simp [accepted]), ?_, unclosed, more⟩
    by_contra closed
    exact unclosed (coupled.closed up c (by simpa using closed))
  · exact served.closedByServer
  · rintro ⟨accepted, -⟩
    exact (coupled.connected c).mpr ((served.unused c).not.mp (by simp [accepted]))

theorem client_simulation (c : ConnId) : Simulation system (fun _ _ => True) Client.system
    (fun _ _ => True) (fun _ n t => n.client c = t) (clientActions c) (own OfClient) := by
  constructor
  · rintro _ ⟨config, stdins, rfl⟩
    exact ⟨_, ⟨stdins c, rfl⟩, rfl⟩
  · rintro actions n a n' _ run rfl - taken
    have coupled := Coupled.run run
    cases a with
    | server a =>
        simp only [system, step, Option.ite_none_right_eq_some, Option.map_eq_some_iff] at taken
        obtain ⟨⟨up, ofServer⟩, s, taken, rfl⟩ := taken
        by_cases running : (n.clients c).fate = .running
        · obtain ⟨more, path, silent⟩ := coupled.served run up taken ofServer running
          refine ⟨more, _, client_refresh running ▸ path, System.meets_true, silent, ?_⟩
          simp [State.client, running]
        · refine ⟨[], _, rfl, trivial, rfl, ?_⟩
          simp [State.client, running]
    | client d a =>
        simp only [system, step, Option.ite_none_right_eq_some, Option.bind_eq_some_iff,
          Option.map_eq_some_iff] at taken
        obtain ⟨⟨-, ofClient, -⟩, s, taken, n', sent, rfl⟩ := taken
        have relayed := Relayed.transmit sent
        by_cases same : d = c
        · subst same
          exact ⟨[a], s, System.exec_singleton taken, System.meets_true,
            by simp [own, ofClient, clientActions], client_setClient taken ofClient relayed⟩
        · refine ⟨[], _, rfl, trivial, by simp [clientActions, same], client_congr ?_ relayed⟩
          have other : c ≠ d := fun equal => same equal.symm
          simp [State.setClient, other, (clients_transmit sent).1]
    | clientEnds d =>
        simp only [system, step, Option.ite_none_right_eq_some, Option.map_eq_some_iff] at taken
        obtain ⟨-, n', sent, rfl⟩ := taken
        have relayed := Relayed.transmit sent
        exact ⟨[], _, rfl, trivial, rfl,
          client_congr (congrFun (clients_transmit sent).1 c) relayed⟩
    | serverEnds =>
        simp only [system, step, require_eq_some] at taken
        obtain ⟨-, rfl⟩ := taken
        exact ⟨[], _, rfl, trivial, rfl, rfl⟩
    | hangUp d =>
        simp only [system, step, require_eq_some] at taken
        obtain ⟨⟨-, connected, running⟩, rfl⟩ := taken
        by_cases same : d = c
        · subst same
          rw [client_refresh running]
          refine ⟨[.server .close], _, exec_close running connected, System.meets_true,
            by simp [own, OfClient, clientActions], ?_⟩
          simp [State.client, State.hangUp, State.setClient, running, refresh]
        · have other : c ≠ d := fun equal => same equal.symm
          refine ⟨[], _, rfl, trivial, rfl, client_congr ?_ .refl⟩
          simp [State.hangUp, State.setClient, other]

theorem exists_clientRun {ok : State → Action → Prop} (run : system.RunWhere ok actions n)
    (c : ConnId) :
    ∃ clientRun, Client.system.Run clientRun (n.client c) ∧
      clientRun.flatMap (own OfClient) = actions.flatMap (clientActions c) := by
  obtain ⟨followed, _, there, same, rfl⟩ := (client_simulation c).run run.run
  exact ⟨followed, there, same⟩

end Usockit.Network
