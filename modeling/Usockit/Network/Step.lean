import Usockit.Server.Step
import Usockit.Client.Step

namespace Usockit.Network
open Foundation
open Server (ConnId)

/-! ## A server and the clients that connect to its socket -/

/-- Connection `c` of the server is the one of the process `clients c`. What this client knows of
its socket is brought up to date when it takes a step. -/
structure State where
  server : Server.State
  serverEnded : Bool
  clients : ConnId → Client.State
  clientEnded : ConnId → Bool

def State.start (config : Server.Config) (stdins : ConnId → List Byte) : State where
  server := .start config
  serverEnded := false
  clients c := .start (stdins c)
  clientEnded _ := false

/-- The server's process exists. -/
def State.Up (n : State) : Prop := n.serverEnded = false ∧ n.server.killed = false

instance (n : State) : Decidable n.Up := inferInstanceAs (Decidable (_ ∧ _))

/-- A connection that waits to be accepted is open as long as the server's process exists. -/
def ClosedByServer (k : Server.Kernel) (c : ConnId) : Prop :=
  (k.connections c).phase = .accepted ∧ ¬ k.Open (.connection c)

instance (k : Server.Kernel) (c : ConnId) : Decidable (ClosedByServer k c) :=
  inferInstanceAs (Decidable (_ ∧ _))

/-- The client's end of connection `c`, as far as the server determines it. -/
def refresh (k : Server.Kernel) (c : ConnId) (s : Client.State) : Client.State :=
  { s with
    socket := { s.socket with
      fromServer := { s.socket.fromServer with bytes := (k.connections c).received }
      serverClosed := s.socket.serverClosed || decide (ClosedByServer k c) } }

/-- Nothing reaches a process that a signal or abort() has ended. -/
def State.client (n : State) (c : ConnId) : Client.State :=
  if (n.clients c).fate = .running then refresh n.server.kernel c (n.clients c) else n.clients c

/-! ## What the server's kernel gets to know of a client -/

def closeAction (c : ConnId) (s : Client.State) : Option Server.ClientAction :=
  if s.socket.connected then some (.close c) else none

def socketAction (c : ConnId) (s : Client.State) : Client.Action → Option Server.ClientAction
  | .main .connect => some (.connect c)
  | .main (.closeSocket _) => closeAction c s
  | .sendingThread (.wrote w k) => some (.send c (w.offered.take k))
  | _ => none

/-- When the server's process has ended, what a client does to its socket concerns only itself. -/
def State.transmit (n : State) : Option Server.ClientAction → Option State
  | some a =>
      if n.Up then
        (Server.step n.server (.client a)).map fun server => { n with server := server }
      else some n
  | none => some n

/-! ## The network -/

inductive Action
  | server (a : Server.Action)
  | client (c : ConnId) (a : Client.Action)
  -- A process exits or is ended by a signal, at any time.
  | serverEnds
  | clientEnds (c : ConnId)
  -- The kernel closes the server's end of a connection after the end of the process.
  | hangUp (c : ConnId)
  deriving DecidableEq

/-- The steps that are not taken for the server by its clients. -/
def OfServer : Server.Action → Prop
  | .client _ => False
  | _ => True

/-- The steps that are not taken for a client by the server. -/
def OfClient : Client.Action → Prop
  | .server _ => False
  | _ => True

instance : ∀ a, Decidable (OfServer a)
  | .client _ => inferInstanceAs (Decidable False)
  | .setupThreads _ | .setupChild _ | .parent _ | .childWait _ | .accept _ | .clientConnection _
  | .child _ => inferInstanceAs (Decidable True)

instance : ∀ a, Decidable (OfClient a)
  | .server _ => inferInstanceAs (Decidable False)
  | .main _ | .receivingThread _ | .sendingThread _ => inferInstanceAs (Decidable True)

/-- connect() is refused when nobody listens any more. -/
def State.Refuses (n : State) (a : Client.Action) : Prop := a = .main .connect ∧ ¬ n.Up

instance (n : State) (a : Client.Action) : Decidable (n.Refuses a) :=
  inferInstanceAs (Decidable (_ ∧ _))

def State.setClient (n : State) (c : ConnId) (s : Client.State) : State :=
  { n with clients := Function.update n.clients c s }

def State.hangUp (n : State) (c : ConnId) : State :=
  n.setClient c { n.clients c with socket := { (n.clients c).socket with serverClosed := true } }

def step (n : State) : Action → Option State
  | .server a =>
      if n.Up ∧ OfServer a then
        (Server.step n.server a).map fun server => { n with server := server }
      else none
  | .client c a =>
      if n.clientEnded c = false ∧ OfClient a ∧ ¬ n.Refuses a then
        (Client.step (n.client c) a).bind fun s =>
          (n.transmit (socketAction c (n.client c) a)).map fun n => n.setClient c s
      else none
  | .serverEnds => require (n.serverEnded = false) { n with serverEnded := true }
  | .clientEnds c =>
      if n.clientEnded c = false then
        (n.transmit (closeAction c (n.clients c))).map fun n =>
          { n with clientEnded := Function.update n.clientEnded c true }
      else none
  | .hangUp c =>
      require (¬ n.Up ∧ (n.clients c).socket.connected = true ∧ (n.clients c).fate = .running)
        (n.hangUp c)

def system : System State Action where
  initial n := ∃ config stdins, n = .start config stdins
  step := step

end Usockit.Network
