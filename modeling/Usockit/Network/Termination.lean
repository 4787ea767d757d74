import Usockit.Client.Termination
import Usockit.Network.Relay
import Usockit.Server.Refusal

namespace Usockit.Network
open Foundation
open Server (ConnId)

variable {n n' : State} {actions : List Action} {c : ConnId}

/-! ## What the server adds to the steps of a client -/

theorem cost_own {a : Client.Action} :
    ((own OfClient a).map Client.Action.cost).sum = a.cost := by
  cases a with
  | server b => rfl
  | _ => exact Nat.add_zero _

theorem sum_own (f : Client.Action → Nat) (clientRun : List Client.Action) :
    ((clientRun.flatMap (own OfClient)).map f).sum =
      (clientRun.map fun a => ((own OfClient a).map f).sum).sum := by
  induction clientRun with
  | nil => rfl
  | cons a rest ih => simp [ih]

theorem credit_of_run {clientRun : List Client.Action} {s : Client.State}
    (run : Client.system.Run clientRun s) :
    (clientRun.map Client.Action.credit).sum = s.socket.fromServer.bytes.length +
      ((clientRun.flatMap (own OfClient)).map Client.Action.credit).sum := by
  refine run.invariant (I := fun clientRun s => (clientRun.map Client.Action.credit).sum =
    s.socket.fromServer.bytes.length +
      ((clientRun.flatMap (own OfClient)).map Client.Action.credit).sum) ?_ ?_
  · rintro _ ⟨stdin, rfl⟩
    rfl
  · intro clientRun s a s' _ before _ step
    have taken := (Client.system_step.mp step).2
    simp only [List.map_append, List.sum_append, List.flatMap_append, List.map_singleton,
      List.sum_singleton, List.flatMap_singleton, before]
    by_cases ofClient : OfClient a
    · have kept := (act_ownSocket taken ofClient).received
      simp only [own, ofClient, kept, ↓reduceIte, List.map_singleton, List.sum_singleton]
      omega
    · cases a with
      | server b =>
          simp only [Client.act, Option.map_eq_some_iff] at taken
          obtain ⟨socket, taken, rfl⟩ := taken
          cases b <;> simp only [Client.server, require_eq_some] at taken <;>
            obtain ⟨-, rfl⟩ := taken <;>
            simp only [own, ofClient, Client.Action.credit, List.length_append, ↓reduceIte,
              List.map_nil, List.sum_nil] <;> omega
      | _ => exact absurd trivial ofClient

/-! ## The steps that a client takes by itself -/

/-- Nothing can make client `c` wait: the server has closed, or cannot be reached. -/
def State.Detached (n : State) (c : ConnId) : Prop :=
  (n.client c).socket.serverClosed = true ∨ (n.clients c).socket.connected = false ∧ ¬ n.Up

theorem State.Detached.not_waited {a : Client.Action} {s : Client.State} (detached : n.Detached c)
    (run : system.Run actions n) (connects : ¬ n.Refuses a)
    (taken : Client.act (n.client c) a = some s) : a.waited = false := by
  refine Bool.eq_false_iff.mpr fun waited => ?_
  obtain ⟨clientRun, there, -⟩ := exists_clientRun run c
  have waits := Client.waits_of_waited there taken waited
  rcases detached with closed | ⟨unconnected, down⟩
  · simp [waits.unclosed] at closed
  · unfold Client.Action.waited at waited
    split at waited
    · exact connects ⟨rfl, down⟩
    · have here := (require_eq_some.mp taken).1.1
      have connected := (Client.Wired.run there).sending (by simp [here])
      simp [unconnected] at connected
    · cases waited

/-- A step of client `c` that counts brings it closer to its end. -/
structure Advances (c : ConnId) (a : Client.Action) (n n' : State) : Prop where
  counts : a.cost ≠ 0
  waits : a.waited = true → (n.client c).Waits ∧ ¬ n.Detached c
  taken : system.step n (.client c a) = some n'
  alive : n'.clientEnded c = false
  detached : n.Detached c → n'.Detached c
  closer : (n'.client c).potential < (n.client c).potential

/-- The step that the client can take is one of the network, or connect() fails. -/
theorem exists_advances (run : system.Run actions n) (alive : n.clientEnded c = false)
    (running : (n.client c).fate = .running)
    (unreturned : ∀ ret, (n.client c).main ≠ .returned ret) : ∃ a n', Advances c a n n' := by
  obtain ⟨clientRun, there, -⟩ := exists_clientRun run c
  obtain ⟨a, s, counts, connects, taken⟩ : ∃ a s, a.cost ≠ 0 ∧ ¬ n.Refuses a ∧
      Client.step (n.client c) a = some s := by
    obtain ⟨a, s, counts, -, taken⟩ := Client.moves there running unreturned
    by_cases refuses : n.Refuses a
    · obtain ⟨rfl, down⟩ := refuses
      have here := (require_eq_some.mp taken).1
      exact ⟨.main .connectFailed, _, by simp [Client.Action.cost], by simp [State.Refuses],
        Client.system_step.mpr ⟨running, require_eq_some.mpr ⟨here, rfl⟩⟩⟩
    · exact ⟨a, s, counts, refuses, Client.system_step.mpr ⟨running, taken⟩⟩
  have act := (Client.system_step.mp taken).2
  have ofClient : OfClient a := by
    cases a with
    | server b => exact absurd rfl counts
    | _ => trivial
  obtain ⟨n', sent, step, after⟩ := exists_clientStep run alive ofClient connects taken
  have socket := act_ownSocket act ofClient
  refine ⟨a, n'.setClient c s, counts, fun waited => ⟨Client.waits_of_waited there act waited, ?_⟩,
    step, ?_, ?_, ?_⟩
  · intro detached
    simp [detached.not_waited run connects act] at waited
  · exact (congrFun (clients_transmit sent).2 c).trans alive
  · unfold State.Detached
    rw [after, socket.serverClosed]
    refine Or.imp_right fun ⟨unconnected, down⟩ => ?_
    have stillDown : ¬ (n'.setClient c s).Up := mt (Up.transmit sent).mp down
    have noConnect : a ≠ .main .connect := fun connect => connects ⟨connect, down⟩
    refine ⟨?_, stillDown⟩
    have connected := socket.connected
    rw [connected_client] at connected
    simpa [State.setClient, unconnected, noConnect] using connected
  · rw [after]
    have paid := Client.potential.pays clientRun (n.client c) a s there taken
    rw [Client.credit_of_cost counts] at paid
    change a.cost + s.potential ≤ _ at paid
    change _ < Client.potential.value (n.client c)
    omega

def State.Ended (n : State) (c : ConnId) : Prop :=
  (∃ ret, (n.client c).main = .returned ret) ∨ (n.client c).fate ≠ .running

theorem exists_end (run : system.Run actions n) (alive : n.clientEnded c = false) :
    ∃ more n', system.exec n more = some n' ∧ n'.Ended c ∧
      ∀ b ∈ more, ∃ a, b = .client c a ∧ a.cost ≠ 0 ∧ (n.Detached c → a.waited = false) := by
  have reached := System.exists_exec_of_rank (M := system)
    (p := fun b => ∃ a, b = .client c a ∧ a.cost ≠ 0 ∧ (n.Detached c → a.waited = false))
    (I := fun actions m => system.Run actions m ∧ m.clientEnded c = false ∧
      (n.Detached c → m.Detached c))
    (g := fun m => m.Ended c) (fun m => (m.client c).potential) ?_ ⟨run, alive, id⟩
  · obtain ⟨more, n', path, own, -, ended⟩ := reached
    exact ⟨more, n', path, ended, own⟩
  · rintro actions m ⟨run, alive, detached⟩ going
    obtain ⟨unreturned, running⟩ := not_or.mp going
    obtain ⟨a, m', advances⟩ := exists_advances run alive (not_not.mp running)
      fun ret returned => unreturned ⟨ret, returned⟩
    refine ⟨_, m', ⟨a, rfl, advances.counts, fun before => ?_⟩, advances.taken,
      ⟨.snoc run trivial advances.taken, advances.alive, advances.detached ∘ detached⟩,
      advances.closer⟩
    exact Bool.eq_false_iff.mpr fun waited => (advances.waits waited).2 (detached before)

/-! ## Every client ends -/

/-- What client `c` does is bounded by its input, by what the server has sent it and by its
spurious wake-ups. Only connect() and write() can make it wait, and that only until the server
accepts and reads, closes or ends. -/
structure ClientEnds (actions : List Action) (n : State) (c : ConnId) : Prop where
  bounded : ((actions.flatMap (clientActions c)).map Client.Action.cost).sum ≤
    801 + (n.connection c).received.length + 3 * (n.clients c).stdin.bytes.length +
      ((actions.flatMap (clientActions c)).map Client.Action.credit).sum
  moves : n.clientEnded c = false → ¬ n.Ended c →
    (n.client c).Waits ∧ ¬ n.Detached c ∨
    ∃ a n', a.cost ≠ 0 ∧ a.waited = false ∧ system.step n (.client c a) = some n'
  ends : n.clientEnded c = false → ∃ more n', system.exec n more = some n' ∧ n'.Ended c ∧
    ∀ b ∈ more, ∃ a, b = .client c a ∧ a.cost ≠ 0 ∧
      (a.waited = true → (n.client c).socket.serverClosed = false)
  gone : n.clientEnded c = false → ¬ n.Up → ∃ more n', system.exec n more = some n' ∧
    n'.Ended c ∧ ∀ b ∈ more, b = .hangUp c ∨ ∃ a, b = .client c a ∧ a.cost ≠ 0 ∧ a.waited = false

theorem exists_end_gone (run : system.Run actions n) (alive : n.clientEnded c = false)
    (down : ¬ n.Up) : ∃ more n', system.exec n more = some n' ∧ n'.Ended c ∧
      ∀ b ∈ more, b = .hangUp c ∨ ∃ a, b = .client c a ∧ a.cost ≠ 0 ∧ a.waited = false := by
  by_cases detached : n.Detached c
  · obtain ⟨more, n', path, ended, own⟩ := exists_end run alive
    refine ⟨more, n', path, ended, fun b member => .inr ?_⟩
    obtain ⟨a, rfl, counts, waited⟩ := own b member
    exact ⟨a, rfl, counts, waited detached⟩
  · obtain ⟨-, stays⟩ := not_or.mp detached
    have connected : (n.clients c).socket.connected = true := by simpa [down] using stays
    by_cases running : (n.clients c).fate = .running
    · have hangsUp : system.step n (.hangUp c) = some (n.hangUp c) :=
        require_eq_some.mpr ⟨⟨down, connected, running⟩, rfl⟩
      have closed : (n.hangUp c).Detached c := by
        left
        simp [State.client, State.hangUp, State.setClient, running, refresh]
      obtain ⟨more, n', path, ended, own⟩ := exists_end (.snoc run trivial hangsUp) alive
      have path := System.exec_trans (System.exec_singleton hangsUp) path
      refine ⟨[.hangUp c] ++ more, n', path, ended, fun b member => ?_⟩
      rcases List.mem_cons.mp member with now | later
      · exact .inl now
      · obtain ⟨a, rfl, counts, waited⟩ := own b later
        exact .inr ⟨a, rfl, counts, waited closed⟩
    · exact ⟨[], n, rfl, .inr (by simp [State.client, running]), by simp⟩

end Usockit.Network
