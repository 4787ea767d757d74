import Usockit.Network.Relay
import Usockit.Server.ConsoleRefinement

namespace Usockit.Network
open Foundation
open Server (ConnId)

variable {n : State} {actions : List Action}

/-! ## One console for all clients -/

def events (actions : List Action) : List (Console.Event ConnId) :=
  (actions.flatMap serverActions).flatMap fun a => a.event.toList

/-- `t` is what the clients see of the server: each offers a part of its standard input. -/
structure OneConsole (actions : List Action) (n : State) (t : Console.State ConnId Byte) :
    Prop where
  reached : ∃ followed, Console.system.Run followed t ∧
    followed.flatMap Console.Action.shown = events actions
  exclusive : Console.Exclusive t
  output : t.output = n.server.kernel.mainPipe
  inputs : ∀ c, t.inputs c <+: (n.clients c).stdin.bytes
  holder : t.holder = n.server.clientReady.clientFd.map Server.ClientFd.connection
  refused : ∀ c, (n.clients c).main = .returned .successFuckOff → c ∈ t.refused
  served : ∀ c fd, Action.server (.clientConnection (.readEof fd c)) ∈ actions →
    (n.clients c).main = .returned .successEof →
    c ∈ t.served ∧ t.portion c = (n.clients c).stdin.bytes

theorem event_of_not_ofServer {a : Server.Action} (silent : ¬ OfServer a) : a.event = none := by
  cases a with
  | client b => rfl
  | _ => exact absurd trivial silent

theorem events_own (serverRun : List Server.Action) :
    serverRun.flatMap (fun a => a.event.toList) =
      (serverRun.flatMap (own OfServer)).flatMap fun a => a.event.toList := by
  rw [List.flatMap_assoc]
  refine congrArg (serverRun.flatMap ·) (funext fun a => ?_)
  unfold own
  split
  · simp
  · next silent => simp [event_of_not_ofServer silent]

theorem mem_serverRun {serverRun : List Server.Action} {a : Server.Action}
    (same : serverRun.flatMap (own OfServer) = actions.flatMap serverActions)
    (here : Action.server a ∈ actions) : a ∈ serverRun := by
  have listed : a ∈ actions.flatMap serverActions :=
    List.mem_flatMap.mpr ⟨_, here, by simp [serverActions]⟩
  rw [← same, List.mem_flatMap] at listed
  obtain ⟨b, member, same⟩ := listed
  unfold own at same
  split at same
  · exact List.mem_singleton.mp same ▸ member
  · cases same

theorem oneConsole {ok : State → Action → Prop} {serverRun : List Server.Action}
    (run : system.RunWhere ok actions n)
    (there : Server.system.RunWhere Server.SparesPeers serverRun n.server)
    (same : serverRun.flatMap (own OfServer) = actions.flatMap serverActions) :
    OneConsole actions n (Server.console serverRun n.server) := by
  obtain ⟨followed, _, reached, shown, rfl⟩ :=
    Server.refines_console.run (there.mono fun _ _ => Server.SparesPeers.stdin)
  have coupled := Coupled.run run
  refine ⟨⟨followed, reached, ?_⟩, .run reached, rfl, fun c => ?_, rfl, fun c returned => ?_, ?_⟩
  · rw [shown, events_own, same, events]
  · obtain ⟨clientRun, client, -⟩ := exists_clientRun run c
    have forwarded := (Client.Forwarding.run client).sent
    rw [stdin_client, toServer_client] at forwarded
    exact (coupled.sent c).trans forwarded
  · obtain ⟨clientRun, client, -⟩ := exists_clientRun run c
    have received := Client.received_of_successFuckOff client (main_client ▸ returned)
    obtain ⟨fd, same, refused⟩ := ((Server.RejectsOnly.run there).received c).2 fun nothing =>
      received (List.prefix_nil.mp (nothing ▸ coupled.received_client c))
    exact Server.mem_refusals.mpr ⟨fd, refused, same⟩
  · intro c fd eof returned
    obtain ⟨session, logged, rfl, ended⟩ :=
      Server.session_of_readEof there.run fd c (mem_serverRun same eof)
    have ledger := Server.Ledger.run there
    obtain ⟨shutdown, whole⟩ := ledger.whole session logged ended
    obtain ⟨clientRun, client, -⟩ := exists_clientRun run session.fd.connection
    have sent := Client.sent_of_successEof client (main_client ▸ returned)
    rw [stdin_client, toServer_client, ← (Finished.run run.run).sent _ shutdown] at sent
    refine ⟨List.mem_map.mpr ⟨session, List.mem_reverse.mpr logged, rfl⟩, ?_⟩
    change (n.connection _).sent.take (Server.written (Server.sessionLog serverRun) _) = _
    rw [Server.written_of_mem ledger.distinct logged, whole, ← sent]
    exact List.take_length

theorem network_provides_console
    (run : system.RunWhere (ServerMeets Server.SparesPeers) actions n) :
    ∃ t, OneConsole actions n t := by
  obtain ⟨serverRun, there, same⟩ := exists_serverRunWhere Server.SparesPeers.client run
  exact ⟨_, oneConsole run there same⟩

theorem network_provides_console_wholeSession :
    ∃ n t, system.exec (.start .shell fun _ => [104, 105]) wholeSession = some n ∧
      (n.clients 0).main = .returned .successEof ∧ OneConsole wholeSession n t ∧
      t.portion 0 = [104, 105] := by
  obtain ⟨n, path, returned, stdin⟩ : ∃ n,
      system.exec (.start .shell fun _ => [104, 105]) wholeSession = some n ∧
        (n.clients 0).main = .returned .successEof ∧ (n.clients 0).stdin.bytes = [104, 105] :=
    System.exists_exec (by decide +kernel)
  obtain ⟨t, console⟩ := network_provides_console
    (System.runWhere_of_exec ⟨_, _, rfl⟩ path (by decide +kernel))
  have read := console.served 0 ⟨4, 0⟩ (by decide) returned
  exact ⟨n, t, path, returned, console, read.2.trans stdin⟩

end Usockit.Network
