import Usockit.Console
import Usockit.Foundation.Simulation
import Usockit.Server.Integrity
import Usockit.Server.Refusal

namespace Usockit.Server
open Foundation Kernel

variable {s s' : State} {actions : List Action} {a : Action} {log : List Session}

/-! ## The console that a server provides -/

/-- A client claims the console when its descriptor is stored in the slot. -/
def Action.claim : Action → Option ConnId
  | .accept (.store fd) => some fd.connection
  | _ => none

def Action.refusal : Action → Option ConnId
  | .accept (.slotTaken fd) => some fd.connection
  | _ => none

def Action.event : Action → Option (Console.Event ConnId)
  | .accept (.store fd) => some (.claim fd.connection)
  | .accept (.slotTaken fd) => some (.refuse fd.connection)
  | .clientConnection (.take fd) => some (.serve fd.connection)
  | .clientConnection (.wrote _ _ k) => some (.forward k)
  | .clientConnection (.cleanupStore _ _) => some .finish
  | _ => none

def written (log : List Session) (c : ConnId) : Nat :=
  ((log.find? fun session => session.fd.connection = c).map fun session =>
    session.written.length).getD 0

theorem written_cons (session : Session) (rest : List Session) (c : ConnId) :
    written (session :: rest) c =
      if session.fd.connection = c then session.written.length else written rest c := by
  by_cases same : session.fd.connection = c <;> simp [written, same]

theorem written_of_not_mem {c : ConnId} (absent : ∀ session ∈ log, session.fd.connection ≠ c) :
    written log c = 0 := by
  have none : log.find? (fun session => session.fd.connection = c) = none := by
    simpa using absent
  simp [written, none]

theorem written_of_mem {session : Session}
    (distinct : (log.map fun session => session.fd.connection).Nodup) (logged : session ∈ log) :
    written log session.fd.connection = session.written.length := by
  induction log with
  | nil => cases logged
  | cons first rest ih =>
      rw [List.map_cons, List.nodup_cons] at distinct
      rw [written_cons]
      rcases List.mem_cons.mp logged with rfl | later
      · rw [if_pos rfl]
      · have other : first.fd.connection ≠ session.fd.connection := fun same =>
          distinct.1 (List.mem_map.mpr ⟨session, later, same.symm⟩)
        rw [if_neg other, ih distinct.2 later]

def console (actions : List Action) (s : State) : Console.State ConnId Byte where
  inputs c := (s.kernel.connections c).sent
  holder := s.clientReady.clientFd.map ClientFd.connection
  serving := s.clientConnection.serving
  claimed := actions.filterMap Action.claim
  served := (sessions actions).map fun session => session.fd.connection
  refused := actions.filterMap Action.refusal
  consumed := written (sessionLog actions)
  output := s.kernel.mainPipe

/-! ## The steps without an event -/

theorem record_silent (log : List Session) (silent : a.event = none) :
    written (Session.record log a) = written log ∧
      (Session.record log a).map (fun session => session.fd.connection) =
        log.map fun session => session.fd.connection := by
  unfold Session.record
  split
  case h_1 | h_2 => simp [Action.event] at silent
  case h_3 =>
    cases log with
    | nil => exact ⟨rfl, rfl⟩
    | cons session rest =>
        refine ⟨?_, rfl⟩
        funext c
        rw [List.modifyHead_cons, written_cons, written_cons]
  case h_4 => exact ⟨rfl, rfl⟩

theorem silent_claim (silent : a.event = none) : a.claim = none ∧ a.refusal = none := by
  unfold Action.claim Action.refusal
  constructor <;> split
  case h_1 | h_1 => simp [Action.event] at silent
  case h_2 | h_2 => rfl

theorem console_silent (silent : a.event = none)
    (sent : ∀ c, (s'.kernel.connections c).sent = (s.kernel.connections c).sent)
    (slot : s'.clientReady.clientFd = s.clientReady.clientFd)
    (serving : s'.clientConnection.serving = s.clientConnection.serving)
    (mainPipe : s'.kernel.mainPipe = s.kernel.mainPipe) :
    console (actions ++ [a]) s' = console actions s := by
  obtain ⟨consumed, served⟩ := record_silent (sessionLog actions) silent
  obtain ⟨claim, refusal⟩ := silent_claim silent
  simp [console, sessions, sent, slot, serving, mainPipe, claim, refusal, consumed, served]

theorem act_serving {ok : State → Action → Prop} (run : system.RunWhere ok actions s)
    (taken : act s a = some s') (other : ∀ b, a ≠ .clientConnection b) :
    s'.clientConnection.serving = s.clientConnection.serving := by
  rcases act_sameClientConnection taken other with same | same | ⟨main, same⟩
  · rw [same]
  · rw [same, ClientConnectionPc.serving_signalled]
  · have fresh : s.clientConnection = .notCreated :=
      (Lifecycle.run run).notCreated .clientConnection (by simp [main, MainPc.toCreate])
    simp [same, fresh]

/-! ## The steps with an event -/

theorem mem_claims {c : ConnId} :
    c ∈ actions.filterMap Action.claim ↔ ∃ fd, Stored actions fd ∧ fd.connection = c := by
  rw [List.mem_filterMap]
  constructor
  · rintro ⟨a, here, claims⟩
    unfold Action.claim at claims
    split at claims
    · exact ⟨_, here, Option.some.inj claims⟩
    · cases claims
  · rintro ⟨fd, stored, rfl⟩
    exact ⟨_, stored, rfl⟩

theorem mem_refusals {c : ConnId} :
    c ∈ actions.filterMap Action.refusal ↔ ∃ fd, Refused actions fd ∧ fd.connection = c := by
  rw [List.mem_filterMap]
  constructor
  · rintro ⟨a, here, refuses⟩
    unfold Action.refusal at refuses
    split at refuses
    · exact ⟨_, here, Option.some.inj refuses⟩
    · cases refuses
  · rintro ⟨fd, refused, rfl⟩
    exact ⟨_, refused, rfl⟩

theorem fresh_of_forall {p : ClientFd → Prop} {fd : ClientFd}
    (others : ∀ d, p d → d.connection ≠ fd.connection) :
    ¬ ∃ d, p d ∧ d.connection = fd.connection := fun ⟨d, here, same⟩ => others d here same

/-- Nobody is being served while the accept thread stores a descriptor. -/
theorem not_serving_of_store {ok : State → Action → Prop} {fd : ClientFd}
    (run : system.RunWhere ok actions s) (here : s.accept = .store fd) :
    s.clientConnection.serving = false := by
  by_contra serving
  have owned := ClientReadyOwned.run run
  have mutex := owned.accept.mpr (by simp [here])
  simp [owned.held (ClientConnectionPc.holds_of_serving (by simpa using serving))] at mutex

theorem console_claim {ok : State → Action → Prop} {fd : ClientFd}
    (run : system.RunWhere ok actions s)
    (taken : act s (.accept (.store fd)) = some s') :
    Console.happen (console actions s) (.claim fd.connection) =
      some (console (actions ++ [.accept (.store fd)]) s') := by
  simp only [act, threadRoutineAccept, require_eq_some] at taken
  obtain ⟨here, rfl⟩ := taken
  have unclaimed := ((Handoff.run run).unpublished fd (by simp [here])).2
  have welcome := (Refusal.run run).undecided fd (by simp [here])
  refine require_eq_some.mpr ⟨⟨not_serving_of_store run here, ?_, ?_⟩, ?_⟩
  · exact mem_claims.not.mpr (fresh_of_forall unclaimed)
  · exact mem_refusals.not.mpr (fresh_of_forall welcome)
  · simp [console, Action.claim, Action.refusal, sessions, Session.record]

theorem console_refuse {ok : State → Action → Prop} {fd : ClientFd}
    (run : system.RunWhere ok actions s)
    (taken : act s (.accept (.slotTaken fd)) = some s') :
    Console.happen (console actions s) (.refuse fd.connection) =
      some (console (actions ++ [.accept (.slotTaken fd)]) s') := by
  simp only [act, threadRoutineAccept, require_eq_some] at taken
  obtain ⟨⟨here, occupied⟩, rfl⟩ := taken
  have unclaimed := ((Handoff.run run).unpublished fd (by simp [here])).2
  have fresh := (Refusal.run run).undecided fd (by simp [here])
  refine require_eq_some.mpr ⟨⟨by simpa [console] using occupied, ?_, ?_⟩, ?_⟩
  · exact mem_claims.not.mpr (fresh_of_forall unclaimed)
  · exact mem_refusals.not.mpr (fresh_of_forall fresh)
  · simp [console, Action.claim, Action.refusal, sessions, Session.record]

theorem console_serve {ok : State → Action → Prop} {fd : ClientFd}
    (run : system.RunWhere ok actions s)
    (step : system.step s (.clientConnection (.take fd)) = some s') :
    Console.happen (console actions s) (.serve fd.connection) =
      some (console (actions ++ [.clientConnection (.take fd)]) s') := by
  have ledger := Ledger.run (.snoc run.run trivial step)
  have taken := (system_step.mp step).2
  simp only [act, threadRoutineClientConnection, require_eq_some] at taken
  obtain ⟨⟨here, slot⟩, rfl⟩ := taken
  refine require_eq_some.mpr ⟨⟨by simp [console, here], by simp [console, slot]⟩, ?_⟩
  have fresh : written (sessionLog actions) fd.connection = 0 := by
    have distinct := ledger.distinct
    simp only [sessionLog_snoc, Session.record, List.map_cons, List.nodup_cons, List.mem_map,
      not_exists, not_and] at distinct
    exact written_of_not_mem distinct.1
  have consumed : written (⟨fd, [], false⟩ :: sessionLog actions) =
      written (sessionLog actions) := by
    funext c
    rw [written_cons]
    split
    · next same => rw [← same, fresh, List.length_nil]
    · rfl
  simp [console, Action.claim, Action.refusal, sessions, Session.record, consumed]

theorem console_finish {fd : Option ClientFd} {cancelled : Bool}
    (taken : act s (.clientConnection (.cleanupStore fd cancelled)) = some s') :
    Console.happen (console actions s) .finish =
      some (console (actions ++ [.clientConnection (.cleanupStore fd cancelled)]) s') := by
  simp only [act, threadRoutineClientConnection, require_eq_some] at taken
  obtain ⟨here, rfl⟩ := taken
  refine require_eq_some.mpr ⟨by simp [console, here], ?_⟩
  simp [console, Action.claim, Action.refusal, sessions, Session.record]

theorem console_forward {ok : State → Action → Prop} {w : WriteAll} {f : File} {k : Nat}
    (run : system.RunWhere ok actions s)
    (taken : act s (.clientConnection (.wrote w f k)) = some s') :
    Console.happen (console actions s) (.forward k) =
      some (console (actions ++ [.clientConnection (.wrote w f k)]) s') := by
  simp only [act, threadRoutineClientConnection, require_eq_some] at taken
  obtain ⟨⟨here, file, -, enough⟩, rfl⟩ := taken
  obtain rfl := clientConnection_file run here file
  obtain ⟨session, rest, log, slot, -, sum⟩ := (Ledger.run run).current w.offered (by simp [here])
  have consumed : written (sessionLog actions) session.fd.connection = session.written.length := by
    simp [log, written_cons]
  obtain ⟨more, next⟩ : ∃ more,
      (console actions s).next session.fd.connection = w.offered ++ more := by
    obtain ⟨more, whole⟩ := sum ▸ List.take_prefix (s.connectionOf session).readc
      (s.connectionOf session).sent
    refine ⟨more, ?_⟩
    change (s.connectionOf session).sent.drop (written (sessionLog actions) _) = _
    rw [consumed, ← whole, List.append_assoc, List.drop_left]
  refine Option.bind_eq_some_iff.mpr ⟨session.fd.connection, by simp [console, slot], ?_⟩
  refine require_eq_some.mpr ⟨⟨by simp [console, here], ?_⟩, ?_⟩
  · rw [next, List.length_append]
    omega
  · have after : written (⟨session.fd, session.written ++ w.offered.take k, session.eof⟩ :: rest) =
        Function.update (written (sessionLog actions)) session.fd.connection
          (session.written.length + k) := by
      funext c
      rw [written_cons, log]
      by_cases same : session.fd.connection = c
      · subst same
        simp [enough]
      · have other : c ≠ session.fd.connection := fun equal => same equal.symm
        simp [written_cons, same, other]
    rw [next, List.take_append_of_le_length enough]
    simp only [console, Action.claim, sessions, log, List.reverse_cons, List.map_append,
      List.map_reverse, List.map_cons, List.map_nil, Action.refusal, deliver,
      ClientConnectionPc.serving_afterWrite, List.filterMap_append, sessionLog_snoc,
      Session.record, List.modifyHead_cons, after, Console.State.mk.injEq,
      List.self_eq_append_right, List.filterMap_eq_nil_iff, List.mem_cons, List.not_mem_nil,
      or_false, forall_eq, and_true, true_and]
    exact ⟨by simp [here], by rw [written_cons, if_pos rfl]⟩

/-! ## The refinement -/

theorem mainPipe_client {b : ClientAction} {k k' : Kernel} (taken : client k b = some k') :
    k'.mainPipe = k.mainPipe := by
  cases b <;> simp only [client, require_eq_some] at taken <;> obtain ⟨-, rfl⟩ := taken <;> rfl

theorem console_offer {b : ClientAction} {k : Kernel} (actions : List Action)
    (taken : client s.kernel b = some k) :
    ∃ more, Console.system.exec (console actions s) more =
        some (console (actions ++ [.client b]) { s with kernel := k }) ∧
      more.flatMap Console.Action.shown = [] := by
  by_cases sends : ∃ c bytes, b = .send c bytes
  · obtain ⟨c, bytes, rfl⟩ := sends
    simp only [client, require_eq_some] at taken
    obtain ⟨-, rfl⟩ := taken
    refine ⟨[.offer c bytes], System.exec_singleton ?_, rfl⟩
    simp only [Console.system, console, Action.claim, sessions, List.map_reverse, Action.refusal,
      Console.step, connections_setConnection, List.filterMap_append, sessionLog_snoc,
      Session.record, mainPipe_setConnection, Option.some.injEq, Console.State.mk.injEq,
      List.self_eq_append_right, List.filterMap_eq_nil_iff, List.mem_cons, List.not_mem_nil,
      or_false, forall_eq, and_self, and_true]
    funext d
    by_cases same : d = c <;> simp [same]
  · have payload : b.payload = [] := by
      cases b
      case send c bytes => exact absurd ⟨c, bytes, rfl⟩ sends
      all_goals rfl
    have same : console (actions ++ [.client b]) { s with kernel := k } = console actions s := by
      refine console_silent rfl (fun c => ?_) rfl rfl (mainPipe_client taken)
      by_cases other : c = b.target
      · rw [other, (client_target taken).2.2, payload, List.append_nil]
      · rw [client_others taken other]
    exact ⟨[], congrArg some same.symm, rfl⟩

theorem console_event {ok : State → Action → Prop} {e : Console.Event ConnId}
    (run : system.RunWhere ok actions s)
    (step : system.step s a = some s') (event : a.event = some e) :
    Console.happen (console actions s) e = some (console (actions ++ [a]) s') := by
  have taken := (system_step.mp step).2
  unfold Action.event at event
  split at event
  case h_1 => exact Option.some.inj event ▸ console_claim run taken
  case h_2 => exact Option.some.inj event ▸ console_refuse run taken
  case h_3 => exact Option.some.inj event ▸ console_serve run step
  case h_4 => exact Option.some.inj event ▸ console_forward run taken
  case h_5 => exact Option.some.inj event ▸ console_finish taken
  case h_6 => cases event

theorem console_unchanged {ok : State → Action → Prop} (run : system.RunWhere ok actions s)
    (spares : SparesStdin s a) (taken : act s a = some s') (silent : a.event = none)
    (server : ∀ b, a ≠ .client b) :
    console (actions ++ [a]) s' = console actions s := by
  have sent : ∀ c, (s'.kernel.connections c).sent = (s.kernel.connections c).sent :=
    fun c => (act_handled taken server c).sent
  cases a with
  | clientConnection a =>
      cases a <;> simp only [act, threadRoutineClientConnection, require_eq_some] at taken <;>
        obtain ⟨guard, rfl⟩ := taken
      case take | wrote | cleanupStore => simp [Action.event] at silent
      all_goals exact console_silent silent sent rfl (by simp [guard]) (by simp)
  | accept a =>
      have serving := act_serving run taken (by simp)
      have mainPipe := act_mainPipe run spares taken (by simp)
      refine console_silent silent sent ?_ serving mainPipe
      cases a <;> simp only [act, threadRoutineAccept, require_eq_some,
        Option.ite_none_right_eq_some, Option.map_eq_some_iff] at taken
      case waitForChildReady =>
        obtain ⟨-, r, -, rfl⟩ := taken
        rfl
      case store => simp [Action.event] at silent
      all_goals
        obtain ⟨-, rfl⟩ := taken
        rfl
  | client b => exact absurd rfl (server b)
  | setupThreads | setupChild | parent | childWait | child =>
      refine console_silent silent sent ?_ (act_serving run taken (by simp))
        (act_mainPipe run spares taken (by simp))
      rw [(act_sameHandoff taken id).clientReady]

theorem refines_console : Simulation system SparesStdin Console.system (fun _ _ => True)
    (fun actions s t => t = console actions s) (fun a => a.event.toList) Console.Action.shown := by
  constructor
  · rintro _ ⟨config, rfl⟩
    exact ⟨_, rfl, rfl⟩
  · rintro actions s a s' _ run rfl spares step
    cases event : a.event with
    | some e =>
        have happens := console_event run step event
        exact ⟨[.event e], _, System.exec_singleton happens, System.meets_true, rfl, rfl⟩
    | none =>
        have taken := (system_step.mp step).2
        by_cases client : ∃ b, a = .client b
        · obtain ⟨b, rfl⟩ := client
          simp only [act, Option.map_eq_some_iff] at taken
          obtain ⟨k, taken, rfl⟩ := taken
          obtain ⟨more, path, shown⟩ := console_offer actions taken
          exact ⟨more, _, path, System.meets_true, shown, rfl⟩
        · refine ⟨[], _, rfl, trivial, rfl, ?_⟩
          exact (console_unchanged run spares taken event fun b equal => client ⟨b, equal⟩).symm

/-! ## Sessions that ended with the client's stream -/

theorem Session.record_eof {c : ConnId} {session : Session} (logged : session ∈ log)
    (same : session.fd.connection = c) (eof : session.eof = true) :
    ∃ session ∈ Session.record log a, session.fd.connection = c ∧ session.eof = true := by
  have head : ∀ f : Session → Session,
      (∀ session, (f session).fd = session.fd ∧ (session.eof = true → (f session).eof = true)) →
      ∃ session ∈ log.modifyHead f, session.fd.connection = c ∧ session.eof = true := by
    intro f kept
    cases log with
    | nil => cases logged
    | cons first rest =>
        rcases List.mem_cons.mp logged with rfl | later
        · exact ⟨f session, by simp, by rw [(kept session).1, same], (kept session).2 eof⟩
        · exact ⟨session, by simp [later], same, eof⟩
  unfold Session.record
  split
  · exact ⟨session, .tail _ logged, same, eof⟩
  · exact head _ fun session => ⟨rfl, id⟩
  · exact head _ fun session => ⟨rfl, fun _ => rfl⟩
  · exact ⟨session, logged, same, eof⟩

theorem session_of_readEof (run : system.Run actions s) :
    ∀ fd c, .clientConnection (.readEof fd c) ∈ actions →
      ∃ session ∈ sessionLog actions, session.fd.connection = c ∧ session.eof = true := by
  induction run with
  | start => simp
  | @snoc actions s a s' run _ step ih =>
      intro fd c here
      rw [sessionLog_snoc]
      rcases List.mem_append.mp here with before | now
      · obtain ⟨session, logged, same, eof⟩ := ih fd c before
        exact Session.record_eof logged same eof
      · obtain rfl := List.mem_singleton.mp now
        have taken := (system_step.mp step).2
        simp only [act, threadRoutineClientConnection, require_eq_some] at taken
        obtain ⟨⟨reading, file, -⟩, -⟩ := taken
        obtain ⟨session, rest, log, slot, -⟩ := (Ledger.run run).current [] (by simp [reading])
        have current : s.clientReady.clientFd = some fd :=
          (Handoff.run run).loaded (some fd) (by simp [reading])
        obtain rfl := Option.some.inj (current.symm.trans slot)
        have connection : session.fd.connection = c := by
          rcases (Descriptors.run run).held session.fd (.inl slot) with refers | ⟨closed, -⟩
          · simpa [State.Refers, file, eq_comm] using refers
          · simp [State.Closed, file] at closed
        exact ⟨{ session with eof := true }, by simp [Session.record, log], connection, rfl⟩

/-! ## One client at a time -/

/-- The server behaves like the console of its clients. What it writes to them is the rejection of
those whom it refuses, or less of it. -/
structure ProvidesConsole (actions : List Action) (s : State) : Prop where
  reached : ∃ followed, Console.system.Run followed (console actions s) ∧
    followed.flatMap Console.Action.shown = actions.flatMap fun a => a.event.toList
  exclusive : Console.Exclusive (console actions s)
  received : ∀ c, s.received c <+: rejection ∧
    (s.received c ≠ [] → c ∈ (console actions s).refused)

/-- An error that is reported through descriptor 2 must not reach a client or the child. -/
theorem server_provides_console (run : system.RunWhere SparesPeers actions s) :
    ProvidesConsole actions s := by
  have spares : system.RunWhere SparesStdin actions s := run.mono fun _ _ => SparesPeers.stdin
  obtain ⟨followed, _, reached, shown, rfl⟩ := refines_console.run spares
  refine ⟨⟨followed, reached, shown⟩, .run reached, fun c => ?_⟩
  refine ((RejectsOnly.run run).received c).imp_right fun written some_byte => ?_
  obtain ⟨fd, same, refused⟩ := written some_byte
  exact mem_refusals.mpr ⟨fd, refused, same⟩

/-- The first of two clients has the console when the second one is refused. -/
def refusesSecond : List Action :=
  startUp ++ handOver ⟨4, 0⟩ ++
    [.clientConnection .relock, .clientConnection (.take ⟨4, 0⟩), .clientConnection .load,
     .client (.connect 1), .accept (.accepted 1), .accept (.trylockBusy ⟨7, 1⟩),
     .accept (.slotTaken ⟨7, 1⟩), .accept (.callWriteAll ⟨7, 1⟩),
     .accept (.wrote ⟨7, 1⟩ (.call 7 rejection) (.connection 1) 8)]

theorem server_provides_console_refusesSecond :
    ∃ s, system.exec (.start .shell) refusesSecond = some s ∧ s.received 1 = rejection ∧
      ProvidesConsole refusesSecond s := by
  obtain ⟨s, path, received⟩ :
      ∃ s, system.exec (.start .shell) refusesSecond = some s ∧ s.received 1 = rejection :=
    System.exists_exec (by decide +kernel)
  have run : (systemFrom .shell).Run refusesSecond s := System.run_of_exec rfl path
  exact ⟨s, path, received, server_provides_console (sparesPeers_of_stderr (j := 2) run rfl)⟩

end Usockit.Server
