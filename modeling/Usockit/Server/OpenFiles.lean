import Mathlib.Data.List.Perm.Subperm
import Usockit.Server.Setup
import Usockit.Server.Closing
import Usockit.Server.ExecTable

namespace Usockit.Server
open Foundation Kernel

variable {config : Config} {s s' : State} {actions : List Action} {a : Action}

/-! ## Where a file comes from -/

/-- Only the two pipe() calls and accept() open a file, and close() keeps every other. -/
theorem act_fileAt_old {n : Nat} {f : File} (taken : act s a = some s')
    (noPipe : ∀ p e, f ≠ .pipe p e) (here : s'.kernel.fds.fileAt n = some f) :
    (s.kernel.fds.fileAt n = some f ∧ ∀ d, a.closes = some d → d.number ≠ n) ∨
      ∃ c, a = .accept (.accepted c) ∧ n = s.kernel.fds.lowestFree ∧ f = .connection c := by
  cases a with
  | setupThreads a =>
      cases a <;> simp only [act, setupThreads, require_eq_some] at taken <;>
        obtain ⟨-, rfl⟩ := taken <;> exact .inl ⟨here, by simp [Action.closes]⟩
  | setupChild a =>
      cases a <;> simp only [act, setupChild, require_eq_some] at taken <;>
        obtain ⟨-, rfl⟩ := taken
      case pipe | reportingPipe =>
        rw [fileAt_openPipe] at here
        split at here
        · exact absurd (Option.some.inj here).symm (noPipe _ _)
        · split at here
          · exact absurd (Option.some.inj here).symm (noPipe _ _)
          · exact .inl ⟨here, by simp [Action.closes]⟩
      case closeReportingWrite | closeMainRead | close =>
        simp only [fds_close, DescriptorTable.fileAt_close] at here
        split at here
        · cases here
        · exact .inl ⟨here, by simp [Action.closes]⟩
      case fcntl => exact .inl ⟨by simpa using here, by simp [Action.closes]⟩
      all_goals exact .inl ⟨here, by simp [Action.closes]⟩
  | parent a =>
      cases a <;> simp only [act, parent, require_eq_some] at taken <;>
        obtain ⟨-, rfl⟩ := taken <;> exact .inl ⟨by simpa using here, by simp [Action.closes]⟩
  | childWait a =>
      cases a <;> simp only [act, threadRoutineChildWait, require_eq_some,
        Option.ite_none_right_eq_some, Option.map_eq_some_iff] at taken
      case waitForChildReady =>
        obtain ⟨-, r, -, rfl⟩ := taken
        exact .inl ⟨here, by simp [Action.closes]⟩
      all_goals
        obtain ⟨-, rfl⟩ := taken
        exact .inl ⟨here, by simp [Action.closes]⟩
  | accept a =>
      cases a <;> simp only [act, threadRoutineAccept, require_eq_some,
        Option.ite_none_right_eq_some, Option.map_eq_some_iff] at taken
      case waitForChildReady =>
        obtain ⟨-, r, -, rfl⟩ := taken
        exact .inl ⟨here, by simp [Action.closes]⟩
      case accepted c =>
        obtain ⟨-, rfl⟩ := taken
        simp only [fds_accept, DescriptorTable.fileAt_install] at here
        split at here
        · next same => exact .inr ⟨c, rfl, same, (Option.some.inj here).symm⟩
        · exact .inl ⟨here, by simp [Action.closes]⟩
      case popClose d | cleanupClose d =>
        obtain ⟨-, rfl⟩ := taken
        simp only [fds_close, DescriptorTable.fileAt_close] at here
        split at here
        · cases here
        · next other =>
            refine .inl ⟨here, fun e closes => ?_⟩
            obtain rfl := Option.some.inj closes
            exact fun same => other same.symm
      all_goals
        obtain ⟨-, rfl⟩ := taken
        exact .inl ⟨by simpa using here, by simp [Action.closes]⟩
  | clientConnection a =>
      cases a <;> simp only [act, threadRoutineClientConnection, require_eq_some] at taken <;>
        obtain ⟨-, rfl⟩ := taken
      case cleanupClose fd flag =>
        cases fd with
        | none => exact .inl ⟨here, by simp [Action.closes]⟩
        | some d =>
            simp only [closeClient_some, fds_close, DescriptorTable.fileAt_close] at here
            split at here
            · cases here
            · next other =>
                refine .inl ⟨here, fun e closes => ?_⟩
                obtain rfl := Option.some.inj closes
                exact fun same => other same.symm
      all_goals exact .inl ⟨by simpa using here, by simp [Action.closes]⟩
  | child a =>
      cases a <;> simp only [act, child, Option.map_eq_some_iff, require_eq_some] at taken <;>
        obtain ⟨k, ⟨-, rfl⟩, rfl⟩ := taken <;>
        exact .inl ⟨by simpa using here, by simp [Action.closes]⟩
  | client a =>
      cases a <;> simp only [act, client, Option.map_eq_some_iff, require_eq_some] at taken <;>
        obtain ⟨k, ⟨-, rfl⟩, rfl⟩ := taken <;> exact .inl ⟨here, by simp [Action.closes]⟩

/-! ## The owners -/

theorem owned_of_handoff {u : ClientFd} (life : Lifecycle s) (same : SameHandoff s s')
    (owned : s.Owned u) : s'.Owned u := by
  rcases owned with own | slot | holding
  · rcases same.accept with kept | woken | ⟨creating, -⟩
    · exact .inl (kept ▸ own)
    · exact .inl (by rw [woken, AcceptPc.owned_signalled, own])
    · have fresh : s.accept = .notCreated :=
        life.notCreated .accept (by simp [creating, MainPc.toCreate])
      simp [fresh] at own
  · exact .inr (.inl (same.clientReady ▸ slot))
  · rcases same.clientConnection with kept | ⟨creating, -⟩
    · exact .inr (.inr (kept ▸ holding))
    · have fresh : s.clientConnection = .notCreated :=
        life.notCreated .clientConnection (by simp [creating, MainPc.toCreate])
      simp [fresh] at holding

theorem owned_of_accept {a : AcceptAction} {u : ClientFd} (custody : Custody actions s)
    (keeps : KeepsOneOwner s (.accept a)) (taken : act s (.accept a) = some s')
    (owned : s.Owned u) : s'.Owned u ∨ (Action.accept a).closes = some u := by
  cases a <;> simp only [act, threadRoutineAccept, require_eq_some, Option.ite_none_right_eq_some,
    Option.map_eq_some_iff] at taken
  case waitForChildReady w a =>
    obtain ⟨here, r, -, rfl⟩ := taken
    simp_all [State.Owned, State.Held]
  case store fd =>
    obtain ⟨here, rfl⟩ := taken
    have empty := custody.store fd here
    simp_all [State.Owned, State.Held]
  case signal fd =>
    obtain ⟨here, rfl⟩ := taken
    simp_all [State.Owned, State.Held]
  case cancelPushed fd =>
    obtain ⟨⟨here, -⟩, rfl⟩ := taken
    rcases AcceptPc.cancellationPoint_eq_some.mp here with here | here | ⟨w, here⟩
    · exact absurd here keeps
    · simp_all [State.Owned, State.Held]
    · simp_all [State.Owned, State.Held]
  case cancelPopClose => exact keeps.elim
  case popClose fd | cleanupClose fd =>
    obtain ⟨here, rfl⟩ := taken
    rcases owned with own | held
    · exact .inr (by simpa [Action.closes, here] using own)
    · exact .inl (.inr held)
  all_goals
    obtain ⟨guard, rfl⟩ := taken
    simp_all [State.Owned, State.Held]

theorem owned_of_clientConnection {a : ClientConnectionAction} {u : ClientFd}
    (handoff : Handoff actions s) (keeps : KeepsOneOwner s (.clientConnection a))
    (taken : act s (.clientConnection a) = some s') (owned : s.Owned u) :
    s'.Owned u ∨ (Action.clientConnection a).closes = some u := by
  cases a <;> simp only [act, threadRoutineClientConnection, require_eq_some] at taken <;>
    obtain ⟨guard, rfl⟩ := taken
  case cleanupStore fd flag =>
    have loaded := handoff.loaded fd (by simp [guard])
    simp_all [State.Owned, State.Held]
  case cleanupClose fd flag =>
    rcases owned with own | slot | holding
    · exact .inl (.inl own)
    · exact .inl (.inr (.inl slot))
    · exact .inr (by simpa [Action.closes, guard] using holding)
  case cancelClose => exact keeps.elim
  all_goals
    simp_all [State.Owned, State.Held]

theorem owned_of_act {u : ClientFd} (run : system.RunWhere KeepsOneOwner actions s)
    (keeps : KeepsOneOwner s a) (taken : act s a = some s') (owned : s.Owned u) :
    s'.Owned u ∨ a.closes = some u := by
  by_cases handing : a.OfHandoff
  · cases a with
    | accept a => exact owned_of_accept (Custody.run run) keeps taken owned
    | clientConnection a => exact owned_of_clientConnection (Handoff.run run) keeps taken owned
    | setupThreads | setupChild | parent | childWait | child | client => exact handing.elim
  · exact .inl (owned_of_handoff (Lifecycle.run run) (act_sameHandoff taken handing) owned)

/-- Who closes a descriptor has it. -/
theorem owned_of_closes {u : ClientFd} (taken : act s a = some s') (closes : a.closes = some u) :
    s.Owned u := by
  cases a with
  | accept a =>
      cases a <;> simp only [Action.closes, Option.some.injEq, reduceCtorEq] at closes
      all_goals
        subst closes
        simp only [act, threadRoutineAccept, require_eq_some] at taken
        exact .inl (by simp [taken.1])
  | clientConnection a =>
      cases a <;> simp only [Action.closes, reduceCtorEq] at closes
      subst closes
      simp only [act, threadRoutineClientConnection, require_eq_some] at taken
      exact .inr (.inr (by simp [taken.1]))
  | setupThreads | setupChild | parent | childWait | child | client =>
      simp [Action.closes] at closes

/-! ## What is open -/

/-- What descriptor `n` of the server refers to: a file that it was started with, the socket, an
end of a pipe that main has open, or a connection that one of the two threads has. -/
def State.Opened (config : Config) (s : State) (n : Nat) : File → Prop
  | .inherited i => config.inherited.fileAt n = some i
  | .listening => n = s.socketFd
  | .pipe p e => s.main.hasOpen p e = true ∧ n = s.pipeFds p e
  | .connection c => s.Owned ⟨n, c⟩

theorem opened_start (n : Nat) (f : File) :
    (State.start config).kernel.fds.fileAt n = some f ↔ (State.start config).Opened config n f := by
  have pipes := (Descriptors.start config).pipes n
  have free : (config.inherited.map File.inherited).fileAt
      (config.inherited.map File.inherited).lowestFree = none := DescriptorTable.fileAt_lowestFree
  rw [DescriptorTable.fileAt_map, Option.map_eq_none_iff] at free
  cases f with
  | pipe p e => exact pipes p e
  | inherited i =>
      simp only [State.start, DescriptorTable.fileAt_install, State.Opened]
      split
      · next same => simp [same, free]
      · simp
  | listening =>
      simp only [State.start, DescriptorTable.fileAt_install, State.Opened]
      split <;> simp_all
  | connection c =>
      simp only [State.start, DescriptorTable.fileAt_install, State.Opened]
      split <;> simp [State.Owned, State.Held]

theorem fileAt_kept {n : Nat} {f : File} (run : system.RunWhere KeepsOneOwner actions s)
    (taken : act s a = some s') (noPipe : ∀ p e, f ≠ .pipe p e)
    (noConnection : ∀ c, f ≠ .connection c) :
    s'.kernel.fds.fileAt n = some f ↔ s.kernel.fds.fileAt n = some f := by
  constructor
  · intro after
    rcases act_fileAt_old taken noPipe after with ⟨before, -⟩ | ⟨c, -, -, connection⟩
    · exact before
    · exact absurd connection (noConnection c)
  · intro before
    refine act_fileAt (Descriptors.run run) taken noPipe ?_ before
    rintro d closes rfl
    have refers := (Custody.run run).refers d (owned_of_closes taken closes)
    exact noConnection _ (Option.some.inj (before.symm.trans refers))

theorem opened_act {n : Nat} {f : File} (run : system.RunWhere KeepsOneOwner actions s)
    (before : ∀ n f, s.kernel.fds.fileAt n = some f ↔ s.Opened config n f)
    (keeps : KeepsOneOwner s a) (step : system.step s a = some s') :
    s'.kernel.fds.fileAt n = some f ↔ s'.Opened config n f := by
  have taken := (system_step.mp step).2
  cases f with
  | pipe p e => exact (Descriptors.run (run.snoc keeps step)).pipes n p e
  | inherited i =>
      rw [fileAt_kept run taken (by simp) (by simp), before]
      rfl
  | listening =>
      rw [fileAt_kept run taken (by simp) (by simp), before]
      simp [State.Opened, (act_constants taken).2]
  | connection c =>
      constructor
      · intro after
        rcases act_fileAt_old taken (by simp) after with ⟨here, left⟩ | ⟨d, rfl, rfl, same⟩
        · have owned : s.Owned ⟨n, c⟩ := (before n _).mp here
          exact (owned_of_act run keeps taken owned).resolve_right fun closes => left _ closes rfl
        · obtain rfl := File.connection.inj same
          simp only [act, threadRoutineAccept, require_eq_some] at taken
          obtain ⟨-, rfl⟩ := taken
          exact .inl rfl
      · exact (Custody.run (run.snoc keeps step)).refers ⟨n, c⟩

theorem opened_run (run : (systemFrom config).RunWhere KeepsOneOwner actions s) (n : Nat)
    (f : File) : s.kernel.fds.fileAt n = some f ↔ s.Opened config n f := by
  revert n f
  refine run.stateInvariant
    (I := fun s => ∀ n f, s.kernel.fds.fileAt n = some f ↔ s.Opened config n f) ?_ ?_
  · rintro _ rfl
    exact opened_start
  · intro actions s a s' run before keeps step n f
    exact opened_act (run_of_systemFrom run) before keeps step

/-! ## No descriptor is left behind -/

/-- The numbers of the connections that are open: in the hands of the accept thread, in the slot,
and with the connection thread when it is about to close one. -/
def State.connectionFds (s : State) : List Nat :=
  (s.accept.owned.toList ++ s.clientReady.clientFd.toList ++
    s.clientConnection.holding.toList).map ClientFd.number

theorem State.length_connectionFds (s : State) : s.connectionFds.length ≤ 3 := by
  have accept := Option.length_toList_le (o := s.accept.owned)
  have slot := Option.length_toList_le (o := s.clientReady.clientFd)
  have holding := Option.length_toList_le (o := s.clientConnection.holding)
  simp only [State.connectionFds, List.length_map, List.length_append]
  omega

theorem State.Owned.mem_connectionFds {u : ClientFd} (owned : s.Owned u) :
    u.number ∈ s.connectionFds := by
  apply List.mem_map_of_mem
  rcases owned with own | slot | holding
  · simp [own]
  · simp [slot]
  · simp [holding]

theorem clientConnection_stays (taken : act s a = some s')
    (created : s.clientConnection ≠ .notCreated) : s'.clientConnection ≠ .notCreated := by
  by_cases handing : a.OfHandoff
  · cases a with
    | accept a =>
        have step := threadRoutineAccept_stepOf taken
        exact (step.notCreated .clientConnection (by simp)).not.mpr created
    | clientConnection a => exact (threadRoutineClientConnection_stepOf taken).stays
    | setupThreads | setupChild | parent | childWait | child | client => exact handing.elim
  · rcases (act_sameHandoff taken handing).clientConnection with same | ⟨-, new⟩
    · exact same ▸ created
    · simp [new]

attribute [local simp] MainPc.ready MainPc.closeEnds MainPc.endThreads MainPc.setupChildReturned
  MainPc.parentReturned MainPc.afterChildError MainPc.reportingPipeCreated

theorem ready_begins (taken : act s a = some s') (before : s.main.ready = false)
    (after : s'.main.ready = true) : s.main = .setCondition := by
  cases a with
  | setupThreads a =>
      cases a <;> simp only [act, setupThreads, require_eq_some] at taken <;>
        obtain ⟨guard, rfl⟩ := taken
      case join t rest ret => cases rest <;> simp_all
      all_goals simp_all
  | setupChild a =>
      cases a <;> simp only [act, setupChild, require_eq_some] at taken <;>
        obtain ⟨guard, rfl⟩ := taken
      case reportingPipe => cases pipe2 : s.pipe2Support <;> simp [pipe2] at after
      case close p e rest ret => cases rest <;> simp_all
      all_goals simp_all
  | parent a =>
      cases a <;> simp only [act, parent, require_eq_some] at taken <;>
        obtain ⟨guard, rfl⟩ := taken
      case setCondition => exact guard
      case waitpid error | waitpidFailed error => cases error <;> simp at after
      all_goals simp_all
  | childWait | accept | clientConnection | child | client =>
      rw [(act_sameMain taken id).main, before] at after
      cases after

/-- The child is only ever reported ready to threads that main has created. -/
theorem created_of_ready {ok : State → Action → Prop} (run : system.RunWhere ok actions s) :
    s.main.ready = true → s.clientConnection ≠ .notCreated := by
  refine run.stateInvariant (I := fun s => s.main.ready = true →
    s.clientConnection ≠ .notCreated) ?_ ?_
  · rintro _ ⟨config, rfl⟩ ready
    simp [State.start, MainPc.ready] at ready
  · intro actions s a s' before created keeps step ready
    have taken := (system_step.mp step).2
    refine clientConnection_stays taken ?_
    by_cases already : s.main.ready = true
    · exact created already
    · have here := ready_begins taken (by simpa using already) ready
      exact (Lifecycle.run before).created .clientConnection (by simp [here, MainPc.created])

structure NoLeak (config : Config) (s : State) : Prop where
  files : ∀ n f, s.kernel.fds.fileAt n = some f ↔ s.Opened config n f
  /-- Accepted clients cannot use up the descriptors of the server. -/
  connections : ∀ numbers : List Nat, numbers.Nodup →
    (∀ n ∈ numbers, ∃ c, s.kernel.fds.fileAt n = some (.connection c)) → numbers.length ≤ 3
  /-- usockit_server_setup_threads leaves the socket to usockit_server, and nothing else. -/
  returned : ∀ ret, s.main = .returned ret → ∀ n f, s.kernel.fds.fileAt n = some f ↔
    (f = .listening ∧ n = s.socketFd) ∨ ∃ i, f = .inherited i ∧ config.inherited.fileAt n = some i

theorem not_owned_of_returned {ret : RetStatus} {u : ClientFd}
    (run : system.RunWhere KeepsOneOwner actions s) (returned : s.main = .returned ret) :
    ¬ s.Owned u := by
  have life := Lifecycle.run run
  have accept := life.gone .accept (by simp) (.inl (by simp [returned, MainPc.created]))
  have connection := life.gone .clientConnection (by simp)
    (.inl (by simp [returned, MainPc.created]))
  simp only [State.Gone, State.NotCreated, State.Terminated] at accept connection
  rintro (own | slot | holding)
  · rcases accept with here | here <;> simp [here] at own
  · rcases connection with here | here
    · exact created_of_ready run (life.slot (by simp [slot])) here
    · simp [(Custody.run run).leaving (by simp [here])] at slot
  · rcases connection with here | here <;> simp [here] at holding

theorem server_leaks_nothing (run : (systemFrom config).RunWhere KeepsOneOwner actions s) :
    NoLeak config s := by
  refine ⟨opened_run run, ?_, ?_⟩
  · intro numbers nodup connected
    have within : numbers ⊆ s.connectionFds := by
      intro n member
      obtain ⟨c, here⟩ := connected n member
      exact State.Owned.mem_connectionFds ((opened_run run n _).mp here)
    exact Nat.le_trans (List.subperm_of_subset nodup within).length_le s.length_connectionFds
  · intro ret returned n f
    rw [opened_run run]
    cases f with
    | inherited i => simp [State.Opened]
    | listening => simp [State.Opened]
    | pipe p e => simp [State.Opened, returned, MainPc.hasOpen]
    | connection c =>
        simpa [State.Opened] using not_owned_of_returned (run_of_systemFrom run) returned

/-- `servedToEnd`, until usockit_server_setup_threads returns. -/
def servedAndReturned : List Action :=
  servedToEnd ++ joinAndRelease

theorem server_leaks_nothing_servedAndReturned :
    ∃ s, (systemFrom .shell).exec (.start .shell) servedAndReturned = some s ∧
      s.kernel.fds.fileAt 2 = some (.inherited 2) ∧ s.kernel.fds.fileAt 3 = some .listening ∧
      s.kernel.fds.fileAt 4 = none := by
  obtain ⟨s, path, returned, socket⟩ :
      ∃ s, (systemFrom .shell).exec (.start .shell) servedAndReturned = some s ∧
        s.main = .returned .success ∧ s.socketFd = 3 :=
    System.exists_exec (by decide +kernel)
  have noLeak : NoLeak .shell s :=
    server_leaks_nothing (System.runWhere_of_exec rfl path (by decide +kernel))
  refine ⟨s, path, ?_, ?_, ?_⟩
  · exact (noLeak.returned _ returned 2 _).mpr (.inr ⟨2, rfl, by decide⟩)
  · exact (noLeak.returned _ returned 3 _).mpr (.inl ⟨rfl, socket.symm⟩)
  · rw [Option.eq_none_iff_forall_ne_some]
    intro f here
    rcases (noLeak.returned _ returned 4 f).mp here with ⟨-, same⟩ | ⟨i, -, inherited⟩
    · simp [socket] at same
    · simp [Config.shell, DescriptorTable.fileAt, DescriptorTable.entry] at inherited

end Usockit.Server
