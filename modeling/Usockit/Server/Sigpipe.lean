import Usockit.Server.Stdin

namespace Usockit.Server
open Foundation Kernel

variable {s s' : State} {actions : List Action}

def ChildPc.alive : ChildPc → Bool
  | .unborn | .zombie | .reaped => false
  | _ => true

/-- As long as the child is alive, the accept thread calls write() only for a client that has not
closed or shut down its reading side, the connection thread, with the main pipe still open, only
while some process can read from it, and perror() is not called with a descriptor 2 from which
nobody reads. -/
def WritesToReader (s : State) : Action → Prop
  | .accept (.wrote fd _ _ _) | .accept (.writeFailed fd _) | .accept (.writeSigpipe fd _) =>
      s.kernel.child.pc.alive = true → (s.kernel.connections fd.connection).closed = false
  | .clientConnection (.wrote _ _ _) | .clientConnection (.writeFailed _)
  | .clientConnection (.writeSigpipe _) =>
      s.kernel.child.pc.alive = true → s.main.hasOpen .main .write = true →
        s.kernel.Open (.pipe .main .read)
  | .accept (.perror readerGone _ _) | .accept (.perrorSigpipe readerGone)
  | .parent (.perror _ readerGone _ _) | .parent (.perrorSigpipe _ readerGone) =>
      s.kernel.child.pc.alive = true →
        ∀ f ∈ s.kernel.fds.fileAt stderrFileno, ¬ s.kernel.StderrBroken readerGone f
  | _ => True

instance (s : State) (a : Action) : Decidable (WritesToReader s a) := by
  unfold WritesToReader
  split <;> infer_instance

/-! ## Where the two threads write to -/

theorem accept_writesTo {ok : State → Action → Prop} {fd : ClientFd} {w : WriteAll}
    (run : system.RunWhere ok actions s) (here : s.accept = .write fd w) :
    s.kernel.fds.fileAt w.fd = some (.connection fd.connection) := by
  rw [accept_write run fd w here]
  exact (Descriptors.run run).unpublished fd (by simp [here])

theorem clientConnection_writesTo {ok : State → Action → Prop} {w : WriteAll}
    (run : system.RunWhere ok actions s) (here : s.clientConnection = .write w) :
    s.kernel.fds.fileAt w.fd = some (.pipe .main .write) ↔
      s.main.hasOpen .main .write = true := by
  have stored := serving_stdin run (ClientConnectionPc.serving_of_forwarding (by simp [here]))
  have number : w.fd = s.pipeFds .main .write := by
    simpa [write_stdin run w here] using stored
  rw [(Descriptors.run run).pipes]
  simp [number]

theorem clientConnection_file {ok : State → Action → Prop} {w : WriteAll} {f : File}
    (run : system.RunWhere ok actions s) (here : s.clientConnection = .write w)
    (file : s.kernel.fds.fileAt w.fd = some f) : f = .pipe .main .write :=
  (Descriptors.run run).stdin _ _ (write_stdin run w here) file

/-! ## SIGPIPE -/

def Action.sigpipe : Action → Bool
  | .accept (.writeSigpipe _ _) | .clientConnection (.writeSigpipe _) => true
  | .accept (.perrorSigpipe _) | .parent (.perrorSigpipe _ _) => true
  | _ => false

theorem act_signals {a : Action} (taken : act s a = some s') :
    s'.killed = (s.killed || a.sigpipe) ∧
      s'.kernel.sigpipeIgnored = s.kernel.sigpipeIgnored := by
  cases a with
  | setupThreads | setupChild | childWait =>
      have same := act_sameStreams taken id
      simp [same.killed, same.sigpipeIgnored, Action.sigpipe]
  | parent a =>
      cases a <;> simp only [act, parent, require_eq_some] at taken <;>
        obtain ⟨-, rfl⟩ := taken <;> simp [Action.sigpipe]
  | accept a =>
      cases a <;> simp only [act, threadRoutineAccept, require_eq_some,
        Option.ite_none_right_eq_some, Option.map_eq_some_iff] at taken
      case waitForChildReady w a =>
        obtain ⟨-, r, -, rfl⟩ := taken
        simp [Action.sigpipe]
      all_goals
        obtain ⟨-, rfl⟩ := taken
        simp [Action.sigpipe]
  | clientConnection a =>
      cases a <;> simp only [act, threadRoutineClientConnection, require_eq_some] at taken <;>
        obtain ⟨-, rfl⟩ := taken <;> simp [Action.sigpipe]
  | child a =>
      cases a <;> simp only [act, child, Option.map_eq_some_iff, require_eq_some] at taken <;>
        obtain ⟨k, ⟨-, rfl⟩, rfl⟩ := taken <;> simp [Action.sigpipe]
  | client a =>
      cases a <;> simp only [act, client, Option.map_eq_some_iff, require_eq_some] at taken <;>
        obtain ⟨k, ⟨-, rfl⟩, rfl⟩ := taken <;> simp [Action.sigpipe]

theorem perror_survives {k : Kernel} {readerGone : Bool} (default : k.sigpipeIgnored = false) :
    ¬ k.PerrorRaisesSigpipe readerGone ↔
      ∀ f ∈ k.fds.fileAt stderrFileno, ¬ k.StderrBroken readerGone f := by
  simp [PerrorRaisesSigpipe, default]

/-- With SIGPIPE's default disposition a write() without a reader ends the server, and no other. -/
theorem sigpipe_iff {ok : State → Action → Prop} {a : Action}
    (run : system.RunWhere ok actions s) (taken : act s a = some s')
    (default : s.kernel.sigpipeIgnored = false) :
    (s'.kernel.child.pc.alive = true → a.sigpipe = false) ↔ WritesToReader s a := by
  cases a with
  | accept b =>
      cases b <;> simp only [act, threadRoutineAccept, require_eq_some] at taken <;>
        simp only [Action.sigpipe, WritesToReader, implies_true, true_iff]
      case wrote fd w f k =>
        obtain ⟨⟨here, file, writable, -⟩, -⟩ := taken
        obtain rfl : _ = f := Option.some.inj ((accept_writesTo run here).symm.trans file)
        exact fun _ => writable
      case writeFailed fd w =>
        obtain ⟨⟨here, survives⟩, -⟩ := taken
        intro alive
        by_contra closed
        exact survives ⟨default, _, accept_writesTo run here, by simpa [Broken] using closed⟩
      case writeSigpipe fd w =>
        obtain ⟨⟨here, -, f, file, broken⟩, rfl⟩ := taken
        obtain rfl : _ = f := Option.some.inj ((accept_writesTo run here).symm.trans file)
        simp_all [Broken]
      case perror =>
        obtain ⟨⟨-, survives⟩, -⟩ := taken
        exact fun _ => (perror_survives default).mp survives
      case perrorSigpipe =>
        obtain ⟨⟨-, raises⟩, rfl⟩ := taken
        rw [← perror_survives default]
        simp [raises]
  | parent b =>
      cases b <;> simp only [act, parent, require_eq_some] at taken <;>
        simp only [Action.sigpipe, WritesToReader, implies_true, true_iff]
      case perror =>
        obtain ⟨⟨-, survives⟩, -⟩ := taken
        exact fun _ => (perror_survives default).mp survives
      case perrorSigpipe =>
        obtain ⟨⟨-, raises⟩, rfl⟩ := taken
        rw [← perror_survives default]
        simp [raises]
  | clientConnection b =>
      cases b <;> simp only [act, threadRoutineClientConnection, require_eq_some] at taken <;>
        simp only [Action.sigpipe, WritesToReader, implies_true, true_iff]
      case wrote w f k =>
        obtain ⟨⟨here, file, writable, -⟩, -⟩ := taken
        obtain rfl := clientConnection_file run here file
        exact fun _ _ => writable
      case writeFailed w =>
        obtain ⟨⟨here, survives⟩, -⟩ := taken
        intro alive hasOpen
        by_contra closed
        exact survives ⟨default, _, (clientConnection_writesTo run here).mpr hasOpen, closed⟩
      case writeSigpipe w =>
        obtain ⟨⟨here, -, f, file, broken⟩, rfl⟩ := taken
        obtain rfl := clientConnection_file run here file
        have hasOpen := (clientConnection_writesTo run here).mp file
        simp_all [Broken]
  | setupThreads | setupChild | childWait | child | client =>
      simp [Action.sigpipe, WritesToReader]

theorem sigpipeIgnored_of_step {a : Action} (step : system.step s a = some s')
    (default : s'.kernel.sigpipeIgnored = false) : s.kernel.sigpipeIgnored = false := by
  rw [← (act_signals (system_step.mp step).2).2, default]

theorem server_survives_iff (run : system.Run actions s)
    (default : s.kernel.sigpipeIgnored = false) :
    (s.kernel.child.pc.alive = true → s.killed = false) ↔
      system.RunWhere WritesToReader actions s := by
  constructor
  · intro survives
    induction run with
    | start initial => exact .start initial
    | @snoc actions s a s' run _ step ih =>
        obtain ⟨running, taken⟩ := system_step.mp step
        have default' := sigpipeIgnored_of_step step default
        have killed := (act_signals taken).1
        refine .snoc (ih default' fun _ => running) ?_ step
        refine (sigpipe_iff run taken default').mp fun alive => ?_
        simpa [killed, running] using survives alive
  · clear run
    intro run
    cases run with
    | start initial =>
        obtain ⟨config, rfl⟩ := initial
        simp [State.start]
    | @snoc actions s a s' run reader step =>
        obtain ⟨running, taken⟩ := system_step.mp step
        have default' := sigpipeIgnored_of_step step default
        intro alive
        rw [(act_signals taken).1, running, (sigpipe_iff run taken default').mpr reader alive]
        rfl

def closedClient : List Action :=
  startUp ++ handOver ⟨4, 0⟩ ++
    [.clientConnection .relock, .clientConnection (.take ⟨4, 0⟩),
     .client (.connect 1), .client (.close 1), .accept (.accepted 1),
     .accept (.trylockBusy ⟨7, 1⟩), .accept (.slotTaken ⟨7, 1⟩), .accept (.callWriteAll ⟨7, 1⟩),
     .accept (.writeSigpipe ⟨7, 1⟩ (.call 7 rejection))]

/-- The child closes its standard input and keeps running, and a client sends two bytes. -/
def closedStdin : List Action :=
  startUp ++ handOver ⟨4, 0⟩ ++
    [.clientConnection .relock, .clientConnection (.take ⟨4, 0⟩), .clientConnection .load,
     .child (.programCloses 0), .client (.send 0 [104, 105]),
     .clientConnection (.received ⟨4, 0⟩ 0 2), .clientConnection (.callWriteAll [104, 105] 5),
     .clientConnection (.writeSigpipe (.call 5 [104, 105]))]

theorem server_survives_timelyData :
    ∃ s, system.exec (.start .shell) timelyData = some s ∧
      system.RunWhere WritesToReader timelyData s := by
  obtain ⟨s, path, running, default⟩ :
      ∃ s, system.exec (.start .shell) timelyData = some s ∧ s.killed = false ∧
        s.kernel.sigpipeIgnored = false :=
    System.exists_exec (by decide +kernel)
  exact ⟨s, path, (server_survives_iff (System.run_of_exec ⟨_, rfl⟩ path) default).mp
    fun _ => running⟩

theorem peers_kill_server :
    (∃ s, system.Run closedClient s ∧ s.kernel.sigpipeIgnored = false ∧
      s.kernel.child.pc.alive = true ∧ s.killed = true) ∧
    ∃ s, system.Run closedStdin s ∧ s.kernel.sigpipeIgnored = false ∧
      s.kernel.child.pc.alive = true ∧ s.killed = true := by
  constructor
  · obtain ⟨s, path, killed⟩ :
        ∃ s, system.exec (.start .shell) closedClient = some s ∧
          s.kernel.sigpipeIgnored = false ∧ s.kernel.child.pc.alive = true ∧ s.killed = true :=
      System.exists_exec (by decide +kernel)
    exact ⟨s, System.run_of_exec ⟨_, rfl⟩ path, killed⟩
  · obtain ⟨s, path, killed⟩ :
        ∃ s, system.exec (.start .shell) closedStdin = some s ∧
          s.kernel.sigpipeIgnored = false ∧ s.kernel.child.pc.alive = true ∧ s.killed = true :=
      System.exists_exec (by decide +kernel)
    exact ⟨s, System.run_of_exec ⟨_, rfl⟩ path, killed⟩

end Usockit.Server
