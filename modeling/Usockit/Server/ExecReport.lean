import Usockit.Server.Reporting

namespace Usockit.Server
open Foundation Kernel

variable {s s' : State} {actions : List Action}

/-- The steps `more` of the server's threads lead from `s` to a state with `p`. -/
def State.ServerReaches (s : State) (p : State → Prop) : Prop :=
  ∃ more t, (∀ a ∈ more, a.thread ≠ none) ∧ system.exec s more = some t ∧ p t

structure ExecReported (actions : List Action) (s : State) : Prop where
  childClosed : Executed actions → ¬ s.kernel.child.fds.Holds (.pipe .reporting .write)
  closed : Executed actions → s.main = .readReport →
    ¬ s.kernel.Open (.pipe .reporting .write) ∧ s.kernel.reportingPipe = []
  ready : Executed actions → s.main = .readReport →
    (∃ s', system.step s (.parent .readEof) = some s') ∧
      s.ServerReaches fun t => t.childReady.condition = true
  failed : ∀ error, Failed actions error → s.childReady.condition = false ∧
    system.step s (.parent .readEof) = none ∧ system.step s (.parent .readShort) = none ∧
      ∀ s', system.step s (.parent .readError) = some s' →
        s'.main = .waitpid (some error) ∧ s'.kernel.reportingPipe = []
  reported : ∀ error, Failed actions error → s.main = .readReport →
    ∃ more t, system.exec s more = some t ∧ t.main = .waitpid (some error)

/-- The protocol is right in the build that creates the reporting pipe with pipe2(), or in the one
that uses pipe() and fcntl(). -/
def ExecReporting (pipe2Support : Bool) : Prop :=
  ∀ actions s, system.RunWhere ReportsWhole actions s → s.pipe2Support = pipe2Support →
    ExecReported actions s

/-! ## The parent goes on -/

theorem killed_main {ok : State → Action → Prop} (run : system.RunWhere ok actions s) :
    s.killed = true → s.main.ready = true ∨ ∃ call, s.main = .perror call := by
  refine run.stateInvariant (I := fun s => s.killed = true →
    s.main.ready = true ∨ ∃ call, s.main = .perror call) ?_ ?_
  · rintro _ ⟨config, rfl⟩
    simp [State.start]
  · rintro _ s a s' run - - step killed
    obtain ⟨running, taken⟩ := system_step.mp step
    have sigpipe : a.sigpipe = true := by
      simpa [(act_signals taken).1, running] using killed
    have ready := ready_mono taken
    unfold Action.sigpipe at sigpipe
    split at sigpipe
    · simp only [act, threadRoutineAccept, require_eq_some] at taken
      exact .inl (ready ((Lifecycle.run run).accept (by simp [taken.1.1])))
    · simp only [act, threadRoutineClientConnection, require_eq_some] at taken
      obtain ⟨fd, slot, -⟩ := (Handoff.run run).serving (by simp [taken.1.1])
      exact .inl (ready ((Lifecycle.run run).slot (by simp [slot])))
    · simp only [act, threadRoutineAccept, require_eq_some] at taken
      exact .inl (ready ((Lifecycle.run run).accept (by simp [taken.1.1])))
    · simp only [act, parent, require_eq_some] at taken
      obtain ⟨⟨here, -⟩, rfl⟩ := taken
      exact .inr ⟨_, here⟩
    · cases sigpipe

variable {p : State → Prop}

theorem State.ServerReaches.now (here : p s) : s.ServerReaches p :=
  ⟨[], s, by simp, rfl, here⟩

theorem State.ServerReaches.step (a : Action) (s' : State) (server : a.thread ≠ none)
    (taken : system.step s a = some s') (rest : s'.ServerReaches p) : s.ServerReaches p := by
  obtain ⟨more, t, threads, path, there⟩ := rest
  refine ⟨a :: more, t, ?_, ?_, there⟩
  · simpa using ⟨server, threads⟩
  · simpa [System.exec, taken] using path

/-- main has seen the end of the pipe, and the lock is free. -/
def State.CanLock (s : State) : Prop :=
  s.main = .lock ∧ s.killed = false ∧ s.childReady.mutex = none

theorem childWait_canLock (here : s.main = .lock) (alive : s.killed = false)
    (pc : s.childWait = .waitForChildReady .wait) : s.ServerReaches State.CanLock := by
  refine .step (.childWait (.waitForChildReady .wait .wait))
    { s with
      childWait := .waitForChildReady .asleep
      childReady := { s.childReady with mutex := none } }
    (by simp [Action.thread]) ?_ (.now ⟨here, alive, rfl⟩)
  simp [system_step, alive, act, threadRoutineChildWait, pc, waitForChildReady,
    ChildWaitPc.afterWait]

theorem accept_canLock (here : s.main = .lock) (alive : s.killed = false)
    (pc : s.accept = .waitForChildReady .wait) : s.ServerReaches State.CanLock := by
  refine .step (.accept (.waitForChildReady .wait .wait))
    { s with
      accept := .waitForChildReady .asleep
      childReady := { s.childReady with mutex := none } }
    (by simp [Action.thread]) ?_ (.now ⟨here, alive, rfl⟩)
  simp [system_step, alive, act, threadRoutineAccept, pc, waitForChildReady, AcceptPc.afterWait]

/-- A thread that has the mutex before the child is ready goes to sleep and leaves it. -/
theorem lock_freed {ok : State → Action → Prop} (run : system.RunWhere ok actions s)
    (here : s.main = .lock) : s.ServerReaches State.CanLock := by
  have life := Lifecycle.run run
  have progress := Progress.run run
  have owned := ChildReadyOwned.run run
  have notReady : s.main.ready = false := by simp [here, MainPc.ready]
  have condition : s.childReady.condition = false := progress.condition.trans notReady
  have alive : s.killed = false := by
    by_contra killed
    simpa [here, MainPc.ready] using killed_main run (by simpa using killed)
  have uncancelled : ∀ t, t ≠ .main → s.cancelRequested t = false := by
    intro t other
    apply progress.uncancelled
    cases t <;> simp_all [MainPc.uncancelled]
  cases owner : s.childReady.mutex with
  | none => exact .now ⟨here, alive, owner⟩
  | some t =>
      cases t with
      | main => simpa [here, MainPc.holdsChildReady] using owned.main.owner owner
      | clientConnection => exact absurd owner owned.clientConnection
      | childWait =>
          have holds := (owned.childWait.owner owner).resolve_right fun ⟨_, requested⟩ => by
            simp [uncancelled .childWait (by simp)] at requested
          obtain ⟨w, pc, inside⟩ : ∃ w, s.childWait = .waitForChildReady w ∧ w.holds = true := by
            cases pc : s.childWait <;> simp_all
          cases w with
          | test =>
              refine .step (.childWait (.waitForChildReady .test .testNotReady))
                { s with childWait := .waitForChildReady .wait } (by simp [Action.thread])
                ?_ (childWait_canLock here alive rfl)
              simp [system_step, alive, act, threadRoutineChildWait, pc, waitForChildReady,
                condition, ChildWaitPc.afterWait]
          | wait => exact childWait_canLock here alive pc
          | unlock => simp [life.childWait (by simp [pc])] at notReady
          | lock | asleep | woken | cancelled => simp at inside
      | accept =>
          have holds := (owned.accept.owner owner).resolve_right fun ended => by
            have requested := (CancelRequested.run run).accept (by simp [ended])
            simp [uncancelled .accept (by simp)] at requested
          obtain ⟨w, pc, inside⟩ : ∃ w, s.accept = .waitForChildReady w ∧ w.holds = true := by
            cases pc : s.accept <;> simp_all
          cases w with
          | test =>
              refine .step (.accept (.waitForChildReady .test .testNotReady))
                { s with accept := .waitForChildReady .wait } (by simp [Action.thread])
                ?_ (accept_canLock here alive rfl)
              simp [system_step, alive, act, threadRoutineAccept, pc, waitForChildReady,
                condition, AcceptPc.afterWait]
          | wait => exact accept_canLock here alive pc
          | unlock => simp [life.accept (by simp [pc])] at notReady
          | lock | asleep | woken | cancelled => simp at inside

theorem State.ServerReaches.trans {q : State → Prop} (first : s.ServerReaches p)
    (next : ∀ t, p t → t.ServerReaches q) : s.ServerReaches q := by
  obtain ⟨more, t, threads, path, there⟩ := first
  obtain ⟨rest, u, threads', path', there'⟩ := next t there
  refine ⟨more ++ rest, u, ?_, System.exec_trans path path', there'⟩
  intro a here
  rcases List.mem_append.mp here with here | here
  · exact threads a here
  · exact threads' a here

theorem State.CanLock.condition (can : s.CanLock) :
    s.ServerReaches fun t => t.childReady.condition = true := by
  obtain ⟨here, alive, free⟩ := can
  refine .step (.parent .lock)
    { s with main := .setCondition, childReady := ⟨some .main, s.childReady.condition⟩ }
    (by simp [Action.thread]) ?_ (.step (.parent .setCondition)
      { s with main := .unlock, childReady := ⟨some .main, true⟩ }
      (by simp [Action.thread]) ?_ (.now rfl))
  · simp [system_step, alive, act, parent, here, free]
  · simp [system_step, alive, act, parent]

/-! ## The parent reads the report -/

theorem readError_reaches (error : ChildError) (alive : s.killed = false)
    (can : s.CanReadReport) (whole : s.kernel.reportingPipe = error.bytes) :
    ∃ more t, system.exec s more = some t ∧ t.main = .waitpid (some error) := by
  refine ⟨[.parent .readError], { s with
    main := .waitpid (some error)
    kernel := { s.kernel with reportingPipe := [] } }, System.exec_singleton ?_, rfl⟩
  simp [system_step, alive, act, parent, can, whole]

theorem write_reaches {error : ChildError} (ends : WriteEnds s) (alive : s.killed = false)
    (can : s.CanReadReport) (pc : s.kernel.child.pc = .write error)
    (empty : s.kernel.reportingPipe = []) :
    ∃ more t, system.exec s more = some t ∧ t.main = .waitpid (some error) := by
  have file := ends.child (by simp [pc, ChildPc.beforeExit])
  have writable : s.kernel.Writable (.pipe .reporting .write) := .inl ⟨_, can.2⟩
  have step : system.step s (.child (.wrote error childErrorSize)) = some { s with
      kernel := (s.kernel.deliver (.pipe .reporting .write) error.bytes).setChild
        .closeReportingWrite s.kernel.child.fds } := by
    simp [system_step, alive, act, child, pc, file, writable]
  obtain ⟨more, t, path, there⟩ := readError_reaches error alive
    (s := { s with
      kernel := (s.kernel.deliver (.pipe .reporting .write) error.bytes).setChild
        .closeReportingWrite s.kernel.child.fds })
    (by simpa [State.CanReadReport] using can) (by simp [deliver, empty])
  exact ⟨_, t, System.exec_trans (System.exec_singleton step) path, there⟩

theorem report_reaches {error : ChildError} (report : Report actions s) (ends : WriteEnds s)
    (numbers : Numbers s) (alive : s.killed = false) (can : s.CanReadReport)
    (failed : Failed actions error) :
    ∃ more t, system.exec s more = some t ∧ t.main = .waitpid (some error) := by
  rcases report.failed error failed with reporting | ⟨-, whole⟩
  · have empty : s.kernel.reportingPipe = [] := by
      refine report.pipe.resolve_right fun ⟨_, _, reported, _⟩ => ?_
      cases pc : s.kernel.child.pc <;> simp_all [ChildPc.reporting, ChildPc.reported]
    cases pc : s.kernel.child.pc with
    | write e =>
        obtain rfl : e = error := by simpa [pc, ChildPc.reporting] using reporting
        exact write_reaches ends alive can pc empty
    | closeMainReadFailed e =>
        obtain rfl : e = error := by simpa [pc, ChildPc.reporting] using reporting
        have step : system.step s (.child (.closeMainReadFailed e)) = some { s with
            kernel := s.kernel.setChild (.write e)
              (s.kernel.child.fds.close (s.pipeFds .main .read)) } := by
          simp [system_step, alive, act, child, pc]
        obtain ⟨more, t, path, there⟩ := write_reaches
          (ends.childStep numbers (system_step.mp step).2) alive can rfl empty
        exact ⟨_, t, System.exec_trans (System.exec_singleton step) path, there⟩
    | _ => simp [pc, ChildPc.reporting] at reporting
  · exact readError_reaches error alive can (whole (by simp [can.1, MainPc.unread]))

theorem exec_reported (run : system.RunWhere ReportsWhole actions s)
    (pipe2 : s.pipe2Support = true) : ExecReported actions s := by
  have report := Report.run run pipe2
  have ends := WriteEnds.run run
  have desc := Descriptors.run run
  have alive : s.main = .readReport → s.killed = false := by
    intro here
    by_contra killed
    simpa [here, MainPc.ready] using killed_main run (by simpa using killed)
  have childClosed : Executed actions →
      ¬ s.kernel.child.fds.Holds (.pipe .reporting .write) := by
    intro executed
    rcases report.executed executed with program | gone
    · exact ends.program pipe2 program
    · rintro ⟨n, here⟩
      have has := ((ChildTable.run run).writeEnd n _ here).1
      rcases gone with gone | gone <;> simp [gone, ChildPc.hasWriteEnd] at has
  have closed : Executed actions → s.main = .readReport →
      ¬ s.kernel.Open (.pipe .reporting .write) ∧ s.kernel.reportingPipe = [] := by
    intro executed here
    refine ⟨?_, report.pipe_empty (report.exclusive executed)⟩
    rintro (⟨n, file⟩ | held)
    · have isOpen := ((desc.pipes n _ _).mp file).1
      simp [here, MainPc.hasOpen] at isOpen
    · exact childClosed executed held
  refine ⟨childClosed, closed, ?_, ?_, ?_⟩
  · intro executed here
    obtain ⟨noWriter, empty⟩ := closed executed here
    have file := (desc.pipes _ .reporting .read).mpr ⟨by simp [here, MainPc.hasOpen], rfl⟩
    have step : system.step s (.parent .readEof) = some { s with main := .lock } := by
      simp [system_step, alive here, act, parent, State.CanReadReport, here, file, empty, noWriter]
    refine ⟨⟨_, step⟩, .step _ _ (by simp [Action.thread]) step ?_⟩
    exact (lock_freed (.snoc run.run trivial step) rfl).trans fun t => State.CanLock.condition
  · intro error failed
    have notReady : s.main.ready = false := by
      by_contra ready
      have saw : s.main.sawEnd = true := by
        cases here : s.main <;> simp_all [MainPc.sawEnd, MainPc.ready]
      exact report.exclusive (report.sawEnd saw) error failed
    refine ⟨(Progress.run run).condition.trans notReady, ?_, ?_, ?_⟩
    · cases step : system.step s (.parent .readEof) with
      | none => rfl
      | some s' =>
          have taken := (system_step.mp step).2
          simp only [act, parent, require_eq_some] at taken
          obtain ⟨⟨⟨here, -⟩, empty, noWriter⟩, -⟩ := taken
          exact absurd failed
            (report.exclusive (report.executed_of_end ends here empty noWriter) error)
    · cases step : system.step s (.parent .readShort) with
      | none => rfl
      | some s' =>
          have taken := (system_step.mp step).2
          simp only [act, parent, require_eq_some] at taken
          obtain ⟨⟨-, some, short⟩, -⟩ := taken
          obtain ⟨e, -, -, whole⟩ := report.pipe.resolve_left some
          simp [whole] at short
    · intro s' step
      have taken := (system_step.mp step).2
      simp only [act, parent, require_eq_some] at taken
      obtain ⟨⟨-, enough⟩, rfl⟩ := taken
      obtain ⟨e, there, -, whole⟩ := report.pipe.resolve_left (by
        rintro empty
        simp [empty, childErrorSize] at enough)
      obtain rfl := report.unique e error there failed
      simp [whole]
  · intro error failed here
    have file := (desc.pipes _ .reporting .read).mpr ⟨by simp [here, MainPc.hasOpen], rfl⟩
    exact report_reaches report ends (.run run) (alive here) ⟨here, file⟩ failed

def Config.fallback : Config := { Config.shell with pipe2Support := false }

def fallbackStart : List Action :=
  [.setupThreads .createChildWait, .setupThreads .createClientConnection,
   .setupThreads .createAccept,
   .setupChild .pipe, .setupChild .reportingPipe, .setupChild .fcntl, .setupChild (.fork 1),
   .setupChild .closeReportingWrite, .setupChild .closeMainRead,
   .setupChild .storeChildPid, .setupChild .storeChildStdinFd,
   .child .closeReportingRead, .child .closeMainWrite, .child .closeSocket,
   .child .dup2, .child .closeMainRead, .child .execvp]

theorem fallback_keeps_writeEnd :
    ∃ s, system.RunWhere ReportsWhole fallbackStart s ∧ s.pipe2Support = false ∧
      s.main = .readReport ∧ s.kernel.child.fds.Holds (.pipe .reporting .write) ∧
      system.step s (.parent .readEof) = none := by
  obtain ⟨s, path, reached⟩ : ∃ s, system.exec (.start .fallback) fallbackStart = some s ∧
      s.pipe2Support = false ∧ s.main = .readReport ∧
      s.kernel.child.fds.Holds (.pipe .reporting .write) ∧
      (system.step s (.parent .readEof)).isNone = true :=
    System.exists_exec (by decide +kernel)
  refine ⟨s, System.runWhere_of_exec ⟨_, rfl⟩ path (by decide +kernel), ?_⟩
  simpa using reached

theorem not_execReported_fallbackStart :
    ∃ s, system.RunWhere ReportsWhole fallbackStart s ∧ s.pipe2Support = false ∧
      ¬ ExecReported fallbackStart s := by
  obtain ⟨s, run, build, -, held, -⟩ := fallback_keeps_writeEnd
  exact ⟨s, run, build, fun reported => reported.childClosed (by decide) held⟩

theorem execReporting_iff (pipe2Support : Bool) :
    ExecReporting pipe2Support ↔ pipe2Support = true := by
  constructor
  · intro right
    cases pipe2Support with
    | true => rfl
    | false =>
        obtain ⟨s, run, build, wrong⟩ := not_execReported_fallbackStart
        exact absurd (right _ s run build) wrong
  · rintro rfl actions s run pipe2
    exact exec_reported run pipe2

theorem not_execReporting_fallback : ¬ ExecReporting false := by
  intro right
  obtain ⟨s, run, build, wrong⟩ := not_execReported_fallbackStart
  exact wrong (right _ s run build)

end Usockit.Server
