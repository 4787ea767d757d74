import Mathlib.Data.List.Nodup
import Usockit.Server.Reporting

namespace Usockit.Server
open Foundation Kernel

variable {s s' : State} {actions : List Action} {config : Config}

def systemFrom (config : Config) : System State Action where
  initial s := s = .start config
  step := step

theorem run_of_systemFrom {ok : State → Action → Prop}
    (run : (systemFrom config).RunWhere ok actions s) : system.RunWhere ok actions s := by
  induction run with
  | start initial => exact .start ⟨config, initial⟩
  | snoc run meets step ih => exact .snoc ih meets step

/-- The descriptors with which usockit_server is entered. -/
def Config.table (config : Config) : DescriptorTable File := config.inherited.map File.inherited

/-! ## What is open besides -/

def State.openedSocket (s : State) : Nat × Descriptor File := (s.socketFd, ⟨.listening, false⟩)

def State.openedEnd (s : State) (p : Pipe) (e : PipeEnd) : Nat × Descriptor File :=
  (s.pipeFds p e, ⟨.pipe p e, p = .reporting⟩)

def State.opened (s : State) : List (Nat × Descriptor File) :=
  [s.openedEnd .reporting .write, s.openedEnd .reporting .read,
   s.openedEnd .main .write, s.openedEnd .main .read, s.openedSocket]

def State.openedByMain (s : State) : List (Nat × Descriptor File) :=
  match s.main with
  | .create _ | .pipe => [s.openedSocket]
  | .reportingPipe => [s.openedEnd .main .write, s.openedEnd .main .read, s.openedSocket]
  | _ => s.opened

def ChildPc.beforeExec : ChildPc → Bool
  | .closeReportingRead | .closeMainWrite | .closeSocket => true
  | .dup2 | .closeMainRead | .execvp => true
  | _ => false

def State.openedByChild (s : State) : List (Nat × Descriptor File) :=
  match s.kernel.child.pc with
  | .closeReportingRead => s.opened
  | .closeMainWrite =>
      [s.openedEnd .reporting .write, s.openedEnd .main .write, s.openedEnd .main .read,
       s.openedSocket]
  | .closeSocket =>
      [s.openedEnd .reporting .write, s.openedEnd .main .read, s.openedSocket]
  | .dup2 => [s.openedEnd .reporting .write, s.openedEnd .main .read]
  | .closeMainRead =>
      [(stdinFileno, ⟨.pipe .main .read, false⟩), s.openedEnd .reporting .write,
       s.openedEnd .main .read]
  | .execvp =>
      [(stdinFileno, ⟨.pipe .main .read, false⟩), s.openedEnd .reporting .write]
  | _ => []

/-- The server's own descriptors have numbers of their own, and only the socket may have that of
the standard input. -/
structure Layout (base table : DescriptorTable File) (opened : List (Nat × Descriptor File)) :
    Prop where
  layered : table.Over base opened
  distinct : (opened.map Prod.fst).Nodup
  free : ∀ o ∈ opened, base.entry o.1 = none
  stdin : ∀ o ∈ opened, o.1 = stdinFileno → o.2.file = .listening
  used : table.entry stdinFileno ≠ none

theorem Layout.start (base : DescriptorTable File) :
    Layout base (base.install base.lowestFree ⟨.listening, false⟩)
      [(base.lowestFree, ⟨.listening, false⟩)] := by
  refine ⟨.install .refl, by simp, by simp, by simp, ?_⟩
  rw [DescriptorTable.entry_install]
  split
  · simp
  · next other =>
      exact DescriptorTable.entry_of_lt_lowestFree
        (Nat.pos_of_ne_zero fun zero => other zero.symm)

theorem Layout.openLowest {base table : DescriptorTable File}
    {opened : List (Nat × Descriptor File)} (layout : Layout base table opened)
    (d : Descriptor File) :
    Layout base (table.install table.lowestFree d) ((table.lowestFree, d) :: opened) := by
  obtain ⟨free, fresh⟩ := layout.layered.free DescriptorTable.entry_lowestFree
  have other : table.lowestFree ≠ stdinFileno := by
    intro same
    exact layout.used (same ▸ DescriptorTable.entry_lowestFree)
  refine ⟨layout.layered.install, List.nodup_cons.mpr ⟨fresh, layout.distinct⟩, ?_, ?_, ?_⟩
  · exact List.forall_mem_cons.mpr ⟨free, layout.free⟩
  · exact List.forall_mem_cons.mpr ⟨fun same => absurd same other, layout.stdin⟩
  · rw [DescriptorTable.entry_install, if_neg other.symm]
    exact layout.used

/-- Until exec the child works on a copy of the parent's table. -/
structure Tables (config : Config) (s : State) : Prop where
  parent : s.main.beforeFork = true → Layout config.table s.kernel.fds s.openedByMain
  apart : s.kernel.child.pc ≠ .unborn → ∃ table, Layout config.table table s.opened
  child : s.kernel.child.pc.beforeExec = true →
    s.kernel.child.fds.Over config.table s.openedByChild

theorem Tables.start (config : Config) : Tables config (.start config) := by
  refine ⟨fun _ => Layout.start _, ?_, ?_⟩ <;> simp [State.start, ChildPc.beforeExec]

theorem opened_congr (pipeFds : s'.pipeFds = s.pipeFds) (socketFd : s'.socketFd = s.socketFd) :
    s'.opened = s.opened := by
  simp [State.opened, State.openedEnd, State.openedSocket, pipeFds, socketFd]

theorem openedByMain_congr (main : s'.main = s.main) (pipeFds : s'.pipeFds = s.pipeFds)
    (socketFd : s'.socketFd = s.socketFd) : s'.openedByMain = s.openedByMain := by
  simp [State.openedByMain, opened_congr pipeFds socketFd, State.openedEnd, State.openedSocket,
    main, pipeFds, socketFd]

theorem openedByChild_congr (pc : s'.kernel.child.pc = s.kernel.child.pc)
    (pipeFds : s'.pipeFds = s.pipeFds) (socketFd : s'.socketFd = s.socketFd) :
    s'.openedByChild = s.openedByChild := by
  simp [State.openedByChild, opened_congr pipeFds socketFd, State.openedEnd, State.openedSocket,
    pc, pipeFds, socketFd]

/-- None of the numbers is another's, or was in use when the server was entered. -/
structure Apart (base : DescriptorTable File) (s : State) : Prop where
  freeEnd : ∀ p e, base.entry (s.pipeFds p e) = none
  freeSocket : base.entry s.socketFd = none
  stdin : ∀ p e, stdinFileno ≠ s.pipeFds p e
  ends : ∀ p e q g, s.pipeFds p e = s.pipeFds q g ↔ p = q ∧ e = g
  socket : ∀ p e, s.socketFd ≠ s.pipeFds p e

theorem Layout.apart {base table : DescriptorTable File} (layout : Layout base table s.opened) :
    Apart base s := by
  have isEnd : ∀ p e, s.openedEnd p e ∈ s.opened := by
    intro p e
    cases p <;> cases e <;> simp [State.opened]
  have isSocket : s.openedSocket ∈ s.opened := by simp [State.opened]
  constructor
  · exact fun p e => layout.free _ (isEnd p e)
  · exact layout.free _ isSocket
  · intro p e same
    simpa [State.openedEnd] using layout.stdin _ (isEnd p e) same.symm
  · intro p e q g
    refine ⟨fun same => ?_, by rintro ⟨rfl, rfl⟩; rfl⟩
    have equal := List.inj_on_of_nodup_map layout.distinct (isEnd p e) (isEnd q g) same
    simpa [State.openedEnd] using congrArg (fun o => o.2.file) equal
  · intro p e same
    have equal := List.inj_on_of_nodup_map layout.distinct isSocket (isEnd p e) same
    simpa [State.openedSocket, State.openedEnd] using congrArg (fun o => o.2.file) equal

section
attribute [local simp] State.openedByChild State.opened State.openedEnd State.openedSocket
  ChildPc.beforeExec

theorem Tables.childStep {a : ChildAction} {k : Kernel} (tables : Tables config s)
    (taken : Server.child s a = some k) (before : k.child.pc.beforeExec = true) :
    k.child.fds.Over config.table { s with kernel := k }.openedByChild := by
  obtain ⟨table, layout⟩ := tables.apart (child_alive taken).1
  have apart := layout.apart
  have layered := tables.child
  cases a <;> simp only [Server.child, require_eq_some] at taken <;>
    obtain ⟨guard, rfl⟩ := taken
  case closeReportingRead =>
    have layered := (layered (by simp [guard])).close (apart.freeEnd .reporting .read)
    simpa [guard, apart.ends, apart.socket] using layered
  case closeMainWrite =>
    have layered := (layered (by simp [guard])).close (apart.freeEnd .main .write)
    simpa [guard, apart.ends, apart.socket] using layered
  case closeSocket =>
    have layered := (layered (by simp [guard])).close apart.freeSocket
    simpa [guard, (apart.socket _ _).symm] using layered
  case dup2 =>
    have layered := layered (by simp [guard])
    simpa [guard, dup2Stdin, (apart.stdin _ _).symm] using layered.install
  case closeMainRead =>
    have layered := (layered (by simp [guard])).close (apart.freeEnd .main .read)
    simpa [guard, apart.ends, apart.stdin] using layered
  case wrote | programReads | programWrites => simp [guard] at before
  all_goals simp at before

end

theorem Tables.childAfter {a : Action} (tables : Tables config s) (taken : act s a = some s')
    (noFork : ∀ pid, a ≠ .setupChild (.fork pid)) (pipeFds : s'.pipeFds = s.pipeFds)
    (socketFd : s'.socketFd = s.socketFd) (before : s'.kernel.child.pc.beforeExec = true) :
    s'.kernel.child.fds.Over config.table s'.openedByChild := by
  rcases act_child taken with same | ⟨pid, fork, -⟩ | ⟨-, -, same⟩ | ⟨b, -, stepped⟩
  · rw [openedByChild_congr (by rw [same]) pipeFds socketFd, same]
    exact tables.child (same ▸ before)
  · exact absurd fork (noFork pid)
  · simp [same, ChildPc.beforeExec] at before
  · have here : s'.openedByChild = { s with kernel := s'.kernel }.openedByChild :=
      openedByChild_congr rfl pipeFds socketFd
    rw [here]
    exact tables.childStep stepped before

theorem Tables.after {a : Action} (tables : Tables config s) (taken : act s a = some s')
    (noFork : ∀ pid, a ≠ .setupChild (.fork pid)) (later : s'.main.beforeFork = false)
    (pipeFds : s'.pipeFds = s.pipeFds) (socketFd : s'.socketFd = s.socketFd) :
    Tables config s' := by
  refine ⟨by simp [later], fun born => ?_, fun before => ?_⟩
  · rw [opened_congr pipeFds socketFd]
    exact tables.apart fun unborn => born (act_unborn taken noFork unborn)
  · exact tables.childAfter taken noFork pipeFds socketFd before

theorem Layout.openPipe {base : DescriptorTable File} {k : Kernel}
    {opened : List (Nat × Descriptor File)} (layout : Layout base k.fds opened) (p : Pipe)
    (flag : Bool) :
    Layout base (k.openPipe p flag).fds
      ((k.nextWriteFd p flag, ⟨.pipe p .write, flag⟩) ::
        (k.fds.lowestFree, ⟨.pipe p .read, flag⟩) :: opened) :=
  (layout.openLowest _).openLowest _

theorem Tables.before {a : Action} (table : ChildTable s) (taken : act s a = some s')
    (noFork : ∀ pid, a ≠ .setupChild (.fork pid)) (before : s.main.beforeFork = true)
    (layout : Layout config.table s'.kernel.fds s'.openedByMain) : Tables config s' := by
  have unborn := act_unborn taken noFork (table.unborn before)
  exact ⟨fun _ => layout, by simp [unborn], by simp [unborn, ChildPc.beforeExec]⟩

theorem Tables.setupChild {a : SetupChildAction} (tables : Tables config s)
    (table : ChildTable s) (ends : WriteEnds s) (build : s.pipe2Support = true)
    (taken : act s (.setupChild a) = some s') : Tables config s' := by
  have act := taken
  cases a <;> simp only [Server.act, Server.setupChild, require_eq_some] at taken <;>
    obtain ⟨guard, rfl⟩ := taken
  case pipe =>
    have layout := tables.parent (by simp [guard, MainPc.beforeFork])
    refine .before table act (by simp) (by simp [guard, MainPc.beforeFork]) ?_
    simpa [State.openedByMain, guard, State.openedEnd, State.openedSocket, State.storePipe] using
      layout.openPipe .main false
  case reportingPipe =>
    have layout := tables.parent (by simp [guard, MainPc.beforeFork])
    refine .before table act (by simp) (by simp [guard, MainPc.beforeFork]) ?_
    simpa [State.openedByMain, guard, State.openedEnd, State.openedSocket, State.storePipe,
      State.opened, build, MainPc.reportingPipeCreated] using layout.openPipe .reporting true
  case fcntl => exact absurd guard (ends.flagged build).1
  case fork pid =>
    have layout := tables.parent (by simp [guard, MainPc.beforeFork])
    simp only [State.openedByMain, guard] at layout
    exact ⟨by simp [MainPc.beforeFork], fun _ => ⟨_, layout⟩, fun _ => layout.layered⟩
  case close p e rest ret =>
    refine tables.after act (by simp) ?_ rfl rfl
    cases rest <;> simp [MainPc.closeEnds, MainPc.setupChildReturned, MainPc.endThreads,
      MainPc.beforeFork]
  all_goals exact tables.after act (by simp) rfl rfl rfl

theorem Tables.act {a : Action} {ok : State → Action → Prop} (tables : Tables config s)
    (run : system.RunWhere ok actions s) (build : s.pipe2Support = true)
    (taken : act s a = some s') : Tables config s' := by
  have table := ChildTable.run run
  by_cases main : a.OfMain
  · cases a with
    | setupChild a => exact tables.setupChild table (.run run) build taken
    | setupThreads a =>
        have act := taken
        cases a <;> simp only [Server.act, Server.setupThreads, require_eq_some] at taken <;>
          obtain ⟨guard, rfl⟩ := taken
        case join t rest ret =>
          refine tables.after act (by simp) ?_ rfl rfl
          cases rest <;> rfl
        case createChildWait | createClientConnection | createAccept =>
          have layout := tables.parent (by simp [guard, MainPc.beforeFork])
          refine .before table act (by simp) (by simp [guard, MainPc.beforeFork]) ?_
          simpa [State.openedByMain, guard, State.openedSocket] using layout
        all_goals exact tables.after act (by simp) rfl rfl rfl
    | parent a =>
        have act := taken
        cases a <;> simp only [Server.act, Server.parent, require_eq_some] at taken <;>
          obtain ⟨guard, rfl⟩ := taken
        case waitpid error | waitpidFailed error =>
          refine tables.after act (by simp) ?_ rfl rfl
          cases error <;> rfl
        case perrorSigpipe =>
          exact tables.after act (by simp) (by simp [guard, MainPc.beforeFork]) rfl rfl
        all_goals exact tables.after act (by simp) rfl rfl rfl
    | childWait | accept | clientConnection | child | client => exact main.elim
  · have same := act_sameMain taken main
    have noFork : ∀ pid, a ≠ .setupChild (.fork pid) := by
      rintro pid rfl
      exact main trivial
    cases before : s.main.beforeFork with
    | false => exact tables.after taken noFork (same.main ▸ before) same.pipeFds same.socketFd
    | true =>
        refine .before table taken noFork before ?_
        rw [act_fds run taken main before,
          openedByMain_congr same.main same.pipeFds same.socketFd]
        exact tables.parent before

theorem Tables.run {ok : State → Action → Prop} (pipe2 : config.pipe2Support = true)
    (run : (systemFrom config).RunWhere ok actions s) : Tables config s := by
  have build : ∀ actions s, (systemFrom config).RunWhere ok actions s →
      s.pipe2Support = true := by
    intro actions s run
    refine run.stateInvariant (I := fun s => s.pipe2Support = true) ?_ ?_
    · rintro _ rfl
      exact pipe2
    · intro _ s a s' _ build _ step
      rw [(act_constants (system_step.mp step).2).1, build]
  refine run.stateInvariant ?_ ?_
  · rintro _ rfl
    exact .start config
  · exact fun _ _ _ _ before tables _ step =>
      tables.act (run_of_systemFrom before) (build _ _ before) (system_step.mp step).2

/-! ## At the moment of exec -/

/-- The program has what was open when the server was entered, and the main pipe as its standard
input. -/
structure RightDescriptors (config : Config) (fds : DescriptorTable File) : Prop where
  files : ∀ n, fds.fileAt n = if n = stdinFileno then some (.pipe .main .read)
    else (config.inherited.exec.fileAt n).map File.inherited
  listening : ¬ fds.Holds .listening
  connections : ∀ c, ¬ fds.Holds (.connection c)
  mainWrite : ¬ fds.Holds (.pipe .main .write)
  reporting : ∀ e, ¬ fds.Holds (.pipe .reporting e)

theorem Tables.exec (tables : Tables config s) (execvp : s.kernel.child.pc = .execvp) (n : Nat) :
    s.kernel.child.fds.exec.fileAt n = if n = stdinFileno then some (.pipe .main .read)
      else (config.inherited.exec.fileAt n).map File.inherited := by
  have layered := tables.child (by simp [execvp, ChildPc.beforeExec])
  obtain ⟨table, layout⟩ := tables.apart (by simp [execvp])
  have apart := layout.apart
  have here := layered n
  simp only [State.openedByChild, execvp, State.openedEnd,
    DescriptorTable.Over.lookup_cons_eq, List.lookup_nil] at here
  simp only [DescriptorTable.fileAt, DescriptorTable.entry_exec, here]
  by_cases stdin : n = stdinFileno
  · simp [stdin]
  · by_cases report : n = s.pipeFds .reporting .write
    · have free : config.inherited.entry n = none := by
        simpa [Config.table, DescriptorTable.entry_map, report] using
          apart.freeEnd .reporting .write
      simp [report ▸ stdin, report, report ▸ free]
    · cases entry : config.inherited.entry n with
      | none => simp [stdin, report, Config.table, DescriptorTable.entry_map, entry]
      | some d =>
          cases flag : d.closeOnExec <;>
            simp [stdin, report, Config.table, DescriptorTable.entry_map, entry, flag, Option.filter]

theorem rightDescriptors {fds : DescriptorTable File}
    (files : ∀ n, fds.fileAt n = if n = stdinFileno then some (.pipe .main .read)
      else (config.inherited.exec.fileAt n).map File.inherited) :
    RightDescriptors config fds := by
  have held : ∀ f, fds.Holds f → f = .pipe .main .read ∨ ∃ k, f = .inherited k := by
    rintro f ⟨n, here⟩
    rw [files n] at here
    split at here
    · exact .inl (Option.some.inj here).symm
    · obtain ⟨k, -, rfl⟩ := Option.map_eq_some_iff.mp here
      exact .inr ⟨k, rfl⟩
  refine ⟨files, ?_, fun c => ?_, ?_, fun e => ?_⟩ <;> intro holds <;> simpa using held _ holds

theorem exec_descriptors (pipe2 : config.pipe2Support = true)
    (run : (systemFrom config).Run actions s)
    (exec : (systemFrom config).step s (.child .execvp) = some s') :
    RightDescriptors config s'.kernel.child.fds := by
  have taken := (system_step.mp exec).2
  simp only [act, Option.map_eq_some_iff, child, require_eq_some] at taken
  obtain ⟨_, ⟨here, rfl⟩, rfl⟩ := taken
  exact rightDescriptors ((Tables.run pipe2 run).exec here)

/-- Started with a closed standard input and a log file at 3, as a daemon. -/
def Config.daemon : Config :=
  ⟨true, false, ⟨[none, some ⟨1, false⟩, some ⟨2, false⟩, some ⟨3, false⟩]⟩⟩

def childStarts : List Action :=
  [.setupThreads .createChildWait, .setupThreads .createClientConnection,
   .client (.connect 0), .setupThreads .createAccept, .setupChild .pipe,
   .setupChild .reportingPipe, .setupChild (.fork 1), .child .closeReportingRead,
   .child .closeMainWrite, .child .closeSocket, .child .dup2, .child .closeMainRead]

theorem exec_descriptors_daemon :
    ∃ s s', system.exec (.start .daemon) childStarts = some s ∧
      system.step s (.child .execvp) = some s' ∧
      s'.kernel.child.fds.fileAt 0 = some (.pipe .main .read) ∧
      s'.kernel.child.fds.fileAt 3 = some (.inherited 3) ∧
      s'.kernel.child.fds.fileAt 4 = none := by
  obtain ⟨s, path, enabled⟩ :
      ∃ s, (systemFrom .daemon).exec (.start .daemon) childStarts = some s ∧
        (step s (.child .execvp)).isSome = true :=
    System.exists_exec (by decide +kernel)
  obtain ⟨s', taken⟩ := Option.isSome_iff_exists.mp enabled
  have right := exec_descriptors rfl (System.run_of_exec rfl path) taken
  exact ⟨s, s', path, taken, right.files 0, right.files 3, right.files 4⟩

end Usockit.Server
