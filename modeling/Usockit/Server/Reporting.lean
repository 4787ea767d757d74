import Usockit.Server.Sigpipe
import Usockit.Server.ChildTable

namespace Usockit.Server
open Foundation Kernel

variable {s s' : State} {actions : List Action}

/-- The child is not killed between fork() and exec, and its report is written whole. -/
def ReportsWhole (s : State) : Action → Prop
  | .child .killedBySignal => s.kernel.child.pc = .program
  | .child (.wrote error k) => k = error.bytes.length
  | .child (.writeFailed _) => False
  | _ => True

instance (s : State) (a : Action) : Decidable (ReportsWhole s a) := by
  unfold ReportsWhole
  split <;> infer_instance

abbrev Executed (actions : List Action) : Prop := Action.child .execvp ∈ actions

def Action.failure : Action → Option ChildError
  | .child (.dup2Failed errno) => some ⟨.dup2, errno⟩
  | .child (.execvpFailed errno) => some ⟨.execve, errno⟩
  | _ => none

def Failed (actions : List Action) (error : ChildError) : Prop :=
  ∃ a ∈ actions, a.failure = some error

/-! ## The numbers that the child closes -/

/-- The number of the reporting pipe's write end is none of the others that the child uses. -/
structure WriteEndApart (s : State) : Prop where
  mainRead : s.pipeFds .main .read ≠ s.pipeFds .reporting .write
  mainWrite : s.pipeFds .main .write ≠ s.pipeFds .reporting .write
  reportingRead : s.pipeFds .reporting .read ≠ s.pipeFds .reporting .write
  socket : s.socketFd ≠ s.pipeFds .reporting .write
  stdin : stdinFileno ≠ s.pipeFds .reporting .write

structure Numbers (s : State) : Prop where
  socket : s.main.beforeFork = true → s.kernel.fds.fileAt s.socketFd = some .listening
  stdin : s.main.beforeFork = true → ∃ f, s.kernel.fds.fileAt stdinFileno = some f ∧
    ∀ p e, f ≠ .pipe p e
  apart : s.kernel.child.pc ≠ .unborn → WriteEndApart s

theorem Numbers.start (config : Config) : Numbers (.start config) := by
  constructor
  · simp [State.start]
  · intro _
    simp only [State.start, DescriptorTable.fileAt_install]
    split
    · exact ⟨_, rfl, by simp⟩
    · next other =>
      have below : 0 < (config.inherited.map File.inherited).lowestFree :=
        Nat.pos_of_ne_zero fun zero => other zero.symm
      obtain ⟨d, entry⟩ :=
        Option.ne_none_iff_exists'.mp (DescriptorTable.entry_of_lt_lowestFree below)
      have file : (config.inherited.map File.inherited).fileAt stdinFileno = some d.file := by
        simp [DescriptorTable.fileAt, stdinFileno, entry]
      refine ⟨d.file, file, fun p e same => ?_⟩
      simp [same] at file
  · simp [State.start]

theorem act_fds {a : Action} {ok : State → Action → Prop} (run : system.RunWhere ok actions s)
    (taken : act s a = some s') (other : ¬ a.OfMain) (before : s.main.beforeFork = true) :
    s'.kernel.fds = s.kernel.fds := by
  have notReady : s.main.ready = false := by
    cases here : s.main <;> simp_all [MainPc.beforeFork, MainPc.ready]
  have idle : s.accept.sawReady = false := by
    by_contra saw
    simp [(Lifecycle.run run).accept (by simpa using saw)] at notReady
  have nothing : ∀ d, ¬ s.Held d := by
    intro d held
    simp [stored_ready run d ((Handoff.run run).held_stored held)] at notReady
  cases a with
  | setupThreads | setupChild | parent => exact absurd trivial other
  | childWait a =>
      cases a <;> simp only [act, threadRoutineChildWait, require_eq_some,
        Option.ite_none_right_eq_some, Option.map_eq_some_iff] at taken
      case waitForChildReady w a =>
        obtain ⟨-, r, -, rfl⟩ := taken
        rfl
      all_goals
        obtain ⟨-, rfl⟩ := taken
        rfl
  | accept a =>
      cases a <;> simp only [act, threadRoutineAccept, require_eq_some,
        Option.ite_none_right_eq_some, Option.map_eq_some_iff] at taken
      case waitForChildReady w a =>
        obtain ⟨-, r, -, rfl⟩ := taken
        rfl
      case accepted | popClose | cleanupClose =>
        obtain ⟨guard, rfl⟩ := taken
        simp [guard] at idle
      all_goals
        obtain ⟨-, rfl⟩ := taken
        simp
  | clientConnection a =>
      cases a <;> simp only [act, threadRoutineClientConnection, require_eq_some] at taken <;>
        obtain ⟨guard, rfl⟩ := taken
      case cleanupClose fd flag =>
        cases fd with
        | none => rfl
        | some d => exact absurd (.inr (by simp [guard])) (nothing d)
      all_goals simp
  | child a =>
      cases a <;> simp only [act, child, Option.map_eq_some_iff, require_eq_some] at taken <;>
        obtain ⟨k, ⟨-, rfl⟩, rfl⟩ := taken <;> simp
  | client a =>
      cases a <;> simp only [act, client, Option.map_eq_some_iff, require_eq_some] at taken <;>
        obtain ⟨k, ⟨-, rfl⟩, rfl⟩ := taken <;> rfl

theorem Numbers.after {a : Action} (numbers : Numbers s) (taken : act s a = some s')
    (noFork : ∀ pid, a ≠ .setupChild (.fork pid)) (later : s'.main.beforeFork = false)
    (pipeFds : s'.pipeFds = s.pipeFds) (socketFd : s'.socketFd = s.socketFd) : Numbers s' := by
  refine ⟨by simp [later], by simp [later], fun born => ?_⟩
  obtain ⟨mainRead, mainWrite, reportingRead, socket, stdin⟩ :=
    numbers.apart fun unborn => born (act_unborn taken noFork unborn)
  constructor <;> rw [pipeFds]
  · exact mainRead
  · exact mainWrite
  · exact reportingRead
  · rw [socketFd]
    exact socket
  · exact stdin

theorem Numbers.before {a : Action} (numbers : Numbers s) (table : ChildTable s)
    (taken : act s a = some s') (noFork : ∀ pid, a ≠ .setupChild (.fork pid))
    (before : s.main.beforeFork = true) (socketFd : s'.socketFd = s.socketFd)
    (files : ∀ n f, s.kernel.fds.fileAt n = some f → s'.kernel.fds.fileAt n = some f) :
    Numbers s' := by
  constructor
  · intro _
    rw [socketFd]
    exact files _ _ (numbers.socket before)
  · intro _
    obtain ⟨f, here, other⟩ := numbers.stdin before
    exact ⟨f, files _ _ here, other⟩
  · exact fun born => absurd (act_unborn taken noFork (table.unborn before)) born

theorem fileAt_openPipe_of_some {k : Kernel} {p : Pipe} {flag : Bool} {n : Nat} {f : File}
    (here : k.fds.fileAt n = some f) : (k.openPipe p flag).fds.fileAt n = some f := by
  have free : n ≠ k.nextWriteFd p flag := by
    rintro rfl
    simp [fileAt_nextWriteFd] at here
  rw [fileAt_openPipe, if_neg free, if_neg (DescriptorTable.ne_lowestFree here), here]

theorem Numbers.setupChild {a : SetupChildAction} (numbers : Numbers s) (desc : Descriptors s)
    (table : ChildTable s) (taken : act s (.setupChild a) = some s') : Numbers s' := by
  have act := taken
  cases a <;> simp only [Server.act, Server.setupChild, require_eq_some] at taken <;>
    obtain ⟨guard, rfl⟩ := taken
  case pipe | reportingPipe =>
    exact numbers.before table act (by simp) (by simp [guard, MainPc.beforeFork]) rfl
      fun n f => fileAt_openPipe_of_some
  case fcntl =>
    exact numbers.before table act (by simp) (by simp [guard, MainPc.beforeFork]) rfl (by simp)
  case fork pid =>
    have before : s.main.beforeFork = true := by simp [guard, MainPc.beforeFork]
    have apart : ∀ n f, s.kernel.fds.fileAt n = some f → f ≠ .pipe .reporting .write →
        n ≠ s.pipeFds .reporting .write := by
      rintro n f here other rfl
      have there := (desc.pipes _ .reporting .write).mpr ⟨by simp [guard, MainPc.hasOpen], rfl⟩
      exact other (Option.some.inj (here.symm.trans there))
    have isOpen : ∀ p e, s.kernel.fds.fileAt (s.pipeFds p e) = some (.pipe p e) := fun p e =>
      (desc.pipes _ p e).mpr ⟨by simp [guard, MainPc.hasOpen], rfl⟩
    obtain ⟨f, stdin, other⟩ := numbers.stdin before
    refine ⟨by simp [MainPc.beforeFork], by simp [MainPc.beforeFork], fun _ => ?_⟩
    exact ⟨apart _ _ (isOpen _ _) (by simp), apart _ _ (isOpen _ _) (by simp),
      apart _ _ (isOpen _ _) (by simp), apart _ _ (numbers.socket before) (by simp),
      apart _ f stdin (other _ _)⟩
  case close p e rest ret =>
    refine numbers.after act (by simp) ?_ rfl rfl
    cases rest <;> simp [MainPc.closeEnds, MainPc.setupChildReturned, MainPc.endThreads,
      MainPc.beforeFork]
  all_goals
    exact numbers.after act (by simp) rfl rfl rfl

theorem Numbers.act {a : Action} {ok : State → Action → Prop} (numbers : Numbers s)
    (run : system.RunWhere ok actions s) (taken : act s a = some s') : Numbers s' := by
  have table := ChildTable.run run
  by_cases main : a.OfMain
  · cases a with
    | setupChild a => exact numbers.setupChild (.run run) table taken
    | setupThreads a =>
        have act := taken
        cases a <;> simp only [Server.act, Server.setupThreads, require_eq_some] at taken <;>
          obtain ⟨guard, rfl⟩ := taken
        case join t rest ret =>
          refine numbers.after act (by simp) ?_ rfl rfl
          cases rest <;> rfl
        case createChildWait | createClientConnection | createAccept =>
          exact numbers.before table act (by simp) (by simp [guard, MainPc.beforeFork]) rfl
            fun _ _ => id
        all_goals exact numbers.after act (by simp) rfl rfl rfl
    | parent a =>
        have act := taken
        cases a <;> simp only [Server.act, Server.parent, require_eq_some] at taken <;>
          obtain ⟨guard, rfl⟩ := taken
        case waitpid error | waitpidFailed error =>
          refine numbers.after act (by simp) ?_ rfl rfl
          cases error <;> rfl
        case perrorSigpipe =>
          exact numbers.after act (by simp) (by simp [guard, MainPc.beforeFork]) rfl rfl
        all_goals exact numbers.after act (by simp) rfl rfl rfl
    | childWait | accept | clientConnection | child | client => exact main.elim
  · have same := act_sameMain taken main
    have noFork : ∀ pid, a ≠ .setupChild (.fork pid) := by
      rintro pid rfl
      exact main trivial
    cases before : s.main.beforeFork with
    | false => exact numbers.after taken noFork (same.main ▸ before) same.pipeFds same.socketFd
    | true =>
        refine numbers.before table taken noFork before same.socketFd fun n f here => ?_
        rw [act_fds run taken main before, here]

theorem Numbers.run {ok : State → Action → Prop} (run : system.RunWhere ok actions s) :
    Numbers s := by
  refine run.stateInvariant ?_ ?_
  · rintro _ ⟨config, rfl⟩
    exact .start config
  · intro _ s a s' run numbers _ step
    exact numbers.act run (system_step.mp step).2

/-! ## The copies of the write end -/

/-- The child has its write end open and has not come to the end of usockit_server_child. -/
def ChildPc.beforeExit : ChildPc → Bool
  | .unborn | .exit | .program | .zombie | .reaped => false
  | _ => true

/-- With pipe2() every copy of the write end is closed by exec. -/
structure WriteEnds (s : State) : Prop where
  child : s.kernel.child.pc.beforeExit = true →
    s.kernel.child.fds.fileAt (s.pipeFds .reporting .write) = some (.pipe .reporting .write)
  flagged : s.pipe2Support = true → s.main ≠ .setCloseOnExec ∧
    s.kernel.fds.ClosesOnExec (.pipe .reporting .write) ∧
    s.kernel.child.fds.ClosesOnExec (.pipe .reporting .write)
  program : s.pipe2Support = true → s.kernel.child.pc = .program →
    ¬ s.kernel.child.fds.Holds (.pipe .reporting .write)

theorem WriteEnds.start (config : Config) : WriteEnds (.start config) := by
  refine ⟨by simp [State.start, ChildPc.beforeExit], fun _ => ⟨by simp [State.start], ?_, ?_⟩,
    by simp [State.start]⟩
  · refine DescriptorTable.ClosesOnExec.install ?_ (by simp)
    intro n d here file
    simp only [DescriptorTable.entry_map, Option.map_eq_some_iff] at here
    obtain ⟨e, -, rfl⟩ := here
    cases file
  · exact .empty

theorem WriteEnds.frame (ends : WriteEnds s)
    (fds : s'.kernel.child.fds = s.kernel.child.fds)
    (pc : s'.kernel.child.pc = s.kernel.child.pc ∨
      s.kernel.child.pc = .zombie ∧ s'.kernel.child.pc = .reaped)
    (pipeFds : s'.pipeFds = s.pipeFds ∨ s.kernel.child.pc = .unborn)
    (build : s'.pipe2Support = s.pipe2Support)
    (main : s.pipe2Support = true → s'.main ≠ .setCloseOnExec)
    (closes : s.pipe2Support = true → s.kernel.fds.ClosesOnExec (.pipe .reporting .write) →
      s'.kernel.fds.ClosesOnExec (.pipe .reporting .write)) : WriteEnds s' := by
  constructor
  · intro before
    rcases pc with same | ⟨-, reaped⟩
    · rw [same] at before
      rcases pipeFds with pipeFds | unborn
      · rw [fds, pipeFds]
        exact ends.child before
      · simp [unborn, ChildPc.beforeExit] at before
    · simp [reaped, ChildPc.beforeExit] at before
  · rw [build, fds]
    intro pipe2
    obtain ⟨-, server, child⟩ := ends.flagged pipe2
    exact ⟨main pipe2, closes pipe2 server, child⟩
  · rw [build, fds]
    intro pipe2 program
    rcases pc with same | ⟨-, reaped⟩
    · exact ends.program pipe2 (same ▸ program)
    · simp [reaped] at program

theorem closesOnExec_openPipe {k : Kernel} {p : Pipe} {flag : Bool}
    (closes : k.fds.ClosesOnExec (.pipe .reporting .write))
    (flagged : p = .reporting → flag = true) :
    (k.openPipe p flag).fds.ClosesOnExec (.pipe .reporting .write) :=
  (closes.install (by simp)).install fun same => flagged (by simpa using same)

theorem WriteEnds.setupChild {a : SetupChildAction} (ends : WriteEnds s) (desc : Descriptors s)
    (table : ChildTable s) (taken : act s (.setupChild a) = some s') : WriteEnds s' := by
  cases a <;> simp only [Server.act, Server.setupChild, require_eq_some] at taken <;>
    obtain ⟨guard, rfl⟩ := taken
  case pipe =>
    refine ends.frame rfl (.inl rfl) (.inr ?_) rfl (by simp) ?_
    · exact table.unborn (by simp [guard, MainPc.beforeFork])
    · exact fun _ closes => closesOnExec_openPipe closes (by simp)
  case reportingPipe =>
    refine ends.frame rfl (.inl rfl) (.inr ?_) rfl ?_ ?_
    · exact table.unborn (by simp [guard, MainPc.beforeFork])
    · exact fun pipe2 => by simp [pipe2, MainPc.reportingPipeCreated]
    · exact fun pipe2 closes => closesOnExec_openPipe closes fun _ => pipe2
  case fcntl =>
    exact ends.frame rfl (.inl rfl) (.inl rfl) rfl (by simp) fun pipe2 _ =>
      absurd guard (ends.flagged pipe2).1
  case fork pid =>
    refine ⟨fun _ => ?_, fun pipe2 => ?_, by simp⟩
    · exact (desc.pipes _ _ _).mpr ⟨by simp [guard.1, MainPc.hasOpen], rfl⟩
    · exact ⟨by simp, (ends.flagged pipe2).2.1, (ends.flagged pipe2).2.1⟩
  case close p e rest ret =>
    refine ends.frame rfl (.inl rfl) (.inl rfl) rfl (fun _ => ?_) fun _ closes => closes.close
    cases rest <;> simp [MainPc.closeEnds, MainPc.setupChildReturned, MainPc.endThreads]
  case closeReportingWrite | closeMainRead =>
    exact ends.frame rfl (.inl rfl) (.inl rfl) rfl (by simp) fun _ closes => closes.close
  all_goals
    exact ends.frame rfl (.inl rfl) (.inl rfl) rfl
      (by simp [MainPc.closeEnds, MainPc.setupChildReturned, MainPc.endThreads])
      fun _ => id

theorem WriteEnds.childStep {a : ChildAction} (ends : WriteEnds s) (numbers : Numbers s)
    (taken : act s (.child a) = some s') : WriteEnds s' := by
  simp only [Server.act, Option.map_eq_some_iff] at taken
  obtain ⟨k, taken, rfl⟩ := taken
  have here := ends.child
  have apart := numbers.apart
  have flagged : s.pipe2Support = true →
      s.kernel.child.fds.ClosesOnExec (.pipe .reporting .write) := fun pipe2 =>
    (ends.flagged pipe2).2.2
  constructor
  · intro before
    cases a <;> simp only [Server.child, require_eq_some] at taken <;>
      obtain ⟨guard, rfl⟩ := taken
    case closeReportingRead | closeMainWrite | closeSocket | closeMainReadFailed | closeMainRead =>
      obtain ⟨mainRead, mainWrite, reportingRead, socket, -⟩ := apart (by simp [guard])
      simpa [mainRead.symm, mainWrite.symm, reportingRead.symm, socket.symm] using
        here (by simp [guard, ChildPc.beforeExit])
    case dup2 =>
      have stdin := (apart (by simp [guard])).stdin
      have there := here (by simp [guard, ChildPc.beforeExit])
      simp only [child_setChild, dup2Stdin]
      split
      · exact there
      · simpa [stdin.symm] using there
    case dup2Failed | execvpFailed | wrote | writeFailed =>
      exact here (by simp [guard, ChildPc.beforeExit])
    case programReads => exact here before
    case programWrites =>
      rw [child_deliver] at before ⊢
      exact here before
    all_goals simp [ChildPc.beforeExit] at before
  · intro pipe2
    obtain ⟨main, server, child⟩ := ends.flagged pipe2
    cases a <;> simp only [Server.child, require_eq_some] at taken <;>
      obtain ⟨guard, rfl⟩ := taken
    case closeReportingRead | closeMainWrite | closeSocket | closeMainReadFailed |
        closeMainRead | closeReportingWrite | programCloses =>
      exact ⟨main, server, child.close⟩
    case dup2 =>
      refine ⟨main, server, ?_⟩
      simp only [child_setChild, dup2Stdin]
      split
      · exact child
      · exact child.install (by simp)
    case execvp => exact ⟨main, server, child.exec⟩
    case exit | programExits | killedBySignal => exact ⟨main, server, .empty⟩
    case programWrites => exact ⟨main, by simpa using server, by simpa using child⟩
    case wrote => exact ⟨main, by simpa using server, child⟩
    all_goals exact ⟨main, server, child⟩
  · intro pipe2 program
    cases a <;> simp only [Server.child, require_eq_some] at taken <;>
      obtain ⟨guard, rfl⟩ := taken
    case execvp => exact (ends.flagged pipe2).2.2.not_holds_exec
    case programCloses =>
      exact fun held => ends.program pipe2 guard (DescriptorTable.holds_of_close held)
    case programReads => exact ends.program pipe2 guard.1
    case programWrites => simpa using ends.program pipe2 guard.1
    all_goals simp at program

theorem WriteEnds.act {a : Action} (ends : WriteEnds s) (desc : Descriptors s)
    (table : ChildTable s) (numbers : Numbers s) (taken : act s a = some s') : WriteEnds s' := by
  have noFcntl : s.pipe2Support = true → s.main ≠ .setCloseOnExec := fun pipe2 =>
    (ends.flagged pipe2).1
  cases a with
  | setupChild a => exact ends.setupChild desc table taken
  | child a => exact ends.childStep numbers taken
  | setupThreads a =>
      cases a <;> simp only [Server.act, Server.setupThreads, require_eq_some] at taken <;>
        obtain ⟨-, rfl⟩ := taken
      case join t rest ret =>
        refine ends.frame rfl (.inl rfl) (.inl rfl) rfl (fun _ => ?_) fun _ => id
        cases rest <;> simp [MainPc.endThreads]
      all_goals
        exact ends.frame rfl (.inl rfl) (.inl rfl) rfl (by simp [MainPc.endThreads]) fun _ => id
  | parent a =>
      cases a <;> simp only [Server.act, Server.parent, require_eq_some] at taken <;>
        obtain ⟨guard, rfl⟩ := taken
      case waitpid error =>
        refine ends.frame rfl (.inr ⟨guard.2.2, rfl⟩) (.inl rfl) rfl (fun _ => ?_) fun _ => id
        cases error <;> simp [MainPc.afterChildError]
      case waitpidFailed error =>
        refine ends.frame rfl (.inl rfl) (.inl rfl) rfl (fun _ => ?_) fun _ => id
        cases error <;> simp [MainPc.afterChildError]
      case perror =>
        exact ends.frame (by simp) (by simp) (.inl rfl) rfl
          (by simp [MainPc.parentReturned, MainPc.closeEnds]) (by simp)
      case perrorSigpipe => exact ends.frame rfl (.inl rfl) (.inl rfl) rfl noFcntl fun _ => id
      all_goals
        exact ends.frame rfl (.inl rfl) (.inl rfl) rfl
          (by simp [MainPc.parentReturned, MainPc.closeEnds]) fun _ => id
  | childWait a =>
      cases a <;> simp only [Server.act, threadRoutineChildWait, require_eq_some,
        Option.ite_none_right_eq_some, Option.map_eq_some_iff] at taken
      case waitForChildReady w a =>
        obtain ⟨-, r, -, rfl⟩ := taken
        exact ends.frame rfl (.inl rfl) (.inl rfl) rfl noFcntl fun _ => id
      case waitpid =>
        obtain ⟨guard, rfl⟩ := taken
        exact ends.frame rfl (.inr ⟨guard.2.2, rfl⟩) (.inl rfl) rfl noFcntl fun _ => id
      all_goals
        obtain ⟨-, rfl⟩ := taken
        exact ends.frame rfl (.inl rfl) (.inl rfl) rfl noFcntl fun _ => id
  | accept a =>
      cases a <;> simp only [Server.act, threadRoutineAccept, require_eq_some,
        Option.ite_none_right_eq_some, Option.map_eq_some_iff] at taken
      case waitForChildReady w a =>
        obtain ⟨-, r, -, rfl⟩ := taken
        exact ends.frame rfl (.inl rfl) (.inl rfl) rfl noFcntl fun _ => id
      case accepted c =>
        obtain ⟨-, rfl⟩ := taken
        exact ends.frame rfl (.inl rfl) (.inl rfl) rfl noFcntl fun _ closes =>
          closes.install (by simp)
      case popClose | cleanupClose =>
        obtain ⟨-, rfl⟩ := taken
        exact ends.frame rfl (.inl rfl) (.inl rfl) rfl noFcntl fun _ closes => closes.close
      all_goals
        obtain ⟨-, rfl⟩ := taken
        exact ends.frame (by simp) (by simp) (.inl rfl) rfl noFcntl (by simp)
  | clientConnection a =>
      cases a <;> simp only [Server.act, threadRoutineClientConnection, require_eq_some] at taken <;>
        obtain ⟨-, rfl⟩ := taken
      case cleanupClose fd flag =>
        refine ends.frame (by simp) (by simp) (.inl rfl) rfl noFcntl fun _ closes => ?_
        cases fd with
        | none => exact closes
        | some d => exact closes.close
      all_goals exact ends.frame (by simp) (by simp) (.inl rfl) rfl noFcntl (by simp)
  | client a =>
      cases a <;> simp only [Server.act, client, Option.map_eq_some_iff, require_eq_some] at taken <;>
        obtain ⟨k, ⟨-, rfl⟩, rfl⟩ := taken <;>
        exact ends.frame rfl (.inl rfl) (.inl rfl) rfl noFcntl fun _ => id

theorem WriteEnds.run {ok : State → Action → Prop} (run : system.RunWhere ok actions s) :
    WriteEnds s := by
  refine run.stateInvariant ?_ ?_
  · rintro _ ⟨config, rfl⟩
    exact .start config
  · intro _ s a s' run ends _ step
    exact ends.act (.run run) (.run run) (.run run) (system_step.mp step).2

theorem reportingWrite_of_act {a : Action} (taken : act s a = some s')
    (before : s.main.ready = true → s.main.hasOpen .reporting .write = false) :
    s'.main.ready = true → s'.main.hasOpen .reporting .write = false := by
  cases a with
  | setupThreads a =>
      cases a <;> simp only [Server.act, Server.setupThreads, require_eq_some] at taken <;>
        obtain ⟨guard, rfl⟩ := taken
      case join t rest ret => cases rest <;> simp [MainPc.endThreads, MainPc.hasOpen]
      all_goals simp [MainPc.endThreads, MainPc.hasOpen, MainPc.ready]
  | setupChild a =>
      cases a <;> simp only [Server.act, Server.setupChild, require_eq_some] at taken <;>
        obtain ⟨guard, rfl⟩ := taken
      case close p e rest ret =>
        cases rest <;> simp_all [MainPc.closeEnds, MainPc.setupChildReturned, MainPc.endThreads,
          MainPc.hasOpen, MainPc.ready]
      case reportingPipe =>
        cases s.pipe2Support <;> simp [MainPc.reportingPipeCreated, MainPc.ready]
      all_goals simp [MainPc.closeEnds, MainPc.setupChildReturned, MainPc.endThreads,
        MainPc.hasOpen, MainPc.ready]
  | parent a =>
      cases a <;> simp only [Server.act, Server.parent, require_eq_some] at taken <;>
        obtain ⟨guard, rfl⟩ := taken
      case waitpid error | waitpidFailed error =>
        cases error <;> simp [MainPc.afterChildError, MainPc.ready]
      all_goals simp [guard, MainPc.parentReturned, MainPc.closeEnds, MainPc.hasOpen, MainPc.ready]
  | childWait | accept | clientConnection | child | client =>
      rw [(act_sameMain taken id).main]
      exact before

theorem reportingWrite_closed {ok : State → Action → Prop}
    (run : system.RunWhere ok actions s) :
    s.main.ready = true → s.main.hasOpen .reporting .write = false := by
  refine run.stateInvariant (I := fun s => s.main.ready = true →
    s.main.hasOpen .reporting .write = false) ?_ ?_
  · rintro _ ⟨config, rfl⟩
    simp [State.start, MainPc.ready]
  · exact fun _ s a s' _ before _ step => reportingWrite_of_act (system_step.mp step).2 before

/-! ## The report -/

/-- The child has not tried dup2() and execvp() to the end. -/
def ChildPc.undecided : ChildPc → Bool
  | .unborn | .closeReportingRead | .closeMainWrite | .closeSocket | .dup2 => true
  | .closeMainRead | .execvp => true
  | _ => false

def ChildPc.reporting : ChildPc → Option ChildError
  | .closeMainReadFailed error | .write error => some error
  | _ => none

def ChildPc.reported : ChildPc → Bool
  | .closeReportingWrite | .exit | .zombie | .reaped => true
  | _ => false

def MainPc.unread : MainPc → Bool
  | .closeReportingWrite | .closeMainRead | .storeChildPid | .storeChildStdinFd => true
  | .readReport => true
  | pc => pc.beforeFork

def MainPc.sawEnd : MainPc → Bool
  | .lock | .setCondition => true
  | pc => pc.ready

structure Report (actions : List Action) (s : State) : Prop where
  undecided : s.kernel.child.pc.undecided = true →
    ¬ Executed actions ∧ ∀ error, ¬ Failed actions error
  reporting : ∀ error, s.kernel.child.pc.reporting = some error → Failed actions error
  reported : s.kernel.child.pc.reported = true → Executed actions ∨ ∃ error, Failed actions error
  executed : Executed actions → s.kernel.child.pc = .program ∨ s.kernel.child.pc = .zombie ∨
    s.kernel.child.pc = .reaped
  program : s.kernel.child.pc = .program → Executed actions
  failed : ∀ error, Failed actions error → s.kernel.child.pc.reporting = some error ∨
    s.kernel.child.pc.reported = true ∧
      (s.main.unread = true → s.kernel.reportingPipe = error.bytes)
  unique : ∀ error error', Failed actions error → Failed actions error' → error = error'
  exclusive : Executed actions → ∀ error, ¬ Failed actions error
  pipe : s.kernel.reportingPipe = [] ∨ ∃ error, Failed actions error ∧
    s.kernel.child.pc.reported = true ∧ s.kernel.reportingPipe = error.bytes
  sawEnd : s.main.sawEnd = true → Executed actions
  waitpid : ∀ result, s.main = .waitpid result → ∃ error, result = some error ∧
    Failed actions error
  born : s.main.beforeFork = false → s.main.unread = true → s.kernel.child.pc ≠ .unborn

theorem Report.start (config : Config) : Report [] (.start config) := by
  constructor <;> simp [State.start, Failed, ChildPc.reporting, ChildPc.reported, MainPc.sawEnd,
    MainPc.ready, MainPc.beforeFork]

theorem Report.pipe_empty (report : Report actions s)
    (noFailure : ∀ error, ¬ Failed actions error) : s.kernel.reportingPipe = [] := by
  refine report.pipe.resolve_right ?_
  rintro ⟨error, failed, -⟩
  exact noFailure error failed

/-- The child goes on without a new outcome and without a report. -/
structure ChildPc.Continues (pc pc' : ChildPc) : Prop where
  undecided : pc'.undecided = pc.undecided
  reporting : pc'.reporting = pc.reporting
  reported : pc.reported = true → pc'.reported = true
  unreported : pc'.reported = true → pc.reported = true ∨ pc = .program
  program : pc' = .program → pc = .program
  executed : pc = .program ∨ pc = .zombie ∨ pc = .reaped →
    pc' = .program ∨ pc' = .zombie ∨ pc' = .reaped
  born : pc' = .unborn → pc = .unborn

theorem ChildPc.Continues.rfl {pc : ChildPc} : pc.Continues pc :=
  ⟨Eq.refl _, Eq.refl _, id, .inl, id, id, id⟩

section
variable {a : Action}

theorem executed_snoc (noExec : a ≠ .child .execvp) :
    Executed (actions ++ [a]) ↔ Executed actions := by
  simp [Executed, noExec.symm]

theorem failed_snoc {error : ChildError} :
    Failed (actions ++ [a]) error ↔ Failed actions error ∨ a.failure = some error := by
  constructor
  · rintro ⟨b, here, failure⟩
    rcases List.mem_append.mp here with before | new
    · exact .inl ⟨b, before, failure⟩
    · exact .inr (List.mem_singleton.mp new ▸ failure)
  · rintro (⟨b, before, failure⟩ | failure)
    · exact ⟨b, List.mem_append_left _ before, failure⟩
    · exact ⟨a, by simp, failure⟩

theorem failed_snoc_none {error : ChildError} (noFailure : a.failure = none) :
    Failed (actions ++ [a]) error ↔ Failed actions error := by
  simp [failed_snoc, noFailure]

theorem Report.frame (report : Report actions s) (noExec : a ≠ .child .execvp)
    (noFailure : a.failure = none)
    (pc : s.kernel.child.pc.Continues s'.kernel.child.pc)
    (pipe : s'.kernel.reportingPipe = s.kernel.reportingPipe ∨
      s'.kernel.reportingPipe = [] ∧ s'.main.unread = false)
    (unread : s'.main.unread = true → s.main.unread = true)
    (sawEnd : s'.main.sawEnd = true → s.main.sawEnd = true ∨ Executed actions)
    (waitpid : ∀ result, s'.main = .waitpid result → s.main = .waitpid result ∨
      ∃ error, result = some error ∧ Failed actions error)
    (forked : s'.main.beforeFork = false → s'.main.unread = true → s.main.beforeFork = false) :
    Report (actions ++ [a]) s' := by
  have executed : Executed (actions ++ [a]) ↔ Executed actions := executed_snoc noExec
  have failed : ∀ error, Failed (actions ++ [a]) error ↔ Failed actions error :=
    fun _ => failed_snoc_none noFailure
  constructor <;> simp -failIfUnchanged only [executed, failed, pc.undecided, pc.reporting]
  · exact report.undecided
  · exact report.reporting
  · intro reported
    rcases pc.unreported reported with before | program
    · exact report.reported before
    · exact .inl (report.program program)
  · exact fun here => pc.executed (report.executed here)
  · exact fun here => report.program (pc.program here)
  · intro error here
    refine (report.failed error here).imp_right fun ⟨reported, whole⟩ => ?_
    refine ⟨pc.reported reported, fun here => ?_⟩
    rcases pipe with same | ⟨-, read⟩
    · rw [same, whole (unread here)]
    · simp [read] at here
  · exact report.unique
  · exact report.exclusive
  · rcases pipe with same | ⟨empty, -⟩
    · rw [same]
      exact report.pipe.imp_right fun ⟨error, here, reported, whole⟩ =>
        ⟨error, here, pc.reported reported, whole⟩
    · exact .inl empty
  · exact fun here => (sawEnd here).elim report.sawEnd id
  · exact fun result here => (waitpid result here).elim (report.waitpid result) id
  · exact fun later here unborn =>
      report.born (forked later here) (unread here) (pc.born unborn)

section
attribute [local simp] MainPc.unread MainPc.sawEnd MainPc.ready MainPc.beforeFork
  MainPc.endThreads MainPc.closeEnds MainPc.setupChildReturned MainPc.parentReturned
  MainPc.afterChildError MainPc.reportingPipeCreated

theorem ChildPc.Continues.reaped : ChildPc.Continues .zombie .reaped := by
  constructor <;> simp [ChildPc.undecided, ChildPc.reporting, ChildPc.reported]

theorem Report.setupThreads {a : SetupThreadsAction} (report : Report actions s)
    (taken : act s (.setupThreads a) = some s') : Report (actions ++ [.setupThreads a]) s' := by
  cases a <;> simp only [Server.act, Server.setupThreads, require_eq_some] at taken <;>
    obtain ⟨guard, rfl⟩ := taken
  case join t rest ret =>
    cases rest <;> exact report.frame (by simp) rfl .rfl (.inl rfl) (by simp)
      (fun saw => .inl (by simpa [guard] using saw)) (by simp) (by simp)
  case cancel | release | ret =>
    exact report.frame (by simp) rfl .rfl (.inl rfl) (by simp)
      (fun saw => .inl (by simpa [guard] using saw)) (by simp) (by simp)
  all_goals
    exact report.frame (by simp) rfl .rfl (.inl rfl) (by simp [guard]) (by simp) (by simp)
      (by simp)

theorem Report.setupChild {a : SetupChildAction} (report : Report actions s)
    (table : ChildTable s) (taken : act s (.setupChild a) = some s') :
    Report (actions ++ [.setupChild a]) s' := by
  cases a <;> simp only [Server.act, Server.setupChild, require_eq_some] at taken <;>
    obtain ⟨guard, rfl⟩ := taken
  case fork pid =>
    have unborn := table.unborn (by simp [guard])
    obtain ⟨noExec, noFailure⟩ := report.undecided (by simp [unborn, ChildPc.undecided])
    have executed : Executed (actions ++ [.setupChild (.fork pid)]) ↔ Executed actions :=
      executed_snoc (by simp)
    have failed : ∀ error, Failed (actions ++ [.setupChild (.fork pid)]) error ↔
        Failed actions error := fun _ => failed_snoc_none rfl
    have empty := report.pipe_empty noFailure
    constructor <;> simp -failIfUnchanged only [executed, failed]
    · exact fun _ => ⟨noExec, noFailure⟩
    · simp [ChildPc.reporting]
    · simp [ChildPc.reported]
    · exact fun here => absurd here noExec
    · simp
    · exact fun error here => absurd here (noFailure error)
    · exact report.unique
    · exact report.exclusive
    · exact .inl empty
    · simp
    · simp
    · simp
  case reportingPipe =>
    cases build : s.pipe2Support <;>
      exact report.frame (by simp) rfl .rfl (.inl rfl) (by simp [guard]) (by simp) (by simp) (by simp)
  case close p e rest ret =>
    cases rest <;> exact report.frame (by simp) rfl .rfl (.inl rfl) (by simp)
      (fun saw => .inl (by simpa [guard] using saw)) (by simp) (by simp)
  all_goals
    exact report.frame (by simp) rfl .rfl (.inl rfl) (by simp [guard]) (by simp [guard]) (by simp)
      (by simp [guard])

/-- The end of the reporting pipe tells that execvp() has succeeded. -/
theorem Report.executed_of_end (report : Report actions s) (ends : WriteEnds s)
    (here : s.main = .readReport) (empty : s.kernel.reportingPipe = [])
    (closed : ¬ s.kernel.Open (.pipe .reporting .write)) : Executed actions := by
  have notBefore : s.kernel.child.pc.beforeExit = false := by
    by_contra before
    exact closed (.inr ⟨_, ends.child (by simpa using before)⟩)
  have unborn := report.born (by simp [here]) (by simp [here])
  cases pc : s.kernel.child.pc <;> simp_all [ChildPc.beforeExit]
  case program => exact report.program pc
  all_goals
    refine (report.reported (by simp [pc, ChildPc.reported])).resolve_right ?_
    rintro ⟨error, failed⟩
    rcases report.failed error failed with reporting | ⟨-, whole⟩
    · simp [pc, ChildPc.reporting] at reporting
    · have length := congrArg List.length (whole (by simp [here]))
      simp [empty, childErrorSize] at length

theorem reportingPipe_deliver {k : Kernel} {f : File} (bytes : List Byte)
    (other : f ≠ .pipe .reporting .write) :
    (k.deliver f bytes).reportingPipe = k.reportingPipe := by
  unfold deliver
  split <;> simp_all

/-- perror() is only called when main has closed its write end of the reporting pipe. -/
theorem reportingPipe_writeStderr (desc : Descriptors s)
    (closed : s.main.hasOpen .reporting .write = false) (bytes : List Byte) :
    (s.kernel.writeStderr bytes).reportingPipe = s.kernel.reportingPipe := by
  obtain same | ⟨f, here, -, same⟩ := s.kernel.writeStderr_cases bytes <;> rw [same]
  refine reportingPipe_deliver bytes ?_
  rintro rfl
  simp [((desc.pipes _ _ _).mp here).1] at closed

theorem Report.parent {a : ParentAction} (report : Report actions s) (ends : WriteEnds s)
    (desc : Descriptors s) (taken : act s (.parent a) = some s') :
    Report (actions ++ [.parent a]) s' := by
  cases a <;> simp only [Server.act, Server.parent, require_eq_some] at taken <;>
    obtain ⟨guard, rfl⟩ := taken
  case readEof =>
    obtain ⟨⟨here, -⟩, empty, closed⟩ := guard
    have executed := report.executed_of_end ends here empty closed
    exact report.frame (by simp) rfl .rfl (.inl rfl) (by simp) (fun _ => .inr executed) (by simp)
      (by simp)
  case readError =>
    obtain ⟨⟨here, -⟩, enough⟩ := guard
    obtain ⟨error, failed, reported, whole⟩ := report.pipe.resolve_left (by
      rintro empty
      simp [empty, childErrorSize] at enough)
    refine report.frame (by simp) rfl .rfl (.inr ⟨by simp [whole, childErrorSize], by simp⟩)
      (by simp) (by simp) (fun result there => .inr ⟨error, ?_, failed⟩) (by simp)
    rw [← MainPc.waitpid.inj there, whole, List.take_of_length_le (by simp)]
    exact ChildError.ofBytes_bytes error
  case readShort =>
    obtain ⟨-, some, short⟩ := guard
    obtain ⟨error, -, -, whole⟩ := report.pipe.resolve_left some
    simp [whole] at short
  case waitpid error =>
    have reaped := guard.2.2 ▸ ChildPc.Continues.reaped
    cases error <;>
      exact report.frame (by simp) rfl reaped (.inl rfl) (by simp) (by simp) (by simp) (by simp)
  case waitpidFailed error =>
    cases error <;> exact report.frame (by simp) rfl .rfl (.inl rfl)
      (by simp) (by simp) (by simp) (by simp)
  case perror =>
    exact report.frame (by simp) rfl (by simp [ChildPc.Continues.rfl])
      (.inl (reportingPipe_writeStderr desc (by simp [guard, MainPc.hasOpen]) _))
      (by simp) (by simp) (by simp) (by simp)
  case perrorSigpipe =>
    exact report.frame (by simp) rfl .rfl (.inl rfl) id .inl (fun _ => .inl) fun later _ => later
  all_goals
    exact report.frame (by simp) rfl .rfl (.inl rfl) (by simp) (by simp [guard]) (by simp) (by simp)

end

/-! ## The steps of the child -/

theorem act_reportingPipe_same {ok : State → Action → Prop}
    (run : system.RunWhere ok actions s) (taken : act s a = some s')
    (notParent : ∀ b, a ≠ .parent b) (notChild : ∀ b, a ≠ .child b) :
    s'.kernel.reportingPipe = s.kernel.reportingPipe := by
  cases a with
  | parent b => exact absurd rfl (notParent b)
  | child b => exact absurd rfl (notChild b)
  | setupThreads a =>
      cases a <;> simp only [act, setupThreads, require_eq_some] at taken <;>
        obtain ⟨-, rfl⟩ := taken <;> rfl
  | setupChild a =>
      cases a <;> simp only [act, setupChild, require_eq_some] at taken <;>
        obtain ⟨-, rfl⟩ := taken <;> rfl
  | childWait a =>
      cases a <;> simp only [act, threadRoutineChildWait, require_eq_some,
        Option.ite_none_right_eq_some, Option.map_eq_some_iff] at taken
      case waitForChildReady w a =>
        obtain ⟨-, r, -, rfl⟩ := taken
        rfl
      all_goals
        obtain ⟨-, rfl⟩ := taken
        rfl
  | accept a =>
      cases a <;> simp only [act, threadRoutineAccept, require_eq_some,
        Option.ite_none_right_eq_some, Option.map_eq_some_iff] at taken
      case waitForChildReady w a =>
        obtain ⟨-, r, -, rfl⟩ := taken
        rfl
      case wrote fd w f k =>
        obtain ⟨⟨here, file, -⟩, rfl⟩ := taken
        obtain rfl := Option.some.inj ((accept_writesTo run here).symm.trans file)
        exact reportingPipe_deliver _ (by simp)
      case perror =>
        obtain ⟨⟨here, -⟩, rfl⟩ := taken
        have ready := (Lifecycle.run run).accept (by simp [here])
        exact reportingPipe_writeStderr (.run run) (reportingWrite_closed run ready) _
      all_goals
        obtain ⟨-, rfl⟩ := taken
        rfl
  | clientConnection a =>
      cases a <;> simp only [act, threadRoutineClientConnection, require_eq_some] at taken <;>
        obtain ⟨guard, rfl⟩ := taken
      case wrote w f k =>
        obtain rfl := clientConnection_file run guard.1 guard.2.1
        exact reportingPipe_deliver _ (by simp)
      case cleanupClose fd flag => cases fd <;> rfl
      all_goals rfl
  | client a =>
      cases a <;> simp only [act, client, Option.map_eq_some_iff, require_eq_some] at taken <;>
        obtain ⟨k, ⟨-, rfl⟩, rfl⟩ := taken <;> rfl

theorem Report.fail {error : ChildError} (report : Report actions s)
    (before : s.kernel.child.pc.undecided = true) (noExec : a ≠ .child .execvp)
    (failure : a.failure = some error) (same : SameMain s s')
    (undecided : s'.kernel.child.pc.undecided = false)
    (reporting : s'.kernel.child.pc.reporting = some error)
    (reported : s'.kernel.child.pc.reported = false)
    (pipe : s'.kernel.reportingPipe = s.kernel.reportingPipe) : Report (actions ++ [a]) s' := by
  obtain ⟨noExecBefore, noFailure⟩ := report.undecided before
  have executed : ¬ Executed (actions ++ [a]) := by rwa [executed_snoc noExec]
  have failed : ∀ error', Failed (actions ++ [a]) error' ↔ error' = error := by
    intro error'
    simp [failed_snoc, noFailure, failure, eq_comm]
  have notProgram : s'.kernel.child.pc ≠ .program := by
    intro program
    simp [program, ChildPc.reporting] at reporting
  have empty := report.pipe_empty noFailure
  constructor
  · simp [undecided]
  · simp [reporting, failed]
  · simp [reported]
  · exact fun here => absurd here executed
  · exact fun program => absurd program notProgram
  · intro error' here
    rw [(failed error').mp here]
    exact .inl reporting
  · intro e e' here there
    rw [(failed e).mp here, (failed e').mp there]
  · exact fun here => absurd here executed
  · exact .inl (pipe.trans empty)
  · rw [same.main]
    exact fun saw => absurd (report.sawEnd saw) noExecBefore
  · rw [same.main]
    intro result here
    obtain ⟨error', -, here⟩ := report.waitpid result here
    exact absurd here (noFailure error')
  · intro _ _ unborn
    simp [unborn, ChildPc.reporting] at reporting

section
attribute [local simp] ChildPc.undecided ChildPc.reporting ChildPc.reported

theorem Report.child {a : ChildAction} (report : Report actions s) (ends : WriteEnds s)
    (pipe2 : s.pipe2Support = true) (whole : ReportsWhole s (.child a))
    (taken : act s (.child a) = some s') : Report (actions ++ [.child a]) s' := by
  have same := act_sameMain taken id
  simp only [Server.act, Option.map_eq_some_iff] at taken
  obtain ⟨k, taken, rfl⟩ := taken
  cases a <;> simp only [Server.child, require_eq_some] at taken <;> obtain ⟨guard, rfl⟩ := taken
  case dup2Failed errno => exact report.fail (by simp [guard]) (by simp) rfl same rfl rfl rfl rfl
  case execvpFailed errno =>
    exact report.fail (by simp [guard]) (by simp) rfl same rfl rfl rfl rfl
  case execvp =>
    obtain ⟨-, noFailure⟩ := report.undecided (by simp [guard])
    have failed : ∀ error, ¬ Failed (actions ++ [.child .execvp]) error := fun error =>
      (failed_snoc_none rfl).not.mpr (noFailure error)
    have empty := report.pipe_empty noFailure
    have executed : Executed (actions ++ [.child .execvp]) := by simp
    constructor
    · simp
    · simp
    · simp
    · exact fun _ => .inl rfl
    · exact fun _ => executed
    · exact fun error here => absurd here (failed error)
    · exact fun error _ here => absurd here (failed error)
    · exact fun _ => failed
    · exact .inl empty
    · exact fun _ => executed
    · intro result here
      obtain ⟨error, -, here⟩ := report.waitpid result here
      exact absurd here (noFailure error)
    · simp
  case wrote error k =>
    have failedHere := report.reporting error (by simp [guard])
    have notExecuted : ¬ Executed actions := fun here => report.exclusive here error failedHere
    have failed : ∀ e, Failed (actions ++ [.child (.wrote error k)]) e ↔ e = error := by
      intro e
      rw [failed_snoc_none rfl]
      exact ⟨fun here => report.unique e error here failedHere, fun same => same ▸ failedHere⟩
    have executed : ¬ Executed (actions ++ [.child (.wrote error k)]) := by
      rwa [executed_snoc (by simp)]
    have empty : s.kernel.reportingPipe = [] := by
      refine report.pipe.resolve_right ?_
      rintro ⟨_, -, reported, -⟩
      simp [guard] at reported
    have pipe : ((s.kernel.deliver (.pipe .reporting .write)
        (error.bytes.take k)).setChild .closeReportingWrite s.kernel.child.fds).reportingPipe =
          error.bytes := by
      have all : error.bytes.take k = error.bytes := List.take_of_length_le (Nat.le_of_eq whole.symm)
      simp [deliver, empty, all]
    constructor
    · simp
    · simp
    · exact fun _ => .inr ⟨error, (failed error).mpr rfl⟩
    · exact fun here => absurd here executed
    · simp
    · intro e here
      rw [(failed e).mp here]
      exact .inr ⟨rfl, fun _ => pipe⟩
    · intro e e' here there
      rw [(failed e).mp here, (failed e').mp there]
    · exact fun here => absurd here executed
    · exact .inr ⟨error, (failed error).mpr rfl, rfl, pipe⟩
    · exact fun saw => absurd (report.sawEnd saw) notExecuted
    · intro result here
      obtain ⟨e, same, here⟩ := report.waitpid result here
      exact ⟨e, same, (failed_snoc_none rfl).mpr here⟩
    · simp
  case writeFailed => exact whole.elim
  case killedBySignal =>
    refine report.frame (by simp) rfl ?_ (.inl rfl) id .inl (fun _ => .inl) fun later _ => later
    have program : s.kernel.child.pc = .program := whole
    constructor <;> simp [program]
  case programWrites n f bytes =>
    refine report.frame (by simp) rfl (by simp [ChildPc.Continues.rfl]) (.inl ?_) id .inl
      (fun _ => .inl) fun later _ => later
    refine reportingPipe_deliver bytes ?_
    rintro rfl
    exact ends.program pipe2 guard.1 ⟨n, guard.2.1⟩
  all_goals
    refine report.frame (by simp) rfl ?_ (.inl rfl) id .inl (fun _ => .inl) fun later _ => later
    constructor <;> simp [guard]

end

theorem Report.same (report : Report actions s) (noExec : a ≠ .child .execvp)
    (noFailure : a.failure = none) (same : SameMain s s')
    (pc : s'.kernel.child.pc = s.kernel.child.pc ∨
      s.kernel.child.pc = .zombie ∧ s'.kernel.child.pc = .reaped)
    (pipe : s'.kernel.reportingPipe = s.kernel.reportingPipe) : Report (actions ++ [a]) s' := by
  refine report.frame noExec noFailure ?_ (.inl pipe) ?_ ?_ ?_ ?_
  · rcases pc with same | ⟨zombie, reaped⟩
    · rw [same]
      exact .rfl
    · rw [zombie, reaped]
      exact .reaped
  all_goals rw [same.main]
  · exact id
  · exact .inl
  · exact fun _ => .inl
  · exact fun later _ => later

theorem Report.act {ok : State → Action → Prop} (report : Report actions s)
    (run : system.RunWhere ok actions s) (pipe2 : s.pipe2Support = true)
    (whole : ReportsWhole s a) (taken : act s a = some s') : Report (actions ++ [a]) s' := by
  cases a with
  | setupThreads a => exact report.setupThreads taken
  | setupChild a => exact report.setupChild (.run run) taken
  | parent a => exact report.parent (.run run) (.run run) taken
  | child a => exact report.child (.run run) pipe2 whole taken
  | childWait | accept | clientConnection | client =>
      refine report.same (by simp) rfl (act_sameMain taken id) ?_
        (act_reportingPipe_same run taken (by simp) (by simp))
      rcases act_child taken with same | ⟨_, fork, -⟩ | ⟨-, zombie, reaped⟩ | ⟨_, child, -⟩
      · exact .inl (congrArg Child.pc same)
      · cases fork
      · exact .inr ⟨zombie, congrArg Child.pc reaped⟩
      · cases child

end

theorem Report.run (run : system.RunWhere ReportsWhole actions s)
    (pipe2 : s.pipe2Support = true) : Report actions s := by
  refine run.invariant (I := fun actions s => s.pipe2Support = true → Report actions s) ?_ ?_ pipe2
  · rintro _ ⟨config, rfl⟩ -
    exact .start config
  · intro actions s a s' run report whole step pipe2
    have taken := (system_step.mp step).2
    rw [(act_constants taken).1] at pipe2
    exact (report pipe2).act run pipe2 whole taken

end Usockit.Server
