import Usockit.Server.Reporting
import Usockit.Server.Stdin

namespace Usockit.Server
open Foundation

variable {s s' : State} {actions : List Action}

/-- main has stored both cells and has read the end of the reporting pipe. -/
structure Started (actions : List Action) (s : State) : Prop where
  storedPid : .setupChild .storeChildPid ∈ actions
  storedStdinFd : .setupChild .storeChildStdinFd ∈ actions
  readEof : .parent .readEof ∈ actions
  childPid : s.childPidCell = some s.childPid
  childStdinFd : s.childStdinFdCell = some (s.pipeFds .main .write)

/-- The child has put bytes of a failure into the reporting pipe. -/
def Reported (actions : List Action) : Prop :=
  ∃ error k, 0 < k ∧ .child (.wrote error k) ∈ actions

/-- At waitpid(), at accept(), and where the connection thread dereferences
`child_stdin_fd_ptr`. -/
structure StartupOrdered (actions : List Action) (s : State) : Prop where
  waitpid : s.childWait = .waitpid → Started actions s
  accept : s.accept = .accept → Started actions s
  childStdinFd : ∀ buffer, s.clientConnection = .callWriteAll buffer → Started actions s
  failed : Reported actions → ∀ c fd k,
    .accept (.accepted c) ∉ actions ∧ .clientConnection (.received fd c k) ∉ actions

/-! ## The order in main -/

def MainPc.pidStored : MainPc → Bool
  | .storeChildStdinFd => true
  | pc => pc.stdinStored

structure Stores (actions : List Action) (s : State) : Prop where
  pid : s.main.pidStored = true →
    .setupChild .storeChildPid ∈ actions ∧ s.childPidCell = some s.childPid
  stdinFd : s.main.stdinStored = true → .setupChild .storeChildStdinFd ∈ actions
  sawEnd : s.main.sawEnd = true → .parent .readEof ∈ actions

theorem Stores.frame {a : Action} (stores : Stores actions s)
    (pid : s'.main.pidStored = true → s.main.pidStored = true)
    (stdinFd : s'.main.stdinStored = true → s.main.stdinStored = true)
    (sawEnd : s'.main.sawEnd = true → s.main.sawEnd = true)
    (cell : s'.childPidCell = s.childPidCell)
    (childPid : s.main.pidStored = true → s'.childPid = s.childPid) :
    Stores (actions ++ [a]) s' := by
  constructor
  · intro stored
    obtain ⟨member, known⟩ := stores.pid (pid stored)
    exact ⟨List.mem_append_left _ member, by rw [cell, known, childPid (pid stored)]⟩
  · exact fun stored => List.mem_append_left _ (stores.stdinFd (stdinFd stored))
  · exact fun saw => List.mem_append_left _ (stores.sawEnd (sawEnd saw))

section
attribute [local simp] MainPc.pidStored MainPc.stdinStored MainPc.sawEnd MainPc.ready
  MainPc.endThreads MainPc.closeEnds MainPc.setupChildReturned MainPc.parentReturned
  MainPc.afterChildError MainPc.reportingPipeCreated

theorem Stores.act {a : Action} (stores : Stores actions s) (taken : act s a = some s') :
    Stores (actions ++ [a]) s' := by
  cases a with
  | setupThreads a =>
      cases a <;> simp only [Server.act, Server.setupThreads, require_eq_some] at taken <;>
        obtain ⟨guard, rfl⟩ := taken
      case join t rest ret => cases rest <;> apply stores.frame <;> simp [guard]
      all_goals apply stores.frame <;> simp [guard]
  | setupChild a =>
      cases a <;> simp only [Server.act, Server.setupChild, require_eq_some] at taken <;>
        obtain ⟨guard, rfl⟩ := taken
      case close p e rest ret => cases rest <;> apply stores.frame <;> simp [guard]
      case reportingPipe =>
        cases support : s.pipe2Support <;> apply stores.frame <;> simp [guard]
      case storeChildPid => constructor <;> simp
      case storeChildStdinFd =>
        have known := stores.pid (by simp [guard])
        exact ⟨by simp [known], by simp, by simp⟩
      all_goals apply stores.frame <;> simp [guard]
  | parent a =>
      cases a <;> simp only [Server.act, Server.parent, require_eq_some] at taken <;>
        obtain ⟨guard, rfl⟩ := taken
      case readEof =>
        have here := guard.1.1
        have known := stores.pid (by simp [here])
        have stdin := stores.stdinFd (by simp [here])
        exact ⟨by simp [known], by simp [stdin], by simp⟩
      case readError | readShort | readFailed =>
        have here : s.main = .readReport := by simp_all [State.CanReadReport]
        apply stores.frame <;> simp [here]
      case waitpid error | waitpidFailed error =>
        cases error <;> apply stores.frame <;> simp [guard]
      all_goals apply stores.frame <;> simp [guard]
  | childWait | accept | clientConnection | child | client =>
      have same := act_sameMain taken id
      apply stores.frame <;> simp [same.main, same.childPidCell, same.childPid]

end

theorem Stores.run {ok : State → Action → Prop} (run : system.RunWhere ok actions s) :
    Stores actions s := by
  refine run.invariant (I := Stores) ?_ ?_
  · rintro _ ⟨config, rfl⟩
    constructor <;> simp [State.start, MainPc.pidStored, MainPc.stdinStored, MainPc.sawEnd,
      MainPc.ready]
  · exact fun _ _ _ _ _ stores _ step => stores.act (system_step.mp step).2

theorem MainPc.sawEnd_of_ready {pc : MainPc} (ready : pc.ready = true) : pc.sawEnd = true := by
  unfold sawEnd
  split <;> simp [ready]

theorem MainPc.stdinStored_of_ready {pc : MainPc} (ready : pc.ready = true) :
    pc.stdinStored = true := by
  unfold stdinStored
  split <;> simp [ready]

theorem MainPc.pidStored_of_stdinStored {pc : MainPc} (stored : pc.stdinStored = true) :
    pc.pidStored = true := by
  unfold pidStored
  split <;> simp [stored]

theorem started_of_ready {ok : State → Action → Prop} (run : system.RunWhere ok actions s)
    (ready : s.main.ready = true) : Started actions s := by
  have stores := Stores.run run
  have stdinStored := MainPc.stdinStored_of_ready ready
  obtain ⟨storedPid, childPid⟩ := stores.pid (MainPc.pidStored_of_stdinStored stdinStored)
  exact ⟨storedPid, stores.stdinFd stdinStored, stores.sawEnd (MainPc.sawEnd_of_ready ready),
    childPid, (Progress.run run).stdinStored stdinStored⟩

/-! ## A reported failure -/

section
attribute [local simp] MainPc.sawEnd MainPc.unread MainPc.beforeFork MainPc.ready
  MainPc.endThreads MainPc.closeEnds MainPc.setupChildReturned MainPc.parentReturned
  MainPc.afterChildError MainPc.reportingPipeCreated

theorem act_reading {a : Action} (taken : act s a = some s') :
    (s'.main.sawEnd = true → s.main.sawEnd = true ∨ a = .parent .readEof) ∧
      (s'.main.unread = true → s.main.unread = true ∧ ∀ b, a ≠ .parent b) := by
  cases a with
  | setupThreads a =>
      cases a <;> simp only [act, setupThreads, require_eq_some] at taken <;>
        obtain ⟨guard, rfl⟩ := taken
      case join t rest ret => cases rest <;> simp [guard]
      all_goals simp [guard]
  | setupChild a =>
      cases a <;> simp only [act, setupChild, require_eq_some] at taken <;>
        obtain ⟨guard, rfl⟩ := taken
      case close p e rest ret => cases rest <;> simp [guard]
      case reportingPipe => cases s.pipe2Support <;> simp [guard]
      all_goals simp [guard]
  | parent a =>
      cases a <;> simp only [act, parent, require_eq_some] at taken <;>
        obtain ⟨guard, rfl⟩ := taken
      case waitpid error | waitpidFailed error => cases error <;> simp
      all_goals simp [guard]
  | childWait | accept | clientConnection | child | client =>
      simp [(act_sameMain taken id).main]

end

theorem child_beforeExit {b : ChildAction} {k : Kernel} (taken : child s b = some k)
    (after : s.kernel.child.pc.beforeExit = false) : k.child.pc.beforeExit = false := by
  cases b <;> simp only [child, require_eq_some] at taken <;> obtain ⟨guard, rfl⟩ := taken <;>
    simp_all [ChildPc.beforeExit]

structure Silence (actions : List Action) (s : State) : Prop where
  closed : s.main.sawEnd = true → s.kernel.child.pc.beforeExit = false
  unseen : Reported actions → s.main.sawEnd = false
  pipe : Reported actions → s.main.unread = true → s.kernel.reportingPipe ≠ []

theorem reported_snoc {a : Action} : Reported (actions ++ [a]) ↔
    Reported actions ∨ ∃ error k, 0 < k ∧ a = .child (.wrote error k) := by
  constructor
  · rintro ⟨error, k, some, member⟩
    rcases List.mem_append.mp member with before | now
    · exact .inl ⟨error, k, some, before⟩
    · exact .inr ⟨error, k, some, (List.mem_singleton.mp now).symm⟩
  · rintro (⟨error, k, some, before⟩ | ⟨error, k, some, rfl⟩)
    · exact ⟨error, k, some, List.mem_append_left _ before⟩
    · exact ⟨error, k, some, by simp⟩

theorem Silence.closed_act {a : Action} (silence : Silence actions s) (ends : WriteEnds s)
    (taken : act s a = some s') (saw : s'.main.sawEnd = true) :
    s'.kernel.child.pc.beforeExit = false := by
  have after : s.kernel.child.pc.beforeExit = false := by
    rcases (act_reading taken).1 saw with before | rfl
    · exact silence.closed before
    · simp only [act, parent, require_eq_some] at taken
      by_contra before
      exact taken.1.2.2 (.inr ⟨_, ends.child (by simpa using before)⟩)
  rcases act_child taken with same | ⟨pid, rfl, here, -⟩ | ⟨-, -, reaped⟩ | ⟨b, rfl, stepped⟩
  · rw [same, after]
  · simp only [act, setupChild, require_eq_some] at taken
    obtain ⟨-, rfl⟩ := taken
    simp [MainPc.sawEnd, MainPc.ready] at saw
  · rw [reaped]
    rfl
  · exact child_beforeExit stepped after

theorem Silence.act {a : Action} (silence : Silence actions s) (ends : WriteEnds s)
    (taken : act s a = some s') : Silence (actions ++ [a]) s' := by
  obtain ⟨saw, unread⟩ := act_reading taken
  refine ⟨silence.closed_act ends taken, ?_, ?_⟩
  · intro reported
    rw [← Bool.not_eq_true]
    intro seen
    rcases reported_snoc.mp reported with before | ⟨error, k, some, rfl⟩
    · rcases saw seen with sawBefore | rfl
      · simp [silence.unseen before] at sawBefore
      · simp only [Server.act, parent, require_eq_some] at taken
        obtain ⟨⟨⟨here, -⟩, empty, -⟩, -⟩ := taken
        exact silence.pipe before (by simp [here, MainPc.unread]) empty
    · have closed := silence.closed ((saw seen).resolve_right (by simp))
      simp only [Server.act, Option.map_eq_some_iff, child, require_eq_some] at taken
      obtain ⟨-, ⟨⟨here, -⟩, -⟩, -⟩ := taken
      simp [here, ChildPc.beforeExit] at closed
  · intro reported before
    obtain ⟨before, other⟩ := unread before
    rcases reported_snoc.mp reported with earlier | ⟨error, k, some, rfl⟩
    · intro empty
      have kept := act_reportingPipe taken other
      exact silence.pipe earlier before (List.prefix_nil.mp (empty ▸ kept))
    · simp only [Server.act, Option.map_eq_some_iff, child, require_eq_some] at taken
      obtain ⟨-, ⟨⟨-, -, -, fits⟩, rfl⟩, rfl⟩ := taken
      intro empty
      have length := congrArg List.length empty
      simp [Kernel.deliver] at length fits
      omega

theorem Silence.run {ok : State → Action → Prop} (run : system.RunWhere ok actions s) :
    Silence actions s := by
  refine run.invariant (I := Silence) ?_ ?_
  · rintro _ ⟨config, rfl⟩
    constructor <;> simp [State.start, Reported, MainPc.sawEnd, MainPc.ready]
  · exact fun _ _ _ _ run silence _ step => silence.act (.run run) (system_step.mp step).2

/-- What happens only after the start keeps the start in its past. -/
theorem ready_of_mem {ok : State → Action → Prop} {a : Action}
    (run : system.RunWhere ok actions s) (member : a ∈ actions)
    (only : ∀ earlier s s', system.RunWhere ok earlier s → act s a = some s' →
      s.main.ready = true) : s.main.ready = true := by
  induction run with
  | start => simp at member
  | snoc run _ step ih =>
      have taken := (system_step.mp step).2
      rcases List.mem_append.mp member with before | now
      · exact ready_mono taken (ih before)
      · obtain rfl := List.mem_singleton.mp now
        exact ready_mono taken (only _ _ _ run taken)

theorem startup_ordered (run : system.Run actions s) : StartupOrdered actions s := by
  have life := Lifecycle.run run
  constructor
  · exact fun here => started_of_ready run (life.childWait (by simp [here]))
  · exact fun here => started_of_ready run (life.accept (by simp [here]))
  · intro buffer here
    obtain ⟨fd, slot, -⟩ := (Handoff.run run).serving (by simp [here])
    exact started_of_ready run (life.slot (by simp [slot]))
  · intro reported c fd k
    have unready : s.main.ready ≠ true := by
      intro ready
      have unseen := (Silence.run run).unseen reported
      simp [MainPc.sawEnd_of_ready ready] at unseen
    constructor <;> refine fun member => unready (ready_of_mem run member ?_)
    · intro earlier s s' run taken
      simp only [act, threadRoutineAccept, require_eq_some] at taken
      exact (Lifecycle.run run).accept (by simp [taken.1.1])
    · intro earlier s s' run taken
      simp only [act, threadRoutineClientConnection, require_eq_some] at taken
      obtain ⟨fd, slot, -⟩ := (Handoff.run run).serving (by simp [taken.1.1])
      exact (Lifecycle.run run).slot (by simp [slot])

def noSuchProgram : List Action :=
  [.setupThreads .createChildWait, .setupThreads .createClientConnection,
   .setupThreads .createAccept, .setupChild .pipe, .setupChild .reportingPipe,
   .setupChild (.fork 1), .child .closeReportingRead, .child .closeMainWrite, .child .closeSocket,
   .child .dup2, .child .closeMainRead, .child (.execvpFailed 2),
   .child (.wrote ⟨.execve, 2⟩ 8)]

theorem startup_ordered_noSuchProgram :
    (∃ s, system.exec (.start .shell) timelyData = some s ∧ Started timelyData s) ∧
      ∃ s, system.exec (.start .shell) noSuchProgram = some s ∧ Reported noSuchProgram ∧
        .accept (.accepted 0) ∉ noSuchProgram := by
  constructor
  · obtain ⟨s, path, here⟩ :
        ∃ s, system.exec (.start .shell) timelyData = some s ∧
          s.clientConnection = .callWriteAll [104, 105] :=
      System.exists_exec (by decide +kernel)
    exact ⟨s, path,
      (startup_ordered (System.run_of_exec ⟨_, rfl⟩ path)).childStdinFd _ here⟩
  · obtain ⟨s, path, -⟩ :
        ∃ s, system.exec (.start .shell) noSuchProgram = some s ∧ True :=
      System.exists_exec (by decide +kernel)
    have reported : Reported noSuchProgram := ⟨⟨.execve, 2⟩, 8, by decide, by decide⟩
    exact ⟨s, path, reported,
      ((startup_ordered (System.run_of_exec ⟨_, rfl⟩ path)).failed reported 0 ⟨4, 0⟩ 1).1⟩

end Usockit.Server
