import Usockit.Server.Startup

namespace Usockit.Server
open Foundation

variable {s s' : State} {actions : List Action}

def MainPc.leftSetupChild : MainPc → Bool
  | .cancel _ _ _ | .join _ _ _ | .release _ _ | .returned _ => true
  | _ => false

def MainPc.leaving : MainPc → Bool
  | .perror _ | .cancelAccept | .joinAccept | .close _ _ => true
  | pc => pc.leftSetupChild

/-! ## One read of the report -/

def Action.readsReport : Action → Bool
  | .parent .readEof | .parent .readError | .parent .readShort | .parent .readFailed => true
  | _ => false

structure ReadOnce (actions : List Action) (s : State) : Prop where
  unread : s.main.unread = true → ∀ a ∈ actions, a.readsReport = false
  once : ∀ a ∈ actions, ∀ b ∈ actions, a.readsReport = true → b.readsReport = true → a = b
  waitpid : ∀ error, s.main = .waitpid error → .parent .readError ∈ actions

theorem unread_of_reads {a : Action} (taken : act s a = some s') (reads : a.readsReport = true) :
    s.main.unread = true := by
  unfold Action.readsReport at reads
  split at reads <;> simp only [act, parent, require_eq_some] at taken
  · simp [taken.1.1.1, MainPc.unread]
  · simp [taken.1.1.1, MainPc.unread]
  · simp [taken.1.1.1, MainPc.unread]
  · simp [taken.1, MainPc.unread]
  · cases reads

section
attribute [local simp] MainPc.leaving MainPc.leftSetupChild MainPc.beforeFork
  MainPc.endThreads MainPc.closeEnds MainPc.setupChildReturned
  MainPc.parentReturned MainPc.afterChildError MainPc.reportingPipeCreated

theorem act_waitpid {a : Action} {error : Option ChildError} (taken : act s a = some s')
    (here : s'.main = .waitpid error) : s.main = .waitpid error ∨ a = .parent .readError := by
  cases a with
  | setupThreads a =>
      cases a <;> simp only [act, setupThreads, require_eq_some] at taken <;>
        obtain ⟨guard, rfl⟩ := taken
      case join t rest ret => cases rest <;> simp at here
      all_goals simp at here
  | setupChild a =>
      cases a <;> simp only [act, setupChild, require_eq_some] at taken <;>
        obtain ⟨guard, rfl⟩ := taken
      case close p e rest ret => cases rest <;> simp at here
      case reportingPipe => cases support : s.pipe2Support <;> simp [support] at here
      all_goals simp at here
  | parent a =>
      cases a <;> simp only [act, parent, require_eq_some] at taken <;>
        obtain ⟨guard, rfl⟩ := taken
      case readError => exact .inr rfl
      case waitpid result | waitpidFailed result => cases result <;> simp at here
      case perrorSigpipe => exact .inl here
      all_goals simp at here
  | childWait | accept | clientConnection | child | client =>
      exact .inl (by rw [← (act_sameMain taken id).main, here])

theorem act_leaving {a : Action} (taken : act s a = some s') (leaves : s'.main.leaving = true) :
    s.main.leaving = true ∨
      (s.main.beforeFork = true ∧ ∀ pid, a ≠ .setupChild (.fork pid)) ∨
      a = .parent .joinChildWait ∨
      (∃ error, a = .parent (.waitpid error) ∨ a = .parent (.waitpidFailed error)) ∨
      a = .parent .readShort ∨ a = .parent .readFailed := by
  cases a with
  | setupThreads a =>
      cases a <;> simp only [act, setupThreads, require_eq_some] at taken <;>
        obtain ⟨guard, rfl⟩ := taken <;> simp_all
  | setupChild a =>
      cases a <;> simp only [act, setupChild, require_eq_some] at taken <;>
        obtain ⟨guard, rfl⟩ := taken <;> simp_all
  | parent a =>
      cases a <;> simp only [act, parent, require_eq_some] at taken <;>
        obtain ⟨guard, rfl⟩ := taken <;> simp_all
  | childWait | accept | clientConnection | child | client =>
      exact .inl (by rw [← (act_sameMain taken id).main, leaves])

end

theorem ReadOnce.act {a : Action} (once : ReadOnce actions s) (taken : act s a = some s') :
    ReadOnce (actions ++ [a]) s' := by
  have fresh : a.readsReport = true → ∀ b ∈ actions, b.readsReport = false :=
    fun reads => once.unread (unread_of_reads taken reads)
  constructor
  · intro unread b member
    obtain ⟨before, other⟩ := (act_reading taken).2 unread
    rcases List.mem_append.mp member with earlier | now
    · exact once.unread before b earlier
    · obtain rfl := List.mem_singleton.mp now
      unfold Action.readsReport
      split <;> simp_all
  · intro b memberB c memberC readsB readsC
    rcases List.mem_append.mp memberB with earlierB | nowB <;>
      rcases List.mem_append.mp memberC with earlierC | nowC
    · exact once.once b earlierB c earlierC readsB readsC
    · obtain rfl := List.mem_singleton.mp nowC
      simp [fresh readsC b earlierB] at readsB
    · obtain rfl := List.mem_singleton.mp nowB
      simp [fresh readsB c earlierC] at readsC
    · rw [List.mem_singleton.mp nowB, List.mem_singleton.mp nowC]
  · intro error here
    rcases act_waitpid taken here with before | rfl
    · exact List.mem_append_left _ (once.waitpid error before)
    · simp

theorem ReadOnce.run {ok : State → Action → Prop} (run : system.RunWhere ok actions s) :
    ReadOnce actions s := by
  refine run.invariant (I := ReadOnce) ?_ ?_
  · rintro _ ⟨config, rfl⟩
    constructor <;> simp [State.start]
  · exact fun _ _ _ _ _ once _ step => once.act (system_step.mp step).2

/-! ## The child -/

theorem act_reaped {a : Action} (table : ChildTable s) (taken : act s a = some s')
    (reaped : s.kernel.child.pc = .reaped) : s'.kernel.child.pc = .reaped := by
  rcases act_child taken with same | ⟨pid, -, here, -⟩ | ⟨-, -, same⟩ | ⟨b, -, stepped⟩
  · rw [same, reaped]
  · have unborn := table.unborn (by simp [here, MainPc.beforeFork])
    simp [reaped] at unborn
  · rw [same]
  · exact absurd reaped (child_alive stepped).2.2

/-- The child has been waited for where main or the child-wait thread needs it. -/
structure Reaped (actions : List Action) (s : State) : Prop where
  ended : s.childWait = .ended → s.cancelRequested .childWait = true ∨
    s.kernel.child.pc = .reaped
  leaving : s.kernel.child.pc ≠ .unborn → s.main.leaving = true →
    s.kernel.child.pc = .reaped ∨ .parent .readShort ∈ actions ∨ .parent .readFailed ∈ actions
  waited : s.kernel.child.pc = .reaped → s.main.ready = true ∨ .parent .readError ∈ actions

/-- Only a cancelled child-wait thread ends while the child has not been waited for. -/
theorem Reaped.act_ended {a : Action} (reaped : Reaped actions s) (table : ChildTable s)
    (cancelled : CancelRequested s) (taken : act s a = some s') (ended : s'.childWait = .ended) :
    s'.cancelRequested .childWait = true ∨ s'.kernel.child.pc = .reaped := by
  have keep : s.cancelRequested .childWait = true ∨ s.kernel.child.pc = .reaped →
      s'.cancelRequested .childWait = true ∨ s'.kernel.child.pc = .reaped :=
    Or.imp (cancelRequested_mono taken) (act_reaped table taken)
  by_cases own : ∃ b, a = .childWait b
  · obtain ⟨b, rfl⟩ := own
    have same := act_sameMain taken id
    rw [same.cancelRequested]
    cases b <;> simp only [act, threadRoutineChildWait, require_eq_some,
      Option.ite_none_right_eq_some, Option.map_eq_some_iff] at taken
    case waitForChildReady w b =>
      obtain ⟨here, r, waited, rfl⟩ := taken
      simp only [ChildWaitPc.afterWait_eq_ended] at ended
      rcases waitForChildReady_cancelled waited (.inr ended) with before | requested
      · exact .inl (cancelled.childWait (by simp [here, before]))
      · exact .inl requested
    case waitpid =>
      obtain ⟨-, rfl⟩ := taken
      exact .inr rfl
    case waitpidFailed =>
      obtain ⟨⟨-, -, echild⟩, rfl⟩ := taken
      exact .inr echild
    case cancel =>
      obtain ⟨⟨-, requested⟩, rfl⟩ := taken
      exact .inl requested
  · rcases act_sameChildWait taken (by rintro b rfl; exact own ⟨b, rfl⟩) with
      same | same | ⟨-, same⟩
    · exact keep (reaped.ended (by rw [← same, ended]))
    · exact keep (reaped.ended (by simpa [same] using ended))
    · simp [same] at ended

theorem Reaped.act_leaving {a : Action} (reaped : Reaped actions s) (table : ChildTable s)
    (progress : Progress s) (taken : act s a = some s') (born : s'.kernel.child.pc ≠ .unborn)
    (leaves : s'.main.leaving = true) :
    s'.kernel.child.pc = .reaped ∨ .parent .readShort ∈ actions ++ [a] ∨
      .parent .readFailed ∈ actions ++ [a] := by
  rcases Server.act_leaving taken leaves with
    before | ⟨before, noFork⟩ | rfl | ⟨error, rfl | rfl⟩ | rfl | rfl
  · by_cases unborn : s.kernel.child.pc = .unborn
    · refine absurd (act_unborn taken ?_ unborn) born
      rintro pid rfl
      simp only [act, setupChild, require_eq_some] at taken
      simp [taken.1.1, MainPc.leaving, MainPc.leftSetupChild] at before
    · rcases reaped.leaving unborn before with done | short | failed
      · exact .inl (act_reaped table taken done)
      · exact .inr (.inl (List.mem_append_left _ short))
      · exact .inr (.inr (List.mem_append_left _ failed))
  · exact absurd (act_unborn taken noFork (table.unborn before)) born
  · simp only [act, parent, require_eq_some] at taken
    obtain ⟨⟨here, ended⟩, rfl⟩ := taken
    have uncancelled := progress.uncancelled .childWait (by simp [here, MainPc.uncancelled])
    exact .inl ((reaped.ended ended).resolve_left (by simp [uncancelled]))
  · simp only [act, parent, require_eq_some] at taken
    obtain ⟨-, rfl⟩ := taken
    exact .inl rfl
  · simp only [act, parent, require_eq_some] at taken
    obtain ⟨⟨-, -, echild⟩, rfl⟩ := taken
    exact .inl echild
  · simp
  · simp

theorem Reaped.act_waited {a : Action} (reaped : Reaped actions s) (once : ReadOnce actions s)
    (life : Lifecycle s) (taken : act s a = some s') (done : s'.kernel.child.pc = .reaped) :
    s'.main.ready = true ∨ .parent .readError ∈ actions ++ [a] := by
  have keep : s.main.ready = true ∨ .parent .readError ∈ actions →
      s'.main.ready = true ∨ .parent .readError ∈ actions ++ [a] :=
    Or.imp (ready_mono taken) (List.mem_append_left _)
  rcases act_child taken with same | ⟨pid, -, -, -, -, forked⟩ | ⟨reaps, -, -⟩ |
    ⟨b, rfl, stepped⟩
  · exact keep (reaped.waited (by rw [← same, done]))
  · simp [forked] at done
  · rcases reaps with rfl | ⟨error, rfl⟩
    · refine keep (.inl (life.childWait ?_))
      simp only [act, threadRoutineChildWait, require_eq_some] at taken
      simp [taken.1.1]
    · refine keep (.inr (once.waitpid error ?_))
      simp only [act, parent, require_eq_some] at taken
      exact taken.1.1
  · cases b <;> simp only [child, require_eq_some] at stepped <;>
      obtain ⟨guard, same⟩ := stepped <;> simp [← same, guard] at done

theorem Reaped.run {ok : State → Action → Prop} (run : system.RunWhere ok actions s) :
    Reaped actions s := by
  refine run.invariant (I := Reaped) ?_ ?_
  · rintro _ ⟨config, rfl⟩
    constructor <;> simp [State.start]
  · intro actions s a s' before reaped _ step
    have taken := (system_step.mp step).2
    have table := ChildTable.run before
    exact ⟨reaped.act_ended table (.run before) taken,
      reaped.act_leaving table (.run before) taken,
      reaped.act_waited (.run before) (.run before) taken⟩

theorem born_of_mem {ok : State → Action → Prop} {pid : Pid}
    (run : system.RunWhere ok actions s) (member : .setupChild (.fork pid) ∈ actions) :
    s.kernel.child.pc ≠ .unborn := by
  induction run with
  | start => simp at member
  | @snoc earlier s a s' run _ step ih =>
      have taken := (system_step.mp step).2
      rcases List.mem_append.mp member with before | now
      · rcases act_child taken with same | ⟨pid, -, -, -, -, forked⟩ | ⟨-, -, same⟩ |
          ⟨b, -, stepped⟩
        · rw [same]
          exact ih before
        · simp [forked]
        · simp [same]
        · cases b <;> simp only [child, require_eq_some] at stepped <;>
            obtain ⟨guard, same⟩ := stepped <;> simp [← same, guard]
      · obtain rfl := List.mem_singleton.mp now
        simp only [act, setupChild, require_eq_some] at taken
        obtain ⟨-, rfl⟩ := taken
        simp

theorem child_reaped {pid : Pid} (run : system.Run actions s)
    (forked : .setupChild (.fork pid) ∈ actions) (returned : s.main.leftSetupChild = true) :
    s.kernel.child.pc = .reaped ↔
      .parent .readShort ∉ actions ∧ .parent .readFailed ∉ actions := by
  have reaped := Reaped.run run
  constructor
  · intro done
    have once := (ReadOnce.run run).once
    rcases reaped.waited done with ready | read
    · have read := (Stores.run run).sawEnd (MainPc.sawEnd_of_ready ready)
      constructor
      · exact fun short => by simpa using once _ read _ short rfl rfl
      · exact fun failed => by simpa using once _ read _ failed rfl rfl
    · constructor
      · exact fun short => by simpa using once _ read _ short rfl rfl
      · exact fun failed => by simpa using once _ read _ failed rfl rfl
  · rintro ⟨notShort, notFailed⟩
    have leaving : s.main.leaving = true := by
      unfold MainPc.leaving
      split <;> simp [returned]
    simpa [notShort, notFailed] using reaped.leaving (born_of_mem run forked) leaving

def reportedAndReaped : List Action :=
  noSuchProgram ++
    [.child .closeReportingWrite, .child .exit,
     .setupChild .closeReportingWrite, .setupChild .closeMainRead,
     .setupChild .storeChildPid, .setupChild .storeChildStdinFd,
     .parent .readError, .parent (.waitpid (some ⟨.execve, 2⟩)),
     .parent (.perror (bytesOf "execve(2)") false (bytesOf "No such file or directory") 37),
     .setupChild (.close .reporting .read [(.main, .write)] .unknown),
     .setupChild (.close .main .write [] .unknown)]

theorem child_reaped_reportedAndReaped :
    ∃ s, system.exec (.start .shell) reportedAndReaped = some s ∧ s.kernel.child.pc = .reaped := by
  obtain ⟨s, path, returned⟩ :
      ∃ s, system.exec (.start .shell) reportedAndReaped = some s ∧
        s.main.leftSetupChild = true :=
    System.exists_exec (by decide +kernel)
  have run : system.Run reportedAndReaped s := System.run_of_exec ⟨_, rfl⟩ path
  exact ⟨s, path, (child_reaped run
    (by decide : Action.setupChild (.fork 1) ∈ reportedAndReaped) returned).mpr (by decide)⟩

def reportUnreadable : List Action :=
  [.setupThreads .createChildWait, .setupThreads .createClientConnection,
   .setupThreads .createAccept, .setupChild .pipe, .setupChild .reportingPipe,
   .setupChild (.fork 1), .setupChild .closeReportingWrite, .setupChild .closeMainRead,
   .setupChild .storeChildPid, .setupChild .storeChildStdinFd, .parent .readFailed,
   .parent (.perror (bytesOf "read(2)") false (bytesOf "Input/output error") 28),
   .setupChild (.close .reporting .read [(.main, .write)] .unknown),
   .setupChild (.close .main .write [] .unknown),
   .child .closeReportingRead, .child .closeMainWrite, .child .closeSocket,
   .child .dup2, .child .closeMainRead, .child .execvp]

theorem child_left_behind : ¬ ∀ actions s pid, system.Run actions s →
    .setupChild (.fork pid) ∈ actions → s.main.leftSetupChild = true →
    s.kernel.child.pc = .reaped := by
  intro claim
  obtain ⟨s, path, returned, alive⟩ :
      ∃ s, system.exec (.start .shell) reportUnreadable = some s ∧
        s.main.leftSetupChild = true ∧ s.kernel.child.pc = .program :=
    System.exists_exec (by decide +kernel)
  have reaped := claim _ s 1 (System.run_of_exec ⟨_, rfl⟩ path) (by decide) returned
  simp [alive] at reaped

end Usockit.Server
