import Usockit.Server.Descriptors

namespace Usockit.Server
open Foundation Kernel

variable {s s' : State} {actions : List Action}

def MainPc.beforeFork : MainPc → Bool
  | .create _ | .pipe | .reportingPipe | .setCloseOnExec | .fork => true
  | _ => false

/-- The child may have its copy of this write end open. -/
def ChildPc.hasWriteEnd : ChildPc → Pipe → Bool
  | .closeReportingRead, _ | .closeMainWrite, _ => true
  | .unborn, _ | .exit, _ | .zombie, _ | .reaped, _ => false
  | _, p => p = .reporting

structure ChildTable (s : State) : Prop where
  unborn : s.main.beforeFork = true → s.kernel.child.pc = .unborn
  writeEnd : ∀ n p, s.kernel.child.fds.fileAt n = some (.pipe p .write) →
    s.kernel.child.pc.hasWriteEnd p = true ∧ n = s.pipeFds p .write

theorem ChildTable.start (config : Config) : ChildTable (.start config) := by
  constructor <;> simp [State.start]

theorem ChildTable.frame (table : ChildTable s) (same : SameMain s s')
    (child : s'.kernel.child = s.kernel.child) : ChildTable s' := by
  constructor
  · rw [same.main, child]
    exact table.unborn
  · rw [child, same.pipeFds]
    exact table.writeEnd

theorem ChildTable.byMain (table : ChildTable s) (later : s'.main.beforeFork = true →
      s.main.beforeFork = true)
    (fds : s'.kernel.child.fds = s.kernel.child.fds)
    (pc : s'.kernel.child.pc = s.kernel.child.pc ∨
      s.kernel.child.pc = .zombie ∧ s.main.beforeFork = false)
    (pipeFds : s'.pipeFds = s.pipeFds ∨ s.main.beforeFork = true) : ChildTable s' := by
  constructor
  · intro before
    have was := later before
    rcases pc with same | ⟨-, after⟩
    · rw [same, table.unborn was]
    · simp [was] at after
  · intro n p here
    rw [fds] at here
    obtain ⟨has, number⟩ := table.writeEnd n p here
    rcases pc with same | ⟨zombie, -⟩
    · rw [same]
      refine ⟨has, ?_⟩
      rcases pipeFds with same | before
      · rw [same, number]
      · simp [table.unborn before, ChildPc.hasWriteEnd] at has
    · simp [zombie, ChildPc.hasWriteEnd] at has

section
attribute [local simp] MainPc.beforeFork

theorem ChildTable.act {a : Action} (table : ChildTable s) (desc : Descriptors s)
    (taken : act s a = some s') : ChildTable s' := by
  cases a with
  | setupThreads a =>
      cases a <;> simp only [Server.act, Server.setupThreads, require_eq_some] at taken <;>
        obtain ⟨guard, rfl⟩ := taken
      case join t rest ret =>
        apply table.byMain <;> cases rest <;> simp_all [MainPc.endThreads]
      all_goals apply table.byMain <;> simp_all [MainPc.endThreads]
  | setupChild a =>
      cases a <;> simp only [Server.act, Server.setupChild, require_eq_some] at taken <;>
        obtain ⟨guard, rfl⟩ := taken
      case fork pid =>
        constructor
        · simp
        · intro n p here
          exact ⟨rfl, ((desc.pipes n p .write).mp here).2⟩
      case close p e rest ret =>
        apply table.byMain <;> cases rest <;>
          simp_all [MainPc.closeEnds, MainPc.setupChildReturned, MainPc.endThreads]
      case reportingPipe =>
        apply table.byMain <;> cases s.pipe2Support <;> simp_all [MainPc.reportingPipeCreated]
      all_goals
        apply table.byMain <;>
          simp_all [MainPc.closeEnds, MainPc.setupChildReturned, MainPc.endThreads]
  | parent a =>
      cases a <;> simp only [Server.act, Server.parent, require_eq_some] at taken <;>
        obtain ⟨guard, rfl⟩ := taken
      case waitpid error | waitpidFailed error =>
        apply table.byMain <;> cases error <;>
          simp_all [MainPc.afterChildError]
      case readEof | readError | readShort =>
        replace guard := guard.1.1
        apply table.byMain <;> simp_all
      all_goals
        apply table.byMain <;> simp_all [MainPc.parentReturned, MainPc.closeEnds]
  | childWait a =>
      have same := act_sameMain taken id
      cases a <;> simp only [Server.act, Server.threadRoutineChildWait, require_eq_some,
        Option.ite_none_right_eq_some, Option.map_eq_some_iff] at taken
      case waitForChildReady w a =>
        obtain ⟨-, r, -, rfl⟩ := taken
        exact table.frame same rfl
      case waitpid =>
        obtain ⟨⟨-, -, zombie⟩, rfl⟩ := taken
        refine table.byMain (fun before => before) rfl (.inr ⟨zombie, ?_⟩) (.inl rfl)
        cases before : s.main.beforeFork with
        | false => rfl
        | true => simp [table.unborn before] at zombie
      all_goals
        obtain ⟨-, rfl⟩ := taken
        exact table.frame same rfl
  | accept a =>
      have same := act_sameMain taken id
      cases a <;> simp only [Server.act, Server.threadRoutineAccept, require_eq_some,
        Option.ite_none_right_eq_some, Option.map_eq_some_iff] at taken
      case waitForChildReady w a =>
        obtain ⟨-, r, -, rfl⟩ := taken
        exact table.frame same rfl
      all_goals
        obtain ⟨-, rfl⟩ := taken
        exact table.frame same (by simp)
  | clientConnection a =>
      have same := act_sameMain taken id
      cases a <;>
        simp only [Server.act, Server.threadRoutineClientConnection, require_eq_some] at taken <;>
        obtain ⟨-, rfl⟩ := taken <;> exact table.frame same (by simp)
  | client a =>
      have same := act_sameMain taken id
      cases a <;> simp only [Server.act, client, Option.map_eq_some_iff, require_eq_some] at taken <;>
        obtain ⟨k, ⟨-, rfl⟩, rfl⟩ := taken <;> exact table.frame same (by simp)
  | child a =>
      have same := act_sameMain taken id
      simp only [Server.act, Option.map_eq_some_iff] at taken
      obtain ⟨k, taken, rfl⟩ := taken
      constructor
      · intro before
        have unborn := table.unborn before
        cases a <;> simp_all [child]
      · intro n p here
        have writeEnd := table.writeEnd n p
        cases a <;> simp only [child, require_eq_some] at taken <;>
          obtain ⟨guard, rfl⟩ := taken
        case execvp =>
          simpa [guard, ChildPc.hasWriteEnd] using
            writeEnd (DescriptorTable.fileAt_of_exec here)
        case dup2 =>
          by_cases zero : s.pipeFds .main .read = stdinFileno
          · simp_all [dup2Stdin, ChildPc.hasWriteEnd]
          · by_cases stdin : n = stdinFileno <;>
              simp_all [dup2Stdin, ChildPc.hasWriteEnd]
        case closeMainWrite =>
          obtain ⟨other, here⟩ : n ≠ s.pipeFds .main .write ∧
              s.kernel.child.fds.fileAt n = some (.pipe p .write) := by
            simpa using here
          obtain ⟨-, number⟩ := writeEnd here
          cases p <;> simp_all [ChildPc.hasWriteEnd]
        case closeReportingWrite =>
          obtain ⟨other, here⟩ : n ≠ s.pipeFds .reporting .write ∧
              s.kernel.child.fds.fileAt n = some (.pipe p .write) := by
            simpa using here
          obtain ⟨has, number⟩ := writeEnd here
          obtain rfl : p = .reporting := by simpa [guard, ChildPc.hasWriteEnd] using has
          exact absurd number other
        case programWrites => simpa using writeEnd (by simpa using here)
        all_goals simp_all [ChildPc.hasWriteEnd]

end

theorem ChildTable.run {ok : State → Action → Prop} (run : system.RunWhere ok actions s) :
    ChildTable s := by
  refine run.stateInvariant (I := ChildTable) ?_ ?_
  · rintro _ ⟨config, rfl⟩
    exact .start config
  · rintro _ s a s' run before - step
    exact before.act (.run run) (system_step.mp step).2

theorem ChildTable.program_writes {n : Nat} {f : File} (table : ChildTable s)
    (program : s.kernel.child.pc = .program) (here : s.kernel.child.fds.fileAt n = some f) :
    f ≠ .pipe .main .write := by
  rintro rfl
  have has := (table.writeEnd n .main here).1
  simp [program, ChildPc.hasWriteEnd] at has

end Usockit.Server
