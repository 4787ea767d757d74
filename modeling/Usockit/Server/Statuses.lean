import Usockit.Server.Startup
import Usockit.Server.Setup

namespace Usockit.Server
open Foundation

variable {s s' : State} {actions : List Action}

/-! ## What the reporting pipe holds -/

/-- The child has yet to write its report, if it is to write one. -/
def ChildPc.unwritten (pc : ChildPc) : Bool := pc.undecided || pc.reporting.isSome

/-- Nothing but a report of the child, or less of it, comes through the pipe. -/
structure OneReport (s : State) : Prop where
  unwritten : s.kernel.child.pc.unwritten = true → s.kernel.reportingPipe = []
  content : ∃ error k, s.kernel.reportingPipe = (ChildError.bytes error).take k

section
attribute [local simp] ChildPc.unwritten ChildPc.undecided ChildPc.reporting

theorem OneReport.frame (one : OneReport s)
    (pc : s'.kernel.child.pc.unwritten = true → s.kernel.child.pc.unwritten = true)
    (pipe : s'.kernel.reportingPipe = s.kernel.reportingPipe ∨ s'.kernel.reportingPipe = []) :
    OneReport s' := by
  obtain ⟨error, k, content⟩ := one.content
  rcases pipe with same | empty
  · exact ⟨fun before => same.trans (one.unwritten (pc before)), error, k, same.trans content⟩
  · exact ⟨fun _ => empty, error, 0, empty⟩

theorem OneReport.drop (one : OneReport s) : s.kernel.reportingPipe.drop childErrorSize = [] := by
  obtain ⟨error, k, content⟩ := one.content
  rw [content, error.drop_take_bytes]

theorem OneReport.child {a : ChildAction} (one : OneReport s) (ends : WriteEnds s)
    (pipe2 : s.pipe2Support = true) (taken : act s (.child a) = some s') : OneReport s' := by
  simp only [act, Option.map_eq_some_iff] at taken
  obtain ⟨k, taken, rfl⟩ := taken
  cases a <;> simp only [Server.child, require_eq_some] at taken <;> obtain ⟨guard, rfl⟩ := taken
  case wrote error k =>
    have empty := one.unwritten (by simp [guard])
    exact ⟨by simp, error, k, by simp [Kernel.deliver, empty]⟩
  case programWrites n f bytes =>
    refine one.frame (by simp) (.inl (reportingPipe_deliver bytes ?_))
    rintro rfl
    exact ends.program pipe2 guard.1 ⟨n, guard.2.1⟩
  all_goals exact one.frame (by simp [guard]) (.inl rfl)

theorem OneReport.parent {a : ParentAction} (one : OneReport s) (desc : Descriptors s)
    (taken : act s (.parent a) = some s') : OneReport s' := by
  cases a <;> simp only [act, Server.parent, require_eq_some] at taken <;>
    obtain ⟨guard, rfl⟩ := taken
  case readError => exact one.frame id (.inr one.drop)
  case readShort => exact one.frame id (.inr rfl)
  case waitpid => exact one.frame (by simp) (.inl rfl)
  case perror =>
    exact one.frame (by simp)
      (.inl (reportingPipe_writeStderr desc (by simp [guard, MainPc.hasOpen]) _))
  all_goals exact one.frame id (.inl rfl)

theorem OneReport.act {a : Action} {ok : State → Action → Prop}
    (run : system.RunWhere ok actions s) (one : OneReport s) (pipe2 : s.pipe2Support = true)
    (taken : act s a = some s') : OneReport s' := by
  cases a with
  | child a => exact one.child (.run run) pipe2 taken
  | parent a => exact one.parent (.run run) taken
  | setupThreads | setupChild | childWait | accept | clientConnection | client =>
      refine one.frame ?_ (.inl (act_reportingPipe_same run taken (by simp) (by simp)))
      rcases act_child taken with same | ⟨_, -, here, -⟩ | ⟨-, -, reaped⟩ | ⟨_, child, -⟩
      · rw [same]
        exact id
      · have unborn := (ChildTable.run run).unborn (by simp [here, MainPc.beforeFork])
        simp [unborn]
      · simp [reaped]
      · cases child
end

theorem OneReport.run {ok : State → Action → Prop} (run : system.RunWhere ok actions s)
    (pipe2 : s.pipe2Support = true) : OneReport s := by
  refine run.stateInvariant (I := fun s => s.pipe2Support = true → OneReport s) ?_ ?_ pipe2
  · rintro _ ⟨config, rfl⟩ -
    exact ⟨fun _ => rfl, ⟨.dup2, 0⟩, 0, rfl⟩
  · intro actions s a s' run one _ step pipe2
    have taken := (system_step.mp step).2
    rw [(act_constants taken).1] at pipe2
    exact (one pipe2).act run pipe2 taken

theorem OneReport.decodes (one : OneReport s)
    (enough : childErrorSize ≤ s.kernel.reportingPipe.length) :
    ChildError.ofBytes (s.kernel.reportingPipe.take childErrorSize) ≠ none := by
  obtain ⟨error, k, content⟩ := one.content
  rw [content] at enough
  rw [content, ChildError.take_eq_bytes enough, error.take_bytes, error.ofBytes_bytes]
  exact Option.some_ne_none _

/-! ## The statuses of main -/

def MainPc.status : MainPc → Option RetStatus
  | .close _ ret | .cancel _ _ ret | .join _ _ ret | .release _ ret | .returned ret => some ret
  | _ => none

/-- Where the reporting pipe has other writers than the child, main reads the report of one. -/
def ReportDecodes (s : State) : Action → Prop
  | .parent .readError => s.pipe2Support = true ∨
      ChildError.ofBytes (s.kernel.reportingPipe.take childErrorSize) ≠ none
  | _ => True

instance (s : State) : ∀ a, Decidable (ReportDecodes s a)
  | .parent .readError => inferInstanceAs (Decidable (_ ∨ _ ≠ none))
  | .parent .readEof | .parent .readShort | .parent .readFailed => instDecidableTrue
  | .parent (.waitpid _) | .parent (.waitpidFailed _) => instDecidableTrue
  | .parent (.perror _ _ _ _) | .parent (.perrorSigpipe _ _) => instDecidableTrue
  | .parent .lock | .parent .setCondition | .parent .unlock => instDecidableTrue
  | .parent .broadcast | .parent .joinChildWait | .parent .cancelAccept => instDecidableTrue
  | .parent .joinAccept => instDecidableTrue
  | .setupThreads _ | .setupChild _ | .childWait _ | .accept _ => instDecidableTrue
  | .clientConnection _ | .child _ | .client _ => instDecidableTrue

/-- The switch has a case for what main has read, and so has the caller for the status. -/
structure MainPc.Mapped (pc : MainPc) : Prop where
  reachable : pc ≠ .unreachable
  decoded : pc ≠ .waitpid none
  status : pc.status ≠ some .outOfMemory

section
attribute [local simp] MainPc.status MainPc.endThreads MainPc.closeEnds MainPc.setupChildReturned
  MainPc.parentReturned MainPc.reportingPipeCreated

theorem MainPc.Mapped.act {a : Action} {ok : State → Action → Prop}
    (run : system.RunWhere ok actions s) (mapped : s.main.Mapped) (decodes : ReportDecodes s a)
    (taken : act s a = some s') : s'.main.Mapped := by
  have status := mapped.status
  cases a with
  | setupThreads a =>
      cases a <;> simp only [Server.act, setupThreads, require_eq_some] at taken <;>
        obtain ⟨guard, rfl⟩ := taken
      case join t rest ret => cases rest <;> constructor <;> simp_all
      all_goals constructor <;> simp_all
  | setupChild a =>
      cases a <;> simp only [Server.act, setupChild, require_eq_some] at taken <;>
        obtain ⟨guard, rfl⟩ := taken
      case close p e rest ret => cases rest <;> constructor <;> simp_all
      case reportingPipe => cases s.pipe2Support <;> constructor <;> simp
      all_goals constructor <;> simp
  | parent a =>
      cases a <;> simp only [Server.act, parent, require_eq_some] at taken <;>
        obtain ⟨guard, rfl⟩ := taken
      case readError =>
        have some_error : ChildError.ofBytes (s.kernel.reportingPipe.take childErrorSize) ≠ none :=
          decodes.elim (fun pipe2 => (OneReport.run run pipe2).decodes guard.2) id
        exact ⟨by simp, by simpa using some_error, by simp⟩
      case waitpid error | waitpidFailed error =>
        cases error with
        | none => exact absurd guard.1 mapped.decoded
        | some error => constructor <;> simp [MainPc.afterChildError]
      case perrorSigpipe => exact mapped
      all_goals constructor <;> simp
  | childWait | accept | clientConnection | child | client =>
      rwa [(act_sameMain taken id).main]

end

theorem MainPc.Mapped.run (run : system.RunWhere ReportDecodes actions s) : s.main.Mapped := by
  refine run.stateInvariant (I := fun s => s.main.Mapped) ?_ ?_
  · rintro _ ⟨config, rfl⟩
    constructor <;> simp [State.start, MainPc.status]
  · exact fun _ _ _ _ run mapped decodes step =>
      mapped.act run decodes (system_step.mp step).2

/-! ## The statuses of the call -/

def CallPc.status : CallPc → Option RetStatus
  | .exit _ ret | .returned ret => some ret
  | _ => none

/-- strdup() succeeds, and main can tell what it reads from the reporting pipe. -/
def CallMeets (c : Call) : CallAction → Prop
  | .strdupFailed => False
  | .threads a => ReportDecodes c.threads a
  | _ => True

instance (c : Call) (a : CallAction) : Decidable (CallMeets c a) := by
  unfold CallMeets
  split <;> infer_instance

structure Call.Mapped (c : Call) : Prop where
  threads : c.threads.main.Mapped
  status : c.pc.status ≠ some .outOfMemory

section
variable {c c' : Call} {calls : List CallAction}
attribute [local simp] CallPc.status CallPc.setupThreadsReturned

theorem Call.Mapped.step {a : CallAction} (run : callSystem.RunWhere CallMeets calls c)
    (mapped : c.Mapped) (meets : CallMeets c a) (taken : usockitServer c a = some c') :
    c'.Mapped := by
  cases a <;> simp only [usockitServer, require_eq_some, Option.ite_none_right_eq_some,
    Option.map_eq_some_iff] at taken
  case strdupFailed => exact meets.elim
  case threads a =>
    obtain ⟨here, s, step, rfl⟩ := taken
    have of : c.OfThreads ReportDecodes calls := .ofRun (fun _ _ => id) run
    obtain ⟨t, runThreads, same⟩ := of.run
    obtain rfl := same (by simp [here, CallPc.socketOpen])
    exact ⟨mapped.threads.act runThreads meets (system_step.mp step).2, by simp [here]⟩
  case setupThreadsReturned ret =>
    obtain ⟨⟨-, returned, -⟩, rfl⟩ := taken
    have status := mapped.threads.status
    exact ⟨mapped.threads, by simpa [returned, MainPc.status] using status⟩
  case exit op rest ret =>
    obtain ⟨here, rfl⟩ := taken
    have status := mapped.status
    cases op <;> exact ⟨mapped.threads, by simpa [here] using status⟩
  case ret ret =>
    obtain ⟨here, rfl⟩ := taken
    have status := mapped.status
    exact ⟨mapped.threads, by simpa [here] using status⟩
  case acquire op =>
    obtain ⟨-, rfl⟩ := taken
    exact ⟨mapped.threads, by cases op <;> simp [CallPc.afterAcquire]⟩
  all_goals
    obtain ⟨-, rfl⟩ := taken
    exact ⟨mapped.threads, by simp⟩

theorem Call.Mapped.run (run : callSystem.RunWhere CallMeets calls c) : c.Mapped := by
  refine run.stateInvariant (I := Call.Mapped) ?_ ?_
  · rintro c ⟨config, rfl⟩
    exact ⟨.run (.start ⟨config, rfl⟩), by simp [Call.start]⟩
  · exact fun _ _ _ _ run mapped meets step => mapped.step run meets step

end

end Usockit.Server
