import Usockit.Server.Reaping
import Usockit.Server.Statuses

namespace Usockit.Server
open Foundation Kernel

variable {s s' : State} {actions : List Action} {a : Action}

/-! ## The child's error on its way to main -/

/-- Where dup2() or execvp() of the child has failed, main gets that error or less than a struct. -/
structure HandedOver (actions : List Action) (s : State) : Prop where
  undecided : s.kernel.child.pc.undecided = true → ∀ error, ¬ Failed actions error
  program : s.kernel.child.pc = .program → ∀ error, ¬ Failed actions error
  reporting : ∀ error, s.kernel.child.pc.reporting = some error → Failed actions error
  unique : ∀ error error', Failed actions error → Failed actions error' → error = error'
  unwritten : s.kernel.child.pc.unwritten = true →
    s.kernel.reportingPipe = [] ∧ ∀ result, s.main ≠ .waitpid result
  content : ∀ error, Failed actions error → ∃ k, s.kernel.reportingPipe = error.bytes.take k
  received : ∀ result error, s.main = .waitpid result → Failed actions error →
    result = some error

theorem HandedOver.start (config : Config) : HandedOver [] (.start config) := by
  constructor <;> simp [State.start, Failed, ChildPc.reporting]

/-- The child goes on without a failure, and main does not read a struct. -/
structure Onward (s s' : State) : Prop where
  undecided : s'.kernel.child.pc.undecided = true → s.kernel.child.pc.undecided = true
  program : s'.kernel.child.pc = .program →
    s.kernel.child.pc = .program ∨ s.kernel.child.pc.undecided = true
  reporting : ∀ error, s'.kernel.child.pc.reporting = some error →
    s.kernel.child.pc.reporting = some error
  main : ∀ result, s'.main = .waitpid result → s.main = .waitpid result

theorem Onward.act {ok : State → Action → Prop} (run : system.RunWhere ok actions s)
    (taken : act s a = some s') (notChild : ∀ b, a ≠ .child b)
    (notRead : a ≠ .parent .readError) : Onward s s' := by
  have main : ∀ result, s'.main = .waitpid result → s.main = .waitpid result :=
    fun result after => (act_waitpid taken after).resolve_right notRead
  rcases act_child taken with
    same | ⟨_, -, here, -, -, born⟩ | ⟨-, -, reaped⟩ | ⟨b, child, -⟩
  · refine ⟨?_, ?_, ?_, main⟩ <;> rw [same]
    · exact id
    · exact .inl
    · exact fun _ => id
  · have unborn := (ChildTable.run run).unborn (by simp [here, MainPc.beforeFork])
    refine ⟨?_, ?_, ?_, main⟩ <;> simp [born, unborn, ChildPc.undecided, ChildPc.reporting]
  · refine ⟨?_, ?_, ?_, main⟩ <;> simp [reaped, ChildPc.undecided, ChildPc.reporting]
  · exact absurd child (notChild b)

theorem ChildPc.unwritten_of_undecided {pc : ChildPc} (undecided : pc.undecided = true) :
    pc.unwritten = true := by
  simp [unwritten, undecided]

theorem Onward.unwritten (onward : Onward s s') (after : s'.kernel.child.pc.unwritten = true) :
    s.kernel.child.pc.unwritten = true := by
  simp only [ChildPc.unwritten, Bool.or_eq_true, Option.isSome_iff_exists] at after ⊢
  exact after.imp onward.undecided fun ⟨error, here⟩ => ⟨error, onward.reporting error here⟩

theorem HandedOver.frame (handed : HandedOver actions s) (onward : Onward s s')
    (noFailure : a.failure = none)
    (pipe : s'.kernel.reportingPipe = s.kernel.reportingPipe ∨ s'.kernel.reportingPipe = []) :
    HandedOver (actions ++ [a]) s' := by
  have failed : ∀ error, Failed (actions ++ [a]) error ↔ Failed actions error :=
    fun _ => failed_snoc_none noFailure
  constructor <;> simp -failIfUnchanged only [failed]
  · exact fun before => handed.undecided (onward.undecided before)
  · exact fun here => (onward.program here).elim handed.program handed.undecided
  · exact fun error here => handed.reporting error (onward.reporting error here)
  · exact handed.unique
  · intro before
    obtain ⟨empty, unread⟩ := handed.unwritten (onward.unwritten before)
    exact ⟨pipe.elim (fun same => same.trans empty) id,
      fun result here => unread result (onward.main result here)⟩
  · intro error here
    rcases pipe with same | empty
    · rw [same]
      exact handed.content error here
    · exact ⟨0, empty⟩
  · exact fun result error here => handed.received result error (onward.main result here)

theorem HandedOver.fail {error : ChildError} (handed : HandedOver actions s)
    (before : s.kernel.child.pc.undecided = true) (failure : a.failure = some error)
    (reporting : s'.kernel.child.pc.reporting = some error) (main : s'.main = s.main)
    (pipe : s'.kernel.reportingPipe = s.kernel.reportingPipe) :
    HandedOver (actions ++ [a]) s' := by
  have failed : ∀ error', Failed (actions ++ [a]) error' ↔ error' = error := by
    intro error'
    simp [failed_snoc, handed.undecided before, failure, eq_comm]
  have apart : s'.kernel.child.pc.undecided = false ∧ s'.kernel.child.pc ≠ .program := by
    cases pc : s'.kernel.child.pc <;>
      simp [pc, ChildPc.reporting, ChildPc.undecided] at reporting ⊢
  obtain ⟨empty, unread⟩ := handed.unwritten (ChildPc.unwritten_of_undecided before)
  constructor <;> simp only [failed, main, pipe]
  · simp [apart.1]
  · exact fun program => absurd program apart.2
  · simp [reporting, eq_comm]
  · rintro _ _ rfl rfl
    rfl
  · exact fun _ => ⟨empty, unread⟩
  · exact fun _ _ => ⟨0, empty⟩
  · exact fun result _ here => absurd here (unread result)

theorem HandedOver.wrote {error : ChildError} {k : Nat} (handed : HandedOver actions s)
    (here : s.kernel.child.pc = .write error) (noFailure : a.failure = none)
    (after : s'.kernel.child.pc = .closeReportingWrite) (main : s'.main = s.main)
    (pipe : s'.kernel.reportingPipe = s.kernel.reportingPipe ++ error.bytes.take k) :
    HandedOver (actions ++ [a]) s' := by
  have failed : ∀ error', Failed (actions ++ [a]) error' ↔ error' = error := by
    intro error'
    have first := handed.reporting error (by simp [here, ChildPc.reporting])
    rw [failed_snoc_none noFailure]
    exact ⟨fun second => handed.unique _ _ second first, fun same => same ▸ first⟩
  obtain ⟨empty, unread⟩ := handed.unwritten (by simp [here, ChildPc.unwritten, ChildPc.reporting])
  constructor <;> simp only [failed, main, pipe, after]
  · exact nofun
  · exact nofun
  · exact nofun
  · rintro _ _ rfl rfl
    rfl
  · exact nofun
  · rintro _ rfl
    exact ⟨k, by simp [empty]⟩
  · exact fun result _ here => absurd here (unread result)

section
attribute [local simp] ChildPc.unwritten ChildPc.undecided ChildPc.reporting

theorem HandedOver.child {a : ChildAction} (handed : HandedOver actions s)
    (taken : act s (.child a) = some s') : HandedOver (actions ++ [.child a]) s' := by
  simp only [act, Option.map_eq_some_iff] at taken
  obtain ⟨k, taken, rfl⟩ := taken
  cases a <;> simp only [Server.child, require_eq_some] at taken <;> obtain ⟨guard, rfl⟩ := taken
  case dup2Failed | execvpFailed => exact handed.fail (by simp [guard]) rfl rfl rfl rfl
  case wrote error k => exact handed.wrote guard.1 rfl rfl rfl rfl
  case programWrites n f bytes =>
    have failed : ∀ error, ¬ Failed (actions ++ [.child (.programWrites n f bytes)]) error :=
      fun error => (failed_snoc_none rfl).not.mpr (handed.program guard.1 error)
    constructor <;> simp [guard, failed]
  all_goals exact handed.frame (by constructor <;> simp [guard]) rfl (.inl rfl)

end

theorem HandedOver.readError (handed : HandedOver actions s)
    (taken : act s (.parent .readError) = some s') :
    HandedOver (actions ++ [.parent .readError]) s' := by
  simp only [act, parent, require_eq_some] at taken
  obtain ⟨⟨-, enough⟩, rfl⟩ := taken
  have written : s.kernel.child.pc.unwritten = false := by
    by_contra before
    simp [handed.unwritten (by simpa using before), childErrorSize] at enough
  have failed : ∀ error, Failed (actions ++ [.parent .readError]) error ↔ Failed actions error :=
    fun _ => failed_snoc_none rfl
  constructor <;> simp -failIfUnchanged only [failed]
  · exact handed.undecided
  · exact handed.program
  · exact handed.reporting
  · exact handed.unique
  · simp [written]
  · intro error here
    obtain ⟨k, content⟩ := handed.content error here
    exact ⟨0, by simp [content]⟩
  · rintro result error ⟨⟩ here
    obtain ⟨k, content⟩ := handed.content error here
    rw [content] at enough
    rw [content, ChildError.take_eq_bytes enough, error.take_bytes, error.ofBytes_bytes]

theorem HandedOver.act {ok : State → Action → Prop} (handed : HandedOver actions s)
    (run : system.RunWhere ok actions s) (taken : act s a = some s') :
    HandedOver (actions ++ [a]) s' := by
  cases a with
  | child a => exact handed.child taken
  | parent a =>
      by_cases read : a = .readError
      · subst read
        exact handed.readError taken
      · refine handed.frame (.act run taken (by simp) (by simp [read])) rfl ?_
        cases a <;> simp only [Server.act, parent, require_eq_some] at taken <;>
          obtain ⟨guard, rfl⟩ := taken
        case readError => exact absurd rfl read
        case readShort => exact .inr rfl
        case perror =>
          exact .inl (reportingPipe_writeStderr (.run run) (by simp [guard, MainPc.hasOpen]) _)
        all_goals exact .inl rfl
  | setupThreads | setupChild | childWait | accept | clientConnection | client =>
      exact handed.frame (.act run taken (by simp) (by simp)) rfl
        (.inl (act_reportingPipe_same run taken (by simp) (by simp)))

theorem HandedOver.run {ok : State → Action → Prop} (run : system.RunWhere ok actions s) :
    HandedOver actions s := by
  refine run.invariant (I := HandedOver) ?_ ?_
  · rintro _ ⟨config, rfl⟩
    exact .start config
  · exact fun _ _ _ _ run handed _ step => handed.act run (system_step.mp step).2

end Usockit.Server
