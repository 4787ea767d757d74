import Usockit.Server.Frame

namespace Usockit.Server
open Foundation

variable {s s' : State}

/-- main has stored true to child_ready_info->condition. -/
def MainPc.ready : MainPc → Bool
  | .unlock | .broadcast | .joinChildWait | .cancelAccept | .joinAccept => true
  | .close _ ret | .cancel _ _ ret | .join _ _ ret | .release _ ret | .returned ret =>
      ret = .success
  | _ => false

/-- main has stored the write end of the main pipe to *child_stdin_fd_ptr and runs
usockit_server_parent, or has seen it succeed. -/
def MainPc.stdinStored : MainPc → Bool
  | .readReport | .waitpid _ | .lock | .setCondition => true
  | pc => pc.ready

def MainPc.stdinUnstored : MainPc → Bool
  | .create _ | .pipe | .reportingPipe | .setCloseOnExec | .fork => true
  | .closeReportingWrite | .closeMainRead | .storeChildPid | .storeChildStdinFd => true
  | _ => false

/-- The thread that main joins, where it has cancelled it before. -/
def MainPc.joining : MainPc → Option Thread
  | .joinAccept => some .accept
  | .join t _ _ => some t
  | _ => none

/-- What is left of `threads` for setup_threads when usockit_server_parent has succeeded. -/
def leftToCancel (threads : List Thread) (ret : RetStatus) : List Thread :=
  threads.filter fun t => ret = .success → t ≠ .accept

def MainPc.uncancelled : MainPc → List Thread
  | .joinAccept => [.clientConnection, .childWait]
  | .close _ ret => leftToCancel [.accept, .clientConnection, .childWait] ret
  | .cancel t rest ret => leftToCancel (t :: rest) ret
  | .join _ rest ret => leftToCancel rest ret
  | .release _ _ | .returned _ => []
  | _ => [.accept, .clientConnection, .childWait]

def MainPc.toJoin : MainPc → List Thread
  | .cancel t rest _ | .join t rest _ => t :: rest
  | _ => []

structure Progress (s : State) : Prop where
  condition : s.childReady.condition = s.main.ready
  stdinStored : s.main.stdinStored = true →
    s.childStdinFdCell = some (s.pipeFds .main .write)
  stdinUnstored : s.main.stdinUnstored = true → s.childStdinFdCell = none
  stdinFd : ∀ fd, s.childStdinFdCell = some fd → fd = s.pipeFds .main .write
  toJoin : s.main.toJoin <:+ [.accept, .clientConnection, .childWait]
  requested : ∀ t, s.main.joining = some t → s.cancelRequested t = true
  uncancelled : ∀ t ∈ s.main.uncancelled, s.cancelRequested t = false

@[simp] theorem mem_leftToCancel {t : Thread} {threads : List Thread} {ret : RetStatus} :
    t ∈ leftToCancel threads ret ↔ t ∈ threads ∧ (ret = .success → t ≠ .accept) := by
  simp [leftToCancel, imp_iff_not_or]

attribute [local simp] MainPc.ready MainPc.stdinStored MainPc.stdinUnstored MainPc.joining
  MainPc.uncancelled MainPc.toJoin

@[simp] theorem State.requestCancel_self (t : Thread) : s.requestCancel t t = true := by
  simp [requestCancel]

theorem State.requestCancel_of_ne {t u : Thread} (other : u ≠ t) :
    s.requestCancel t u = s.cancelRequested u := by
  simp [requestCancel, other]

theorem Progress.start (config : Config) : Progress (.start config) := by
  constructor <;> simp [State.start]

theorem Progress.advance (progress : Progress s)
    (condition : s'.childReady.condition = s.childReady.condition)
    (cell : s'.childStdinFdCell = s.childStdinFdCell)
    (fd : s'.pipeFds .main .write = s.pipeFds .main .write)
    (requested : s'.cancelRequested = s.cancelRequested)
    (ready : s'.main.ready = s.main.ready)
    (stored : s'.main.stdinStored = true → s.main.stdinStored = true)
    (unstored : s'.main.stdinUnstored = true → s.main.stdinUnstored = true)
    (toJoin : s.main.toJoin <:+ [.accept, .clientConnection, .childWait] →
      s'.main.toJoin <:+ [.accept, .clientConnection, .childWait])
    (joining : ∀ t, s'.main.joining = some t → s.main.joining = some t)
    (uncancelled : ∀ t ∈ s'.main.uncancelled, t ∈ s.main.uncancelled) : Progress s' where
  condition := by rw [condition, ready, progress.condition]
  stdinStored here := by rw [cell, fd, progress.stdinStored (stored here)]
  stdinUnstored here := by rw [cell, progress.stdinUnstored (unstored here)]
  stdinFd n here := by rw [fd, progress.stdinFd n (cell ▸ here)]
  toJoin := toJoin progress.toJoin
  requested t here := by rw [requested, progress.requested t (joining t here)]
  uncancelled t left := by rw [requested, progress.uncancelled t (uncancelled t left)]

section
attribute [local simp] MainPc.endThreads MainPc.closeEnds MainPc.setupChildReturned
  MainPc.parentReturned MainPc.afterChildError MainPc.reportingPipeCreated

theorem Progress.setupThreads {a : SetupThreadsAction} (progress : Progress s)
    (taken : setupThreads s a = some s') : Progress s' := by
  cases a <;> simp only [Server.setupThreads, require_eq_some] at taken <;>
    obtain ⟨guard, rfl⟩ := taken
  case cancel t rest ret =>
    obtain ⟨condition, stored, unstored, stdinFd, toJoin, requested, uncancelled⟩ := progress
    simp only [guard, MainPc.toJoin] at toJoin
    have distinct : t ∉ rest := (List.nodup_cons.mp (toJoin.sublist.nodup (by decide))).1
    refine ⟨by simpa [guard] using condition, fun ready => stored (by simpa [guard] using ready),
      by simp, stdinFd, toJoin, by simp, ?_⟩
    intro u left
    have member : u ∈ rest ∧ (ret = .success → u ≠ .accept) := by simpa using left
    have other : u ≠ t := fun same => distinct (same ▸ member.1)
    refine (State.requestCancel_of_ne other).trans ?_
    exact uncancelled u (by simpa [guard] using ⟨.inr member.1, member.2⟩)
  case join t rest ret =>
    have later : rest <:+ t :: rest := List.suffix_cons t rest
    cases rest <;>
      exact progress.advance rfl rfl rfl rfl (by simp [guard]) (by simp [guard]) (by simp)
        (fun suffix => later.trans (by simpa [guard] using suffix)) (by simp) (by simp [guard])
  case createAcceptFailed | createClientConnectionFailed =>
    exact progress.advance rfl rfl rfl rfl (by simp [guard]) (by simp) (by simp)
      (fun _ => by simp [List.suffix_cons_iff]) (by simp) (by simp [guard])
  all_goals
    exact progress.advance rfl rfl rfl rfl (by simp [guard]) (by simp [guard]) (by simp [guard])
      (by simp) (by simp) (by simp [guard])

theorem Progress.setupChild {a : SetupChildAction} (progress : Progress s)
    (taken : setupChild s a = some s') : Progress s' := by
  cases a <;> simp only [Server.setupChild, require_eq_some] at taken <;>
    obtain ⟨guard, rfl⟩ := taken
  case pipe =>
    have unstored := progress.stdinUnstored (by simp [guard])
    have condition := progress.condition
    exact ⟨by simpa [guard] using condition, by simp, fun _ => unstored, by simp [unstored],
      by simp, by simp, by simpa [guard] using progress.uncancelled⟩
  case storeChildStdinFd =>
    have condition := progress.condition
    exact ⟨by simpa [guard] using condition, fun _ => rfl, by simp, by simp, by simp, by simp,
      by simpa [guard] using progress.uncancelled⟩
  case close p e rest ret =>
    cases rest <;>
      exact progress.advance rfl rfl rfl rfl (by simp [guard]) (by simp [guard]) (by simp) (by simp)
        (by simp) (by simp [guard])
  case reportingPipe =>
    cases support : s.pipe2Support <;>
      exact progress.advance rfl rfl (by simp [State.storePipe]) rfl (by simp [guard]) (by simp)
        (by simp [guard]) (by simp) (by simp) (by simp [guard])
  all_goals
    exact progress.advance rfl rfl rfl rfl (by simp [guard]) (by simp [guard]) (by simp [guard])
      (by simp) (by simp) (by simp [guard])

theorem Progress.parent {a : ParentAction} (progress : Progress s)
    (taken : parent s a = some s') : Progress s' := by
  cases a <;> simp only [Server.parent, require_eq_some] at taken <;>
    obtain ⟨guard, rfl⟩ := taken
  case setCondition =>
    exact ⟨by simp, fun _ => progress.stdinStored (by simp [guard]), by simp, progress.stdinFd,
      by simp, by simp, by simpa [guard] using progress.uncancelled⟩
  case cancelAccept =>
    have condition := progress.condition
    refine ⟨by simpa [guard] using condition, fun _ => progress.stdinStored (by simp [guard]),
      by simp, progress.stdinFd, by simp, by simp, ?_⟩
    intro t left
    have other : t ≠ .accept := by
      rintro rfl
      simp at left
    refine (State.requestCancel_of_ne other).trans ?_
    have member : t = .clientConnection ∨ t = .childWait := by simpa using left
    exact progress.uncancelled t (by simpa [guard] using .inr member)
  case waitpid error | waitpidFailed error =>
    cases error <;>
      exact progress.advance rfl rfl rfl rfl (by simp [guard]) (by simp [guard]) (by simp) (by simp)
        (by simp) (by simp [guard])
  case readEof | readError | readShort =>
    exact progress.advance rfl rfl rfl rfl (by simp [guard.1.1]) (by simp [guard.1.1]) (by simp)
      (by simp) (by simp) (by simp [guard.1.1])
  all_goals
    exact progress.advance rfl rfl rfl rfl (by simp [guard]) (by simp [guard]) (by simp) (by simp)
      (by simp) (by simp [guard])

end

theorem Progress.frame (progress : Progress s) (same : SameMain s s') : Progress s' := by
  obtain ⟨condition, stored, unstored, stdinFd, toJoin, requested, uncancelled⟩ := progress
  constructor
  · rw [same.condition, same.main, condition]
  · rw [same.main, same.childStdinFdCell, same.pipeFds]
    exact stored
  · rw [same.main, same.childStdinFdCell]
    exact unstored
  · rw [same.childStdinFdCell, same.pipeFds]
    exact stdinFd
  · rw [same.main]
    exact toJoin
  · rw [same.main, same.cancelRequested]
    exact requested
  · rw [same.main, same.cancelRequested]
    exact uncancelled

theorem Progress.act {a : Action} (progress : Progress s) (taken : act s a = some s') :
    Progress s' := by
  cases a with
  | setupThreads a => exact progress.setupThreads taken
  | setupChild a => exact progress.setupChild taken
  | parent a => exact progress.parent taken
  | childWait | accept | clientConnection | child | client =>
      exact progress.frame (act_sameMain taken id)

theorem Progress.run {ok : State → Action → Prop} {actions : List Action}
    (run : system.RunWhere ok actions s) : Progress s := by
  refine run.stateInvariant ?_ ?_
  · rintro _ ⟨config, rfl⟩
    exact .start config
  · intro _ s a s' _ progress _ step
    exact progress.act (system_step.mp step).2

theorem ready_mono {a : Action} (taken : act s a = some s') (ready : s.main.ready = true) :
    s'.main.ready = true := by
  cases a with
  | setupThreads a =>
      cases a <;> simp only [act, setupThreads, require_eq_some] at taken <;>
        obtain ⟨guard, rfl⟩ := taken
      case join t rest ret => cases rest <;> simp_all [MainPc.endThreads]
      all_goals simp_all
  | setupChild a =>
      cases a <;> simp only [act, setupChild, require_eq_some] at taken <;>
        obtain ⟨guard, rfl⟩ := taken
      case close p e rest ret =>
        cases rest <;>
          simp_all [MainPc.closeEnds, MainPc.setupChildReturned, MainPc.endThreads]
      all_goals simp_all
  | parent a =>
      cases a <;> simp only [act, parent, require_eq_some] at taken <;>
        obtain ⟨guard, rfl⟩ := taken
      case readEof | readError | readShort =>
        replace guard := guard.1.1
        simp_all
      all_goals simp_all [MainPc.parentReturned, MainPc.closeEnds]
  | childWait | accept | clientConnection | child | client =>
      rw [(act_sameMain taken id).main]
      exact ready

end Usockit.Server
