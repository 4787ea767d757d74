import Usockit.Server.Handoff

namespace Usockit.Server
open Foundation Kernel

variable {s s' : State} {actions : List Action}

def MainPc.hasOpen : MainPc → Pipe → PipeEnd → Bool
  | .create _, _, _ | .pipe, _, _ => false
  | .reportingPipe, p, _ => p = .main
  | .setCloseOnExec, _, _ | .fork, _, _ | .closeReportingWrite, _, _ => true
  | .closeMainRead, p, e => ¬ (p = .reporting ∧ e = .write)
  | .close ends _, p, e => (p, e) ∈ ends
  | .cancel _ _ _, _, _ | .join _ _ _, _, _ | .release _ _, _, _ | .returned _, _, _ => false
  | _, p, e => p = .reporting ∧ e = .read ∨ p = .main ∧ e = .write

def MainPc.toClose : MainPc → List (Pipe × PipeEnd)
  | .close ends _ => ends
  | _ => []

/-- A connection that the accept thread would still close when it is cancelled. -/
def AcceptPc.revocable : AcceptPc → Option ClientFd
  | .unlock fd | .testcancelPublished fd | .cleanupRoutine fd => some fd
  | _ => none

/-- The number of `d` still leads to the connection that accept() returned with it. -/
def State.Refers (s : State) (d : ClientFd) : Prop :=
  s.kernel.fds.fileAt d.number = some (.connection d.connection)

def State.Closed (s : State) (d : ClientFd) : Prop := s.kernel.fds.fileAt d.number = none

instance (s : State) (d : ClientFd) : Decidable (s.Refers d) := inferInstanceAs (Decidable (_ = _))

instance (s : State) (d : ClientFd) : Decidable (s.Closed d) := inferInstanceAs (Decidable (_ = _))

/-- The descriptors in shared memory and in the hands of the connection thread. -/
def State.Held (s : State) (d : ClientFd) : Prop :=
  s.clientReady.clientFd = some d ∨ s.clientConnection.holding = some d

theorem Handoff.held_stored {d : ClientFd} (handoff : Handoff actions s) (held : s.Held d) :
    Stored actions d := by
  rcases held with slot | holding
  · exact (handoff.slot d slot).1
  · exact handoff.cleaned d (handoff.holding d holding)

structure Descriptors (s : State) : Prop where
  pipes : ∀ n p e, s.kernel.fds.fileAt n = some (.pipe p e) ↔
    s.main.hasOpen p e = true ∧ n = s.pipeFds p e
  toClose : s.main.toClose.Nodup
  stdin : ∀ fd f, s.childStdinFdCell = some fd → s.kernel.fds.fileAt fd = some f →
    f = .pipe .main .write
  unpublished : ∀ d, s.accept.unpublished = some d → s.Refers d
  revocable : ∀ d, s.accept.revocable = some d → s.Refers d ∨ s.Closed d
  held : ∀ d, s.Held d → s.Refers d ∨ s.Closed d ∧ s.accept = .ended

attribute [simp] AcceptPc.revocable.eq_1 AcceptPc.revocable.eq_2 AcceptPc.revocable.eq_3
  AcceptPc.revocable.eq_4

@[simp] theorem AcceptPc.revocable_afterWait (outcome : WaitOutcome) :
    (AcceptPc.afterWait outcome).revocable = none := by
  cases outcome <;> rfl

@[simp] theorem AcceptPc.revocable_signalled (pc : AcceptPc) :
    pc.signalled.revocable = pc.revocable := by
  unfold signalled
  split <;> rfl

@[simp] theorem AcceptPc.revocable_afterWrite (fd : ClientFd) (w : WriteAll) (k : Nat) :
    (AcceptPc.afterWrite fd w k).revocable = none := by
  unfold afterWrite
  split <;> rfl

theorem AcceptPc.sawReady_of_revocable {pc : AcceptPc} {d : ClientFd}
    (revocable : pc.revocable = some d) : pc.sawReady = true := by
  cases pc <;> simp_all

theorem Descriptors.start (config : Config) : Descriptors (.start config) := by
  constructor
  · intro n p e
    simp only [State.start, DescriptorTable.fileAt_install, DescriptorTable.fileAt_map,
      MainPc.hasOpen]
    split
    · simp
    · cases config.inherited.fileAt n <;> simp
  all_goals simp [State.start, MainPc.toClose, State.Held]

/-! ## The steps of main -/

theorem Descriptors.byMain (desc : Descriptors s) (handoff : Handoff actions s)
    (life : Lifecycle s) (stored : ∀ d, Stored actions d → s.main.ready = true)
    (same : SameHandoff s s')
    (pipes : ∀ n p e, s'.kernel.fds.fileAt n = some (.pipe p e) ↔
      s'.main.hasOpen p e = true ∧ n = s'.pipeFds p e)
    (toClose : s'.main.toClose.Nodup)
    (stdin : ∀ fd f, s'.childStdinFdCell = some fd → s'.kernel.fds.fileAt fd = some f →
      f = .pipe .main .write)
    (connections : ∀ n c, s.kernel.fds.fileAt n = some (.connection c) →
      s'.kernel.fds.fileAt n = some (.connection c))
    (closed : s.main.ready = true → ∀ n, s.kernel.fds.fileAt n = none →
      s'.kernel.fds.fileAt n = none) : Descriptors s' := by
  refine ⟨pipes, toClose, stdin, ?_, ?_, ?_⟩
  · intro d here
    have before : s.accept.unpublished = some d := by
      rcases same.accept with same | same | ⟨-, same⟩ <;> simp_all
    exact connections _ _ (desc.unpublished d before)
  · intro d here
    have before : s.accept.revocable = some d := by
      rcases same.accept with same | same | ⟨-, same⟩ <;> simp_all
    have ready := life.accept (AcceptPc.sawReady_of_revocable before)
    exact (desc.revocable d before).imp (connections _ _) (closed ready _)
  · intro d here
    have before : s.Held d := by
      rw [State.Held, same.clientReady] at here
      refine here.imp_right fun here => ?_
      rcases same.clientConnection with same | ⟨-, same⟩ <;> simp_all
    have ready := stored d (handoff.held_stored before)
    refine (desc.held d before).imp (connections _ _) fun ⟨isClosed, ended⟩ =>
      ⟨closed ready _ isClosed, ?_⟩
    rcases same.accept with same | same | ⟨main, -⟩
    · rw [same, ended]
    · rw [same, ended]
      rfl
    · have notCreated := life.notCreated .accept (by simp [main, MainPc.toCreate])
      simp [State.NotCreated, ended] at notCreated

theorem Descriptors.sameFiles (desc : Descriptors s) (handoff : Handoff actions s)
    (life : Lifecycle s) (stored : ∀ d, Stored actions d → s.main.ready = true)
    (same : SameHandoff s s') (files : ∀ n, s'.kernel.fds.fileAt n = s.kernel.fds.fileAt n)
    (hasOpen : ∀ p e, s'.main.hasOpen p e = s.main.hasOpen p e)
    (pipeFds : s'.pipeFds = s.pipeFds) (toClose : s'.main.toClose.Nodup)
    (cell : ∀ fd, s'.childStdinFdCell = some fd → s.childStdinFdCell = some fd ∨
      s.kernel.fds.fileAt fd = some (.pipe .main .write)) : Descriptors s' := by
  refine desc.byMain handoff life stored same ?_ toClose ?_ ?_ ?_
  · intro n p e
    rw [files, hasOpen, pipeFds]
    exact desc.pipes n p e
  · intro fd f here file
    rw [files] at file
    rcases cell fd here with before | stdin
    · exact desc.stdin fd f before file
    · exact Option.some.inj (file.symm.trans stdin)
  · intro n c here
    rw [files, here]
  · intro _ n here
    rw [files, here]

theorem Descriptors.closeEnd {p : Pipe} {e : PipeEnd} (desc : Descriptors s)
    (handoff : Handoff actions s) (life : Lifecycle s)
    (stored : ∀ d, Stored actions d → s.main.ready = true) (same : SameHandoff s s')
    (fds : s'.kernel.fds = s.kernel.fds.close (s.pipeFds p e))
    (isOpen : s.main.hasOpen p e = true)
    (hasOpen : ∀ p' e', s'.main.hasOpen p' e' = true ↔
      s.main.hasOpen p' e' = true ∧ ¬ (p' = p ∧ e' = e))
    (pipeFds : s'.pipeFds = s.pipeFds) (toClose : s'.main.toClose.Nodup)
    (cell : s'.childStdinFdCell = s.childStdinFdCell) : Descriptors s' := by
  have here := (desc.pipes _ p e).mpr ⟨isOpen, rfl⟩
  refine desc.byMain handoff life stored same ?_ toClose ?_ ?_ ?_
  · intro n p' e'
    rw [fds, pipeFds, DescriptorTable.fileAt_close, hasOpen]
    split
    · next sameNumber =>
      simp only [reduceCtorEq, false_iff]
      rintro ⟨⟨isOpen', other⟩, number⟩
      have there := (desc.pipes n p' e').mpr ⟨isOpen', number⟩
      rw [sameNumber, here] at there
      simp_all
    · next otherNumber =>
      rw [desc.pipes]
      constructor
      · rintro ⟨isOpen', rfl⟩
        refine ⟨⟨isOpen', ?_⟩, rfl⟩
        rintro ⟨rfl, rfl⟩
        exact otherNumber rfl
      · rintro ⟨⟨isOpen', -⟩, number⟩
        exact ⟨isOpen', number⟩
  · intro fd f stdin file
    rw [fds, DescriptorTable.fileAt_close] at file
    split at file
    · cases file
    · exact desc.stdin fd f (cell ▸ stdin) file
  · intro n c there
    rw [fds, DescriptorTable.fileAt_close, if_neg, there]
    rintro rfl
    simp [here] at there
  · intro _ n none
    rw [fds, DescriptorTable.fileAt_close, none, ite_self]

theorem Descriptors.openPipe {p : Pipe} {flag : Bool} (desc : Descriptors s)
    (handoff : Handoff actions s) (life : Lifecycle s)
    (stored : ∀ d, Stored actions d → s.main.ready = true) (same : SameHandoff s s')
    (fds : s'.kernel.fds = (s.kernel.openPipe p flag).fds)
    (unready : s.main.ready = false) (unopened : ∀ e, s.main.hasOpen p e = false)
    (hasOpen : ∀ p' e', s'.main.hasOpen p' e' = true ↔ s.main.hasOpen p' e' = true ∨ p' = p)
    (pipeFds : s'.pipeFds = s.storePipe p flag) (toClose : s'.main.toClose.Nodup)
    (cell : s'.childStdinFdCell = none) : Descriptors s' := by
  have readFree : s.kernel.fds.fileAt s.kernel.fds.lowestFree = none :=
    DescriptorTable.fileAt_lowestFree
  have writeFree := fileAt_nextWriteFd s.kernel p flag
  have different := nextWriteFd_ne_lowestFree s.kernel p flag
  refine desc.byMain handoff life stored same ?_ toClose (by simp [cell]) ?_ (by simp [unready])
  · intro n p' e'
    have before := desc.pipes n p' e'
    rw [fds, fileAt_openPipe, pipeFds, hasOpen, State.storePipe]
    by_cases this : p' = p
    · subst this
      rw [unopened] at before
      cases e' <;> simp only [Function.update_self] <;> split <;> simp_all
      split <;> simp_all
    · rw [Function.update_of_ne this, or_iff_left this]
      split
      · next number =>
        rw [number, writeFree] at before
        simp_all [Ne.symm this]
      · split
        · next number =>
          rw [number, readFree] at before
          simp_all [Ne.symm this]
        · exact before
  · intro n c here
    rw [fds, fileAt_openPipe, if_neg, if_neg, here]
    · rintro rfl
      simp at here
    · rintro rfl
      simp [writeFree] at here

section
attribute [local simp] MainPc.hasOpen MainPc.toClose MainPc.ready

theorem Descriptors.setupThreads {a : SetupThreadsAction} (desc : Descriptors s)
    (handoff : Handoff actions s) (life : Lifecycle s)
    (stored : ∀ d, Stored actions d → s.main.ready = true)
    (taken : act s (.setupThreads a) = some s') : Descriptors s' := by
  have same := act_sameHandoff taken id
  cases a <;> simp only [Server.act, Server.setupThreads, require_eq_some] at taken <;>
    obtain ⟨guard, rfl⟩ := taken
  case join t rest ret =>
    apply desc.sameFiles handoff life stored same <;> cases rest <;>
      simp_all [MainPc.endThreads]
  all_goals
    apply desc.sameFiles handoff life stored same <;> simp_all [MainPc.endThreads]

theorem Descriptors.parent {a : ParentAction} (desc : Descriptors s)
    (handoff : Handoff actions s) (life : Lifecycle s)
    (stored : ∀ d, Stored actions d → s.main.ready = true)
    (taken : act s (.parent a) = some s') : Descriptors s' := by
  have same := act_sameHandoff taken id
  cases a <;> simp only [Server.act, Server.parent, require_eq_some] at taken <;>
    obtain ⟨guard, rfl⟩ := taken
  case waitpid error | waitpidFailed error =>
    apply desc.sameFiles handoff life stored same <;> cases error <;>
      simp_all [MainPc.afterChildError]
  case readEof | readError | readShort =>
    replace guard := guard.1.1
    apply desc.sameFiles handoff life stored same <;> simp_all
  all_goals
    apply desc.sameFiles handoff life stored same <;>
      simp_all [MainPc.parentReturned, MainPc.closeEnds]

theorem Descriptors.setupChild {a : SetupChildAction} (desc : Descriptors s)
    (handoff : Handoff actions s) (life : Lifecycle s) (progress : Progress s)
    (stored : ∀ d, Stored actions d → s.main.ready = true)
    (taken : act s (.setupChild a) = some s') : Descriptors s' := by
  have same := act_sameHandoff taken id
  cases a <;> simp only [Server.act, Server.setupChild, require_eq_some] at taken <;>
    obtain ⟨guard, rfl⟩ := taken
  case pipe =>
    have unstored := progress.stdinUnstored (by simp [guard, MainPc.stdinUnstored])
    apply desc.openPipe handoff life stored same rfl <;> simp_all
  case reportingPipe =>
    have unstored := progress.stdinUnstored (by simp [guard, MainPc.stdinUnstored])
    apply desc.openPipe handoff life stored same rfl <;> cases s.pipe2Support <;>
      simp_all [MainPc.reportingPipeCreated]
    all_goals
      intro p' _
      cases p' <;> simp
  case closeReportingWrite =>
    apply desc.closeEnd handoff life stored same rfl <;> simp_all
    intro p' e'
    cases p' <;> cases e' <;> simp
  case closeMainRead =>
    apply desc.closeEnd handoff life stored same rfl <;> simp_all
    intro p' e'
    cases p' <;> cases e' <;> simp
  case close p e rest ret =>
    have toClose := desc.toClose
    apply desc.closeEnd handoff life stored same rfl <;> cases rest <;>
      simp_all [MainPc.closeEnds, MainPc.setupChildReturned, MainPc.endThreads]
    intro p' e'
    obtain ⟨⟨notHead, notTail⟩, -⟩ := toClose
    constructor
    · intro here
      refine ⟨.inr here, ?_⟩
      rintro rfl rfl
      exact here.elim notHead notTail
    · rintro ⟨⟨rfl, rfl⟩ | here, other⟩
      · exact absurd rfl (other rfl)
      · exact here
  case storeChildStdinFd =>
    have stdin := (desc.pipes (s.pipeFds .main .write) .main .write).mpr (by simp [guard])
    apply desc.sameFiles handoff life stored same <;> simp_all
  all_goals
    apply desc.sameFiles handoff life stored same <;>
      simp_all [MainPc.closeEnds, MainPc.setupChildReturned, MainPc.endThreads]
    all_goals
      intro p e
      cases p <;> cases e <;> simp

end

/-! ## The steps of the accept and the connection thread -/

theorem State.Refers.eq {d u : ClientFd} (there : s.Refers d) (here : s.Refers u)
    (number : d.number = u.number) : d = u := by
  rw [State.Refers, number] at there
  have same := there.symm.trans here
  cases d
  cases u
  simp_all

theorem State.Refers.not_closed {d u : ClientFd} (there : s.Refers d) (here : s.Closed u)
    (number : d.number = u.number) : False := by
  rw [State.Refers, number] at there
  rw [State.Closed, there] at here
  cases here

theorem Handoff.fresh {d u : ClientFd} (handoff : Handoff actions s)
    (own : s.accept.unpublished = some d) (held : s.Held u) : u ≠ d := by
  rintro rfl
  exact (handoff.unpublished u own).2 u (handoff.held_stored held) rfl

theorem Descriptors.frame (desc : Descriptors s) (same : SameMain s s')
    (fds : s'.kernel.fds = s.kernel.fds)
    (unpublished : ∀ d, s'.accept.unpublished = some d → s.accept.unpublished = some d)
    (revocable : ∀ d, s'.accept.revocable = some d →
      s.accept.revocable = some d ∨ s.accept.unpublished = some d)
    (held : ∀ d, s'.Held d → s.Held d ∨ s.accept.unpublished = some d)
    (ended : s.accept = .ended → s'.accept = .ended) : Descriptors s' := by
  constructor
  · rw [fds, same.main, same.pipeFds]
    exact desc.pipes
  · rw [same.main]
    exact desc.toClose
  · rw [fds, same.childStdinFdCell]
    exact desc.stdin
  · intro d here
    rw [State.Refers, fds]
    exact desc.unpublished d (unpublished d here)
  · intro d here
    rw [State.Refers, State.Closed, fds]
    rcases revocable d here with before | before
    · exact desc.revocable d before
    · exact .inl (desc.unpublished d before)
  · intro d here
    rw [State.Refers, State.Closed, fds]
    rcases held d here with before | before
    · exact (desc.held d before).imp_right fun ⟨closed, was⟩ => ⟨closed, ended was⟩
    · exact .inl (desc.unpublished d before)

/-- A thread closes `d`; whoever still has it is no longer served by a running accept thread. -/
theorem Descriptors.close {d : ClientFd} (desc : Descriptors s) (same : SameMain s s')
    (fds : s'.kernel.fds = s.kernel.fds.close d.number) (was : s.Refers d ∨ s.Closed d)
    (unpublished : ∀ u, s'.accept.unpublished = some u → s.accept.unpublished = some u ∧ u ≠ d)
    (revocable : ∀ u, s'.accept.revocable = some u → s.accept.revocable = some u)
    (held : ∀ u, s'.Held u → s.Held u ∧ (u = d → s'.accept = .ended))
    (ended : s.accept = .ended → s'.accept = .ended) : Descriptors s' := by
  have notPipe : ∀ p e, s.kernel.fds.fileAt d.number ≠ some (.pipe p e) := by
    intro p e here
    rcases was with refers | closed
    · simp [State.Refers, here] at refers
    · simp [State.Closed, here] at closed
  have keeps : ∀ u, s.Refers u → u ≠ d → s'.Refers u := by
    intro u here other
    rw [State.Refers, fds, DescriptorTable.fileAt_close, if_neg]
    · exact here
    · intro number
      rcases was with refers | closed
      · exact other (here.eq refers number)
      · exact here.not_closed closed number
  have staysClosed : ∀ u, s.Closed u → s'.Closed u := by
    intro u here
    rw [State.Closed, fds, DescriptorTable.fileAt_close, here, ite_self]
  have nowClosed : s'.Closed d := by
    rw [State.Closed, fds, DescriptorTable.fileAt_close, if_pos rfl]
  constructor
  · intro n p e
    rw [fds, same.main, same.pipeFds, DescriptorTable.fileAt_close, ← desc.pipes]
    split
    · next number =>
      rw [number]
      simp [notPipe]
    · rfl
  · rw [same.main]
    exact desc.toClose
  · intro fd f stdin file
    rw [fds, DescriptorTable.fileAt_close] at file
    split at file
    · cases file
    · exact desc.stdin fd f (same.childStdinFdCell ▸ stdin) file
  · intro u here
    obtain ⟨before, other⟩ := unpublished u here
    exact keeps u (desc.unpublished u before) other
  · intro u here
    by_cases this : u = d
    · exact .inr (this ▸ nowClosed)
    · exact (desc.revocable u (revocable u here)).imp (keeps u · this) (staysClosed u)
  · intro u here
    obtain ⟨before, last⟩ := held u here
    by_cases this : u = d
    · exact .inr ⟨this ▸ nowClosed, last this⟩
    · exact (desc.held u before).imp (keeps u · this) fun ⟨closed, wasEnded⟩ =>
        ⟨staysClosed u closed, ended wasEnded⟩

/-- As long as the accept thread accepts connections, main has the child's input open. -/
theorem Lifecycle.hasOpen (life : Lifecycle s) (saw : s.accept.sawReady = true) :
    s.main.hasOpen .main .write = true := by
  have ready := life.accept saw
  have alive : ¬ s.Gone .accept := by
    rintro (gone | gone) <;> simp_all [State.NotCreated, State.Terminated]
  obtain ⟨-, notJoined⟩ := life.of_not_gone (by simp) alive
  have created := (life.of_not_gone (by simp) alive).1
  cases here : s.main <;> rw [here] at ready notJoined created <;>
    simp_all [MainPc.ready, MainPc.joined, joinedByParent, MainPc.hasOpen, MainPc.created]

theorem Descriptors.accepted {c : ConnId} (desc : Descriptors s) (life : Lifecycle s)
    (progress : Progress s) (same : SameMain s s') (here : s.accept = .accept)
    (fds : s'.kernel.fds = (s.kernel.accept c).fds)
    (there : s'.accept = .trylock ⟨s.kernel.fds.lowestFree, c⟩)
    (held : ∀ u, s'.Held u → s.Held u) : Descriptors s' := by
  have free : s.kernel.fds.fileAt s.kernel.fds.lowestFree = none :=
    DescriptorTable.fileAt_lowestFree
  have files : ∀ n, s'.kernel.fds.fileAt n =
      if n = s.kernel.fds.lowestFree then some (.connection c) else s.kernel.fds.fileAt n := by
    intro n
    rw [fds, fds_accept, DescriptorTable.fileAt_install]
  constructor
  · intro n p e
    rw [files, same.main, same.pipeFds, ← desc.pipes]
    split
    · next number =>
      rw [number, free]
      simp
    · rfl
  · rw [same.main]
    exact desc.toClose
  · intro fd f stdin file
    rw [same.childStdinFdCell] at stdin
    have isOpen := (desc.pipes _ _ _).mpr ⟨life.hasOpen (by simp [here]), progress.stdinFd fd stdin⟩
    rw [files, if_neg (DescriptorTable.ne_lowestFree isOpen)] at file
    exact desc.stdin fd f stdin file
  · intro d unpublished
    obtain rfl : ⟨s.kernel.fds.lowestFree, c⟩ = d := by simpa [there] using unpublished
    rw [State.Refers, files, if_pos rfl]
  · simp [there]
  · intro d here'
    rcases desc.held d (held d here') with refers | ⟨-, ended⟩
    · refine .inl ?_
      rw [State.Refers, files, if_neg (DescriptorTable.ne_lowestFree refers)]
      exact refers
    · simp [here] at ended

theorem Descriptors.threadRoutineAccept {a : AcceptAction} (desc : Descriptors s)
    (handoff : Handoff actions s) (life : Lifecycle s) (progress : Progress s)
    (taken : act s (.accept a) = some s') : Descriptors s' := by
  have same := act_sameMain taken id
  cases a <;> simp only [Server.act, Server.threadRoutineAccept, require_eq_some] at taken
  case waitForChildReady w a =>
    simp only [Option.ite_none_right_eq_some, Option.map_eq_some_iff] at taken
    obtain ⟨here, r, -, rfl⟩ := taken
    apply desc.frame same <;> simp_all [State.Held]
  case accepted c =>
    obtain ⟨⟨here, -⟩, rfl⟩ := taken
    exact desc.accepted life progress same here rfl rfl fun _ => id
  case popClose fd =>
    obtain ⟨here, rfl⟩ := taken
    have own : s.accept.unpublished = some fd := by simp [here]
    refine desc.close same rfl (.inl (desc.unpublished fd own)) (by simp) (by simp) ?_
      (by simp [here])
    exact fun u held => ⟨held, fun equal => absurd equal (handoff.fresh own held)⟩
  case cleanupClose fd =>
    obtain ⟨here, rfl⟩ := taken
    exact desc.close same rfl (desc.revocable fd (by simp [here])) (by simp) (by simp)
      (fun u held => ⟨held, fun _ => rfl⟩) (by simp)
  case cancelPushed fd =>
    obtain ⟨⟨here, -⟩, rfl⟩ := taken
    rcases AcceptPc.cancellationPoint_eq_some.mp here with here | here | ⟨w, here⟩ <;>
      apply desc.frame same <;> simp_all [State.Held]
  case store fd =>
    obtain ⟨here, rfl⟩ := taken
    apply desc.frame same <;> simp_all [State.Held]
    rintro d (rfl | holding) <;> simp_all
  all_goals
    obtain ⟨here, rfl⟩ := taken
    apply desc.frame same <;> simp_all [State.Held]

theorem Descriptors.threadRoutineClientConnection {a : ClientConnectionAction}
    (desc : Descriptors s) (handoff : Handoff actions s)
    (taken : act s (.clientConnection a) = some s') : Descriptors s' := by
  have same := act_sameMain taken id
  cases a <;>
    simp only [Server.act, Server.threadRoutineClientConnection, require_eq_some] at taken <;>
    obtain ⟨here, rfl⟩ := taken
  case cleanupStore fd flag =>
    have slot := handoff.loaded fd (by simp [here])
    apply desc.frame same <;> simp_all [State.Held]
  case cleanupClose fd flag =>
    cases fd with
    | none => apply desc.frame same <;> simp_all [State.Held]
    | some d =>
        have own : s.clientConnection.holding = some d := by simp [here]
        have cleaned := handoff.holding d own
        refine desc.close same rfl ((desc.held d (.inr own)).imp_right And.left) ?_ (by simp) ?_
          (by simp)
        · exact fun u unpublished =>
            ⟨unpublished, fun equal => handoff.fresh unpublished (.inr own) equal.symm⟩
        · intro u held
          have slot : s.clientReady.clientFd = some u := by simpa [State.Held] using held
          exact ⟨.inl slot, fun equal => absurd cleaned (equal ▸ (handoff.slot u slot).2)⟩
  all_goals
    apply desc.frame same <;> simp_all [State.Held]

theorem Descriptors.act {a : Action} (desc : Descriptors s) (handoff : Handoff actions s)
    (life : Lifecycle s) (progress : Progress s)
    (stored : ∀ d, Stored actions d → s.main.ready = true) (taken : act s a = some s') :
    Descriptors s' := by
  cases a with
  | setupThreads a => exact desc.setupThreads handoff life stored taken
  | setupChild a => exact desc.setupChild handoff life progress stored taken
  | parent a => exact desc.parent handoff life stored taken
  | accept a => exact desc.threadRoutineAccept handoff life progress taken
  | clientConnection a => exact desc.threadRoutineClientConnection handoff taken
  | childWait a =>
      have same := act_sameMain taken id
      cases a <;> simp only [Server.act, Server.threadRoutineChildWait, require_eq_some,
        Option.ite_none_right_eq_some, Option.map_eq_some_iff] at taken
      case waitForChildReady w a =>
        obtain ⟨-, r, -, rfl⟩ := taken
        exact desc.frame same rfl (fun _ => id) (fun _ => .inl) (fun _ => .inl) id
      all_goals
        obtain ⟨-, rfl⟩ := taken
        exact desc.frame same rfl (fun _ => id) (fun _ => .inl) (fun _ => .inl) id
  | child a =>
      have same := act_sameMain taken id
      cases a <;> simp only [Server.act, child, Option.map_eq_some_iff, require_eq_some] at taken <;>
        obtain ⟨k, ⟨-, rfl⟩, rfl⟩ := taken <;>
        exact desc.frame same (by simp) (fun _ => id) (fun _ => .inl) (fun _ => .inl) id
  | client a =>
      have same := act_sameMain taken id
      cases a <;> simp only [Server.act, client, Option.map_eq_some_iff, require_eq_some] at taken <;>
        obtain ⟨k, ⟨-, rfl⟩, rfl⟩ := taken <;>
        exact desc.frame same rfl (fun _ => id) (fun _ => .inl) (fun _ => .inl) id

theorem Descriptors.run {ok : State → Action → Prop} (run : system.RunWhere ok actions s) :
    Descriptors s := by
  refine run.stateInvariant ?_ ?_
  · rintro _ ⟨config, rfl⟩
    exact .start config
  · intro _ s a s' before desc _ step
    exact desc.act (.run before) (.run before) (.run before) (stored_ready before)
      (system_step.mp step).2

theorem accept_write {ok : State → Action → Prop} (run : system.RunWhere ok actions s) :
    ∀ fd w, s.accept = .write fd w → w.fd = fd.number := by
  refine run.stateInvariant
    (I := fun s => ∀ fd w, s.accept = .write fd w → w.fd = fd.number) ?_ ?_
  · rintro _ ⟨config, rfl⟩
    simp [State.start]
  · rintro _ s a s' run before - step fd w here
    have taken := (system_step.mp step).2
    by_cases own : ∃ b, a = .accept b
    · obtain ⟨b, rfl⟩ := own
      cases b <;> simp only [act, threadRoutineAccept, require_eq_some,
        Option.ite_none_right_eq_some, Option.map_eq_some_iff] at taken
      case waitForChildReady v b =>
        obtain ⟨-, ⟨outcome, info⟩, -, rfl⟩ := taken
        cases outcome <;> simp [AcceptPc.afterWait] at here
      case wrote d v f k =>
        obtain ⟨guard, rfl⟩ := taken
        simp only [AcceptPc.afterWrite] at here
        split at here
        · next next =>
          obtain ⟨rfl, rfl⟩ := AcceptPc.write.inj here
          rw [WriteAll.accepted_fd next]
          exact before d v guard.1
        · cases here
      case callWriteAll d =>
        obtain ⟨guard, rfl⟩ := taken
        obtain ⟨rfl, rfl⟩ := AcceptPc.write.inj here
        rfl
      all_goals
        obtain ⟨guard, rfl⟩ := taken
        simp_all
    · rcases act_sameAccept taken fun b equal => own ⟨b, equal⟩ with same | same | ⟨-, same⟩
      · exact before fd w (same ▸ here)
      · refine before fd w ?_
        rw [same] at here
        unfold AcceptPc.signalled at here
        split at here <;> simp_all
      · simp [same] at here

end Usockit.Server
