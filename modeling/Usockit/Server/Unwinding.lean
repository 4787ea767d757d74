import Usockit.Foundation.Balance
import Usockit.Server.Setup
import Usockit.Server.Closing

namespace Usockit.Server
open Foundation

variable {s s' : State} {c c' : Call} {actions : List CallAction}

/-! ## What the calls acquire and release -/

/-- A heap block, a mutex or a condition variable is named by what releases it. -/
inductive Resource
  | socketPathnameDup
  | socket
  | path
  | shared (op : ReleaseOp)
  | pipeEnd (p : Pipe) (e : PipeEnd)
  deriving DecidableEq

def AcquireOp.acquires : AcquireOp → ReleaseOp
  | .callocChildReadyInfo => .freeChildReadyInfo
  | .initChildReadyMutex => .destroyChildReadyMutex
  | .initChildReadyCond => .destroyChildReadyCond
  | .callocClientReadyInfo => .freeClientReadyInfo
  | .initClientReadyMutex => .destroyClientReadyMutex
  | .initClientReadyCond => .destroyClientReadyCond
  | .callocChildWaitThreadRoutineArg => .freeChildWaitThreadRoutineArg
  | .mallocChildPidPtr => .freeChildPidPtr
  | .callocClientConnectionThreadRoutineArg => .freeClientConnectionThreadRoutineArg
  | .mallocChildStdinFdPtr => .freeChildStdinFdPtr
  | .callocAcceptThreadRoutineArg => .freeAcceptThreadRoutineArg

def Action.acquires : Action → List Resource
  | .setupChild .pipe => [.pipeEnd .main .write, .pipeEnd .main .read]
  | .setupChild .reportingPipe => [.pipeEnd .reporting .write, .pipeEnd .reporting .read]
  | _ => []

def Action.releases : Action → List Resource
  | .setupThreads (.release op _ _) => [.shared op]
  | .setupChild .closeReportingWrite => [.pipeEnd .reporting .write]
  | .setupChild .closeMainRead => [.pipeEnd .main .read]
  | .setupChild (.close p e _ _) => [.pipeEnd p e]
  | _ => []

def CallAction.acquires : CallAction → List Resource
  | .strdup => [.socketPathnameDup]
  | .socket => [.socket]
  | .bind => [.path]
  | .acquire op => [.shared op.acquires]
  | .threads a => a.acquires
  | _ => []

def SocketOp.releases : SocketOp → Resource
  | .unlink => .path
  | .close => .socket

def CallAction.releases : CallAction → List Resource
  | .free => [.socketPathnameDup]
  | .unwind op _ => [.shared op]
  | .threads a => a.releases
  | .exit op _ _ => [op.releases]
  | _ => []

def MainPc.closing : MainPc → Option (Pipe × PipeEnd)
  | .closeReportingWrite => some (.reporting, .write)
  | .closeMainRead => some (.main, .read)
  | .close (pe :: _) _ => some pe
  | _ => none

def Call.Releasing (c : Call) : Prop :=
  c.pc = .free ∨ (∃ op rest, c.pc = .unwind (op :: rest)) ∨
    c.pc = .threads ∧ ∃ op rest ret, c.threads.main = .release (op :: rest) ret

structure UnwindingBalanced (actions : List CallAction) (c : Call) : Prop where
  acquiredOnce : (actions.flatMap CallAction.acquires).Nodup
  acquiredBefore :
    (actions.flatMap CallAction.releases).Subperm (actions.flatMap CallAction.acquires)
  balanced : ∀ ret, c.pc = .returned ret →
    (actions.flatMap CallAction.releases).Perm (actions.flatMap CallAction.acquires)
  unlinked : ∀ ret, c.pc = .returned ret →
    ((∃ rest ret, .exit .unlink rest ret ∈ actions) ↔ .bind ∈ actions)
  aimed : ∀ p e, c.pc = .threads → c.threads.main.closing = some (p, e) →
    c.threads.kernel.fds.fileAt (c.threads.pipeFds p e) = some (.pipe p e)
  aimedSocket : ∀ rest ret, c.pc = .exit (.close :: rest) ret →
    c.threads.kernel.fds.fileAt c.threads.socketFd = some .listening
  idle : c.Releasing → ∀ t ≠ .main, c.threads.Gone t

/-! ## What main still owes -/

def MainPc.ownedEnds : MainPc → List Resource
  | .reportingPipe => [.pipeEnd .main .write, .pipeEnd .main .read]
  | .setCloseOnExec | .fork | .closeReportingWrite =>
      [.pipeEnd .reporting .write, .pipeEnd .reporting .read,
       .pipeEnd .main .write, .pipeEnd .main .read]
  | .closeMainRead =>
      [.pipeEnd .main .read, .pipeEnd .reporting .read, .pipeEnd .main .write]
  | .close ends _ => ends.map fun pe => .pipeEnd pe.1 pe.2
  | .create _ | .pipe | .cancel _ _ _ | .join _ _ _ | .release _ _ | .returned _ => []
  | _ => [.pipeEnd .reporting .read, .pipeEnd .main .write]

def MainPc.ownedShared : MainPc → List Resource
  | .release ops _ => ops.map .shared
  | .returned _ => []
  | _ => releaseOps.map .shared

def MainPc.owed (pc : MainPc) : List Resource := pc.ownedEnds ++ pc.ownedShared

def CallPc.owed (threads : MainPc) : CallPc → List Resource
  | .strdup | .socket | .returned _ => []
  | .free => [.socketPathnameDup]
  | .bind => [.socket]
  | .listen => [.path, .socket]
  | .acquire op => op.unwinding.map .shared ++ [.path, .socket]
  | .unwind ops => ops.map .shared ++ [.path, .socket]
  | .threads => threads.owed ++ [.path, .socket]
  | .exit ops _ => ops.map SocketOp.releases

/-! ## What main may still acquire -/

def allEnds : List Resource :=
  [.pipeEnd .main .write, .pipeEnd .main .read,
   .pipeEnd .reporting .write, .pipeEnd .reporting .read]

def MainPc.toAcquire : MainPc → List Resource
  | .create _ | .pipe => allEnds
  | .reportingPipe => [.pipeEnd .reporting .write, .pipeEnd .reporting .read]
  | _ => []

/-- The resources from that of the call on. -/
def AcquireOp.toAcquire (op : AcquireOp) : List Resource :=
  (releaseOps.reverse.dropWhile (· ≠ op.acquires)).map .shared

def CallPc.toAcquire (threads : MainPc) : CallPc → List Resource
  | .strdup =>
      .socketPathnameDup :: .socket :: .path :: releaseOps.reverse.map .shared ++ allEnds
  | .free | .socket => .socket :: .path :: releaseOps.reverse.map .shared ++ allEnds
  | .bind => .path :: releaseOps.reverse.map .shared ++ allEnds
  | .listen => releaseOps.reverse.map .shared ++ allEnds
  | .acquire op => op.toAcquire ++ allEnds
  | .threads => threads.toAcquire
  | _ => []

structure Accounts (actions : List CallAction) (c : Call) : Prop where
  owed : Balance CallAction.acquires CallAction.releases actions (c.pc.owed c.threads.main)
  toAcquire : Once CallAction.acquires actions (c.pc.toAcquire c.threads.main)

/-! ## The steps of the threads -/

section
attribute [local simp] MainPc.owed MainPc.ownedEnds MainPc.ownedShared MainPc.toAcquire
  Action.acquires Action.releases MainPc.endThreads MainPc.closeEnds MainPc.setupChildReturned
  MainPc.parentReturned MainPc.afterChildError MainPc.reportingPipeCreated

theorem act_owed {a : Action} (taken : act s a = some s') :
    (a.acquires ++ s.main.owed).Perm (a.releases ++ s'.main.owed) := by
  cases a with
  | setupThreads a =>
      cases a <;> simp only [act, setupThreads, require_eq_some] at taken <;>
        obtain ⟨guard, rfl⟩ := taken
      case join t rest ret => cases rest <;> simp [guard]
      all_goals simp [guard]
  | setupChild a =>
      cases a <;> simp only [act, setupChild, require_eq_some] at taken <;>
        obtain ⟨guard, rfl⟩ := taken
      case close p e rest ret => cases rest <;> simp [guard]
      case reportingPipe => cases s.pipe2Support <;> simp [guard]
      case closeReportingWrite => simpa [guard] using @List.perm_middle _ _ [_, _] _
      all_goals simp [guard]
  | parent a =>
      cases a <;> simp only [act, parent, require_eq_some] at taken <;>
        obtain ⟨guard, rfl⟩ := taken
      case waitpid error | waitpidFailed error => cases error <;> simp [guard]
      case readEof | readError | readShort => simp [guard.1.1]
      all_goals simp [guard]
  | childWait | accept | clientConnection | child | client =>
      rw [(act_sameMain taken id).main]
      rfl

theorem act_toAcquire {a : Action} (taken : act s a = some s') :
    (a.acquires ++ s'.main.toAcquire).Sublist s.main.toAcquire := by
  cases a with
  | setupThreads a =>
      cases a <;> simp only [act, setupThreads, require_eq_some] at taken <;>
        obtain ⟨guard, rfl⟩ := taken
      case join t rest ret => cases rest <;> simp [guard]
      all_goals simp [guard]
  | setupChild a =>
      cases a <;> simp only [act, setupChild, require_eq_some] at taken <;>
        obtain ⟨guard, rfl⟩ := taken
      case close p e rest ret => cases rest <;> simp [guard]
      case reportingPipe => cases s.pipe2Support <;> simp [guard]
      all_goals simp [guard, allEnds]
  | parent a =>
      cases a <;> simp only [act, parent, require_eq_some] at taken <;>
        obtain ⟨guard, rfl⟩ := taken
      case waitpid error | waitpidFailed error => cases error <;> simp [guard]
      all_goals simp [guard]
  | childWait | accept | clientConnection | child | client =>
      rw [(act_sameMain taken id).main]
      exact List.Sublist.refl _
end

theorem AcquireOp.balanced (op : AcquireOp) (threads : MainPc)
    (fresh : threads = .create .childWait) :
    (.shared op.acquires :: (op.unwinding.map .shared ++ [.path, .socket])).Perm
        ((CallPc.afterAcquire op).owed threads) ∧
      (.shared op.acquires :: (CallPc.afterAcquire op).toAcquire threads).Sublist
        (op.toAcquire ++ allEnds) := by
  subst fresh
  cases op <;> decide

section
attribute [local simp] CallPc.owed CallPc.toAcquire CallAction.acquires CallAction.releases
  CallPc.setupThreadsReturned SocketOp.releases

theorem call_balanced {ok : State → Action → Prop} {a : CallAction} (of : c.OfThreads ok actions)
    (taken : usockitServer c a = some c') :
    (a.acquires ++ c.pc.owed c.threads.main).Perm (a.releases ++ c'.pc.owed c'.threads.main) ∧
      (a.acquires ++ c'.pc.toAcquire c'.threads.main).Sublist
        (c.pc.toAcquire c.threads.main) := by
  cases a <;> simp only [usockitServer, require_eq_some, Option.ite_none_right_eq_some,
    Option.map_eq_some_iff] at taken
  case threads a =>
    obtain ⟨here, s, step, rfl⟩ := taken
    have taken := (system_step.mp step).2
    simp only [here, CallPc.owed, CallPc.toAcquire, CallAction.acquires, CallAction.releases]
    exact ⟨by simpa using (act_owed taken).append_right [.path, .socket], act_toAcquire taken⟩
  case acquire op =>
    obtain ⟨here, rfl⟩ := taken
    obtain ⟨config, fresh⟩ := of.fresh (by simp [here, CallPc.beforeThreads])
    simpa [here] using op.balanced c.threads.main (by simp [fresh, State.start])
  case listen =>
    obtain ⟨here, rfl⟩ := taken
    have first : AcquireOp.callocChildReadyInfo.toAcquire = releaseOps.reverse.map .shared := rfl
    constructor <;> simp [here, AcquireOp.unwinding, first]
  case setupThreadsReturned ret =>
    obtain ⟨⟨here, returned, -⟩, rfl⟩ := taken
    constructor <;> simp [here, returned, MainPc.owed, MainPc.ownedEnds, MainPc.ownedShared]
  all_goals
    obtain ⟨guard, rfl⟩ := taken
    constructor <;> simp [guard]
end

theorem Accounts.run {ok : Call → CallAction → Prop} (run : callSystem.RunWhere ok actions c) :
    Accounts actions c := by
  refine run.invariant (I := Accounts) ?_ ?_
  · rintro c ⟨config, rfl⟩
    have distinct : (CallPc.toAcquire (.create .childWait) .strdup).Nodup := by decide
    exact ⟨.nil, .nil distinct⟩
  · intro actions c a c' run accounts _ step
    have of : c.OfThreads (fun _ _ => True) actions := .ofRun (fun _ _ _ => trivial) run
    obtain ⟨balanced, once⟩ := call_balanced of step
    exact ⟨accounts.owed.snoc balanced, accounts.toAcquire.snoc once⟩

/-! ## The numbers that main closes -/

theorem closes_refers {a : Action} {d : ClientFd} (desc : Descriptors s)
    (taken : act s a = some s') (closes : a.closes = some d) : s.Refers d ∨ s.Closed d := by
  cases a with
  | accept a =>
      cases a <;> simp only [Action.closes, Option.some.injEq, reduceCtorEq] at closes <;>
        subst closes <;> simp only [act, threadRoutineAccept, require_eq_some] at taken
      case popClose d => exact .inl (desc.unpublished d (by simp [taken.1]))
      case cleanupClose d => exact desc.revocable d (by simp [taken.1])
  | clientConnection a =>
      cases a <;> simp only [Action.closes, reduceCtorEq] at closes
      case cleanupClose fd flag =>
        subst closes
        simp only [act, threadRoutineClientConnection, require_eq_some] at taken
        exact (desc.held d (.inr (by simp [taken.1]))).imp_right And.left
  | setupThreads | setupChild | parent | childWait | child | client => cases closes

theorem socket_open {ok : State → Action → Prop} {actions : List Action}
    (run : system.RunWhere ok actions s) : s.kernel.fds.fileAt s.socketFd = some .listening := by
  refine run.stateInvariant (I := fun s => s.kernel.fds.fileAt s.socketFd = some .listening) ?_ ?_
  · rintro s ⟨config, rfl⟩
    simp [State.start]
  · intro _ s a s' run here _ step
    have taken := (system_step.mp step).2
    have desc := Descriptors.run run
    rw [(act_constants taken).2]
    refine act_fileAt desc taken (by simp) (fun d closes number => ?_) here
    rcases closes_refers desc taken closes with refers | closed
    · simp [State.Refers, number, here] at refers
    · simp [State.Closed, number, here] at closed

theorem MainPc.hasOpen_of_closing {pc : MainPc} {p : Pipe} {e : PipeEnd}
    (closing : pc.closing = some (p, e)) : pc.hasOpen p e = true := by
  cases pc with
  | close ends ret => cases ends <;> simp_all [MainPc.closing, hasOpen]
  | closeReportingWrite | closeMainRead =>
      obtain ⟨rfl, rfl⟩ : _ = p ∧ _ = e := by simpa [MainPc.closing] using closing
      rfl
  | _ => simp [MainPc.closing] at closing

/-! ## The path -/

theorem bind_mem : .path ∈ actions.flatMap CallAction.acquires ↔ .bind ∈ actions := by
  simp only [List.mem_flatMap]
  constructor
  · rintro ⟨a, member, acquires⟩
    cases a with
    | bind => exact member
    | threads a =>
        simp only [CallAction.acquires] at acquires
        unfold Action.acquires at acquires
        split at acquires <;> simp at acquires
    | _ => simp [CallAction.acquires] at acquires
  · exact fun member => ⟨.bind, member, List.mem_singleton_self _⟩

theorem unlink_mem : .path ∈ actions.flatMap CallAction.releases ↔
    ∃ rest ret, .exit .unlink rest ret ∈ actions := by
  simp only [List.mem_flatMap]
  constructor
  · rintro ⟨a, member, releases⟩
    cases a with
    | exit op rest ret =>
        cases op with
        | unlink => exact ⟨rest, ret, member⟩
        | close => simp [CallAction.releases, SocketOp.releases] at releases
    | threads a =>
        simp only [CallAction.releases] at releases
        unfold Action.releases at releases
        split at releases <;> simp at releases
    | _ => simp [CallAction.releases] at releases
  · exact fun ⟨rest, ret, member⟩ =>
      ⟨.exit .unlink rest ret, member, by simp [CallAction.releases, SocketOp.releases]⟩

theorem Call.Releasing.gone {ok : State → Action → Prop} {t : Thread} (releasing : c.Releasing)
    (of : c.OfThreads ok actions) (other : t ≠ .main) : c.threads.Gone t := by
  have fresh : c.pc.beforeThreads = true → c.threads.Gone t := by
    intro before
    obtain ⟨config, start⟩ := of.fresh before
    rw [start]
    exact .inl (by cases t <;> simp_all [State.NotCreated, State.start])
  rcases releasing with here | ⟨op, rest, here⟩ | ⟨here, op, rest, ret, main⟩
  · exact fresh (by simp [here, CallPc.beforeThreads])
  · exact fresh (by simp [here, CallPc.beforeThreads])
  · obtain ⟨s, run, same⟩ := of.run
    obtain rfl := same (by simp [here, CallPc.socketOpen])
    exact (Lifecycle.run run).gone t other (.inl (by simp [main, MainPc.created]))

theorem unwinding_balanced (run : callSystem.Run actions c) : UnwindingBalanced actions c := by
  have of : c.OfThreads (fun _ _ => True) actions := .ofRun (fun _ _ _ => trivial) run
  obtain ⟨owed, toAcquire⟩ := Accounts.run run
  have balanced : ∀ ret, c.pc = .returned ret →
      (actions.flatMap CallAction.releases).Perm (actions.flatMap CallAction.acquires) := by
    intro ret here
    rw [here] at owed
    exact owed.settled
  refine ⟨toAcquire.nodup, owed.subperm, balanced, ?_, ?_, ?_, fun releasing t other =>
    releasing.gone of other⟩
  · intro ret here
    rw [← bind_mem, ← unlink_mem]
    exact (balanced ret here).mem_iff
  · intro p e here closing
    obtain ⟨s, run, same⟩ := of.run
    obtain rfl := same (by simp [here, CallPc.socketOpen])
    exact ((Descriptors.run run).pipes _ p e).mpr ⟨MainPc.hasOpen_of_closing closing, rfl⟩
  · intro rest ret here
    obtain ⟨s, run, same⟩ := of.run
    obtain rfl := same (by simp [here, CallPc.socketOpen])
    exact socket_open run

theorem unwinding_balanced_servedNobody :
    ∃ c, callSystem.exec (.start .shell) servedNobody = some c ∧ c.pc = .returned .success ∧
      (servedNobody.flatMap CallAction.releases).length = 18 ∧
      UnwindingBalanced servedNobody c := by
  obtain ⟨c, path, returned⟩ :
      ∃ c, callSystem.exec (.start .shell) servedNobody = some c ∧ c.pc = .returned .success :=
    System.exists_exec (by decide +kernel)
  exact ⟨c, path, returned, by decide,
    unwinding_balanced (System.run_of_exec ⟨_, rfl⟩ path)⟩

end Usockit.Server
