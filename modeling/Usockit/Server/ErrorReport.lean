import Usockit.Foundation.Errno
import Usockit.Server.ExecReport
import Usockit.Server.HandedOver

namespace Usockit.Server
open Foundation Errno

variable {e seen : Nat}

/-! ## The calls of main -/

inductive SetupCall
  | socket | bind | listen
  | acquire (op : AcquireOp)
  | createChildWait | createClientConnection | createAccept
  | pipe | reportingPipe | fcntl | fork
  | readReport
  deriving DecidableEq

def SetupCall.failed : SetupCall → CallAction
  | .socket => .socketFailed
  | .bind => .bindFailed
  | .listen => .listenFailed
  | .acquire op => .acquireFailed op
  | .createChildWait => .threads (.setupThreads .createChildWaitFailed)
  | .createClientConnection => .threads (.setupThreads .createClientConnectionFailed)
  | .createAccept => .threads (.setupThreads .createAcceptFailed)
  | .pipe => .threads (.setupChild .pipeFailed)
  | .reportingPipe => .threads (.setupChild .reportingPipeFailed)
  | .fcntl => .threads (.setupChild .fcntlFailed)
  | .fork => .threads (.setupChild .forkFailed)
  | .readReport => .threads (.parent .readFailed)

/-- A pthread function returns its error, and the source assigns it to errno. -/
def SetupCall.returnsError : SetupCall → Bool
  | .acquire .initChildReadyMutex | .acquire .initChildReadyCond => true
  | .acquire .initClientReadyMutex | .acquire .initClientReadyCond => true
  | .createChildWait | .createClientConnection | .createAccept => true
  | _ => false

/-- There is an errno_push() and an errno_pop() on the way to perror(). -/
def SetupCall.saves : SetupCall → Bool
  | .socket | .acquire .callocChildReadyInfo | .pipe | .readReport => false
  | _ => true

inductive Cleanup
  | socket (op : SocketOp)
  | release (op : ReleaseOp)
  | cancel (t : Thread) | join (t : Thread)
  | close (p : Pipe) (e : PipeEnd)
  | waitpid
  deriving DecidableEq

def CallPc.cleanup : CallPc → List Cleanup
  | .exit ops _ => ops.map .socket
  | .unwind ops => ops.map .release
  | _ => []

/-- The calls of an exit of usockit_server_setup_threads. -/
def MainPc.endThreadsCleanup : MainPc → List Cleanup
  | .cancel t rest _ =>
      (t :: rest).flatMap (fun t => [.cancel t, .join t]) ++ releaseOps.map .release
  | .release ops _ => ops.map .release
  | _ => []

/-- The calls of an exit of usockit_server_setup_child. -/
def MainPc.closeCleanup : MainPc → List Cleanup
  | .close ends _ => ends.map fun (p, e) => .close p e
  | _ => []

/-- What is called between the failure, which leads to `c`, and perror(). -/
def SetupCall.cleanup (c : Call) : SetupCall → List Cleanup
  | .socket | .pipe | .readReport => []
  | .bind | .listen | .acquire _ => c.pc.cleanup
  | .createChildWait | .createClientConnection | .createAccept => c.threads.main.endThreadsCleanup
  | .reportingPipe | .fcntl | .fork => c.threads.main.closeCleanup

def SetupCall.statements (call : SetupCall) (error : Nat) (c : Call) : List (Statement Cleanup) :=
  (if call.returnsError then [.assign error] else []) ++
    if call.saves then saving (call.cleanup c) else (call.cleanup c).map .call

/-- The call fails with `e` in some run, and perror() may see `seen`. -/
def SetupCall.PerrorSees (call : SetupCall) (e seen : Nat) : Prop :=
  ∃ actions c errno, callSystem.Run (actions ++ [call.failed]) c ∧
    (call.returnsError = false → errno = e) ∧ Leaves (call.statements e c) errno seen

theorem SetupCall.cleanup_unsaved {call : SetupCall} {c c' : Call} (unsaved : call.saves = false)
    (taken : usockitServer c call.failed = some c') : call.cleanup c' = [] := by
  unfold saves at unsaved
  split at unsaved <;> try rfl
  · simp only [failed, usockitServer, require_eq_some] at taken
    obtain ⟨-, rfl⟩ := taken
    rfl
  · cases unsaved

theorem SetupCall.saves_of_returnsError {call : SetupCall} (returns : call.returnsError = true) :
    call.saves = true := by
  unfold returnsError at returns
  split at returns <;> first | rfl | cases returns

theorem SetupCall.leaves_statements {call : SetupCall} {c c' : Call} {errno : Nat}
    (taken : usockitServer c call.failed = some c') (kept : call.returnsError = false → errno = e) :
    Leaves (call.statements e c') errno seen ↔ seen = e := by
  unfold statements
  cases returns : call.returnsError with
  | true => simp [saves_of_returnsError returns]
  | false =>
      obtain rfl := kept returns
      cases saved : call.saves with
      | true => simp
      | false => simp [cleanup_unsaved saved taken]

theorem SetupCall.fails (call : SetupCall) :
    ∃ actions c, callSystem.Run (actions ++ [call.failed]) c := by
  obtain ⟨n, -, fails⟩ : ∃ n ∈ List.range 29,
      (callSystem.exec (.start .fallback)
        ((setUp ++ fallbackStart.map CallAction.threads).take n ++ [call.failed])).isSome = true := by
    rw [← List.any_eq_true]
    cases call
    case acquire op => cases op <;> decide +kernel
    all_goals decide +kernel
  obtain ⟨c, path⟩ := Option.isSome_iff_exists.mp fails
  exact ⟨_, c, System.run_of_exec ⟨_, rfl⟩ path⟩

theorem SetupCall.perrorSees_iff {call : SetupCall} : call.PerrorSees e seen ↔ seen = e := by
  constructor
  · rintro ⟨actions, c, errno, run, kept, leaves⟩
    obtain ⟨before, -, -, step⟩ := run.last
    exact (leaves_statements step kept).mp leaves
  · rintro rfl
    obtain ⟨actions, c, run⟩ := call.fails
    obtain ⟨before, -, -, step⟩ := run.last
    exact ⟨actions, c, seen, run, fun _ => rfl, (leaves_statements step fun _ => rfl).mpr rfl⟩

/-! ## The calls of the child -/

/-- What the child executes between the failure and the assignment to func_errno. -/
def ChildErrorFunc.statements : ChildErrorFunc → List (Statement Cleanup)
  | .dup2 => saving [.close .main .read]
  | .execve => []

/-- What main executes before it calls perror() for the error. -/
def ChildError.statements (error : ChildError) : List (Statement Cleanup) :=
  [.call .waitpid, .assign error.funcErrno.toNat]

/-- The call fails with `e` in the child of some run, main reports a failure of it, and perror()
may see `seen`. -/
def ChildErrorFunc.PerrorSees (func : ChildErrorFunc) (e seen : Nat) : Prop :=
  ∃ actions c stored error errno, callSystem.Run actions c ∧
    Leaves func.statements e (UInt32.toNat stored) ∧
    Failed (actions.flatMap CallAction.ofThreads) ⟨func, stored⟩ ∧
    c.pc = .threads ∧ c.threads.main = .waitpid (some error) ∧ error.func = func ∧
    Leaves error.statements errno seen

theorem ChildErrorFunc.seen_eq {func : ChildErrorFunc} (sees : func.PerrorSees e seen) :
    seen = e := by
  obtain ⟨actions, c, stored, error, errno, run, childLeaves, failed, pc, here, -, leaves⟩ := sees
  have threads : c.OfThreads (fun _ _ => True) actions := .ofRun (fun _ _ => id) run
  obtain ⟨s, runThreads, same⟩ := threads.run
  obtain rfl := same (by simp [pc, CallPc.socketOpen])
  obtain rfl : error = ⟨func, stored⟩ :=
    Option.some.inj ((HandedOver.run runThreads).received _ _ here failed)
  have stored_eq : stored.toNat = e := by
    cases func <;> simpa [statements] using childLeaves
  have leaves : Leaves ([.call Cleanup.waitpid] ++ [.assign stored.toNat]) errno seen := leaves
  rw [← stored_eq]
  exact eq_of_leaves_assign leaves

end Usockit.Server
