import Usockit.Server.Kernel

namespace Usockit.Server
open Foundation

/-- The thread that runs usockit_server_setup_threads, and the three that it creates. -/
inductive Thread
  | main | childWait | clientConnection | accept
  deriving DecidableEq

/-! ## Shared memory -/

structure ChildReadyInfo where
  mutex : Option Thread
  condition : Bool
  deriving DecidableEq

/-- `clientFd` is `none` where the source has -1. -/
structure ClientReadyInfo where
  mutex : Option Thread
  clientFd : Option ClientFd
  deriving DecidableEq

/-- What setup_threads frees and destroys, by the name of the variable. -/
inductive ReleaseOp
  | freeAcceptThreadRoutineArg
  | freeChildStdinFdPtr
  | freeClientConnectionThreadRoutineArg
  | freeChildPidPtr
  | freeChildWaitThreadRoutineArg
  | destroyClientReadyCond
  | destroyClientReadyMutex
  | freeClientReadyInfo
  | destroyChildReadyCond
  | destroyChildReadyMutex
  | freeChildReadyInfo
  deriving DecidableEq

inductive RetStatus
  | success | outOfMemory | unknown
  deriving DecidableEq

/-! ## Program points

A thread at a point is about to execute the call or the access that the point is named after. -/

/-- usockit_server_wait_for_child_ready. A thread that is cancelled in pthread_cond_wait, asleep
or already woken, takes the mutex back before it ends. -/
inductive WaitPc
  | lock | test | wait | asleep | woken | unlock | cancelled
  deriving DecidableEq

/-- What a step inside the function leads to: it goes on, it returns, or its thread has ended. -/
inductive WaitOutcome
  | inside (w : WaitPc)
  | returned | ended
  deriving DecidableEq

inductive ChildWaitPc
  | notCreated
  | waitForChildReady (w : WaitPc)
  | waitpid
  | ended
  deriving DecidableEq

inductive AcceptPc
  | notCreated
  | waitForChildReady (w : WaitPc)
  | accept
  | perror
  | trylock (fd : ClientFd)
  | store (fd : ClientFd)
  | unlock (fd : ClientFd)
  | testcancelPublished (fd : ClientFd)
  | signal (fd : ClientFd)
  | readSlot (fd : ClientFd)
  | testcancelSpurious (fd : ClientFd)
  | callWriteAll (fd : ClientFd)
  | write (fd : ClientFd) (w : WriteAll)
  | cleanupPop (fd : ClientFd) (doCleanup : Bool)
  | cleanupRoutine (fd : ClientFd)
  | ended
  deriving DecidableEq

/-- `cancelled` tells the cleanup routine of a cancelled thread from the one that
pthread_cleanup_pop(1) runs. -/
inductive ClientConnectionPc
  | notCreated
  | lock | test | wait | asleep | woken
  | load
  | read (fd : Option ClientFd)
  | callWriteAll (buffer : List Byte)
  | write (w : WriteAll)
  | cleanupLoad (cancelled : Bool)
  | cleanupStore (fd : Option ClientFd) (cancelled : Bool)
  | cleanupUnlock (fd : Option ClientFd) (cancelled : Bool)
  | cleanupClose (fd : Option ClientFd) (cancelled : Bool)
  | cancelled
  | ended
  deriving DecidableEq

/-- usockit_server_setup_threads from the first pthread_create on, with usockit_server_setup_child
and usockit_server_parent inlined. -/
inductive MainPc
  | create (t : Thread)
  | pipe | reportingPipe | setCloseOnExec | fork
  | closeReportingWrite | closeMainRead | storeChildPid | storeChildStdinFd
  | readReport | waitpid (error : Option ChildError)
  | perror (call : List Byte)
  | lock | setCondition | unlock | broadcast
  | joinChildWait | cancelAccept | joinAccept
  | close (ends : List (Pipe × PipeEnd)) (ret : RetStatus)
  | cancel (t : Thread) (rest : List Thread) (ret : RetStatus)
  | join (t : Thread) (rest : List Thread) (ret : RetStatus)
  | release (ops : List ReleaseOp) (ret : RetStatus)
  | returned (ret : RetStatus)
  | unreachable
  deriving DecidableEq

/-! ## The system -/

/-- `childPidCell` and `childStdinFdCell` are the malloc'ed `*child_pid_ptr` and
`*child_stdin_fd_ptr`, `none` until something is stored there. -/
structure State where
  main : MainPc
  childWait : ChildWaitPc
  accept : AcceptPc
  clientConnection : ClientConnectionPc
  cancelRequested : Thread → Bool
  childReady : ChildReadyInfo
  clientReady : ClientReadyInfo
  childPidCell : Option Pid
  childStdinFdCell : Option Nat
  socketFd : Nat
  pipeFds : Pipe → PipeEnd → Nat
  childPid : Pid
  pipe2Support : Bool
  killed : Bool
  kernel : Kernel

structure Config where
  pipe2Support : Bool
  sigpipeIgnored : Bool
  inherited : DescriptorTable Nat

/-- The state at the first pthread_create, after usockit_server_setup_socket. -/
def State.start (config : Config) : State :=
  let inherited := config.inherited.map File.inherited
  { main := .create .childWait
    childWait := .notCreated
    accept := .notCreated
    clientConnection := .notCreated
    cancelRequested := fun _ => false
    childReady := ⟨none, false⟩
    clientReady := ⟨none, none⟩
    childPidCell := none
    childStdinFdCell := none
    socketFd := inherited.lowestFree
    pipeFds := fun _ _ => 0
    childPid := 0
    pipe2Support := config.pipe2Support
    killed := false
    kernel :=
      { fds := inherited.install inherited.lowestFree ⟨.listening, false⟩
        connections := fun _ => ⟨.unused, [], 0, false, false, []⟩
        child := ⟨.unborn, 0, .empty⟩
        reportingPipe := []
        mainPipe := []
        mainReadc := 0
        sigpipeIgnored := config.sigpipeIgnored } }

/-- The thread has ended; a join on it returns. -/
def State.Terminated (s : State) : Thread → Prop
  | .main => False
  | .childWait => s.childWait = .ended
  | .clientConnection => s.clientConnection = .ended
  | .accept => s.accept = .ended

instance (s : State) : ∀ t, Decidable (s.Terminated t)
  | .main => inferInstanceAs (Decidable False)
  | .childWait => inferInstanceAs (Decidable (_ = _))
  | .clientConnection => inferInstanceAs (Decidable (_ = _))
  | .accept => inferInstanceAs (Decidable (_ = _))

def State.requestCancel (s : State) (t : Thread) : Thread → Bool :=
  Function.update s.cancelRequested t true

end Usockit.Server
