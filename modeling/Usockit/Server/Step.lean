import Usockit.Server.State

namespace Usockit.Server
open Foundation

/-! ## usockit_server_wait_for_child_ready -/

inductive WaitAction
  | lock | testReady | testNotReady | wait | wake | relock | unlock
  | cancel | cancelWoken | relockCancelled
  deriving DecidableEq

def waitForChildReady (t : Thread) (cancelRequested : Bool) (info : ChildReadyInfo) (w : WaitPc) :
    WaitAction → Option (WaitOutcome × ChildReadyInfo)
  | .lock => require (w = .lock ∧ info.mutex = none) (.inside .test, { info with mutex := some t })
  | .testReady => require (w = .test ∧ info.condition = true) (.inside .unlock, info)
  | .testNotReady => require (w = .test ∧ info.condition = false) (.inside .wait, info)
  | .wait => require (w = .wait) (.inside .asleep, { info with mutex := none })
  | .wake => require (w = .asleep) (.inside .woken, info)
  | .relock => require (w = .woken ∧ info.mutex = none) (.inside .test, { info with mutex := some t })
  | .unlock => require (w = .unlock) (.returned, { info with mutex := none })
  | .cancel => require (w = .asleep ∧ cancelRequested = true) (.inside .cancelled, info)
  -- woken, but still inside of pthread_cond_wait
  | .cancelWoken => require (w = .woken ∧ cancelRequested = true) (.inside .cancelled, info)
  | .relockCancelled =>
      require (w = .cancelled ∧ info.mutex = none) (.ended, { info with mutex := some t })

/-! ## usockit_server_thread_routine_child_wait -/

inductive ChildWaitAction
  | waitForChildReady (w : WaitPc) (a : WaitAction)
  | waitpid | waitpidFailed | cancel
  deriving DecidableEq

def ChildWaitPc.afterWait : WaitOutcome → ChildWaitPc
  | .inside w => .waitForChildReady w
  | .returned => .waitpid
  | .ended => .ended

/-- pthread_cond_broadcast, for this thread. -/
def ChildWaitPc.signalled : ChildWaitPc → ChildWaitPc
  | .waitForChildReady .asleep => .waitForChildReady .woken
  | pc => pc

def threadRoutineChildWait (s : State) : ChildWaitAction → Option State
  | .waitForChildReady w a =>
      if s.childWait = .waitForChildReady w then
        (waitForChildReady .childWait (s.cancelRequested .childWait) s.childReady w a).map fun r =>
          { s with childWait := .afterWait r.1, childReady := r.2 }
      else none
  | .waitpid =>
      require (s.childWait = .waitpid ∧ s.childPidCell = some s.kernel.child.pid ∧
          s.kernel.child.pc = .zombie)
        { s with childWait := .ended, kernel := s.kernel.reap }
  -- ECHILD
  | .waitpidFailed =>
      require (s.childWait = .waitpid ∧ s.childPidCell = some s.kernel.child.pid ∧
          s.kernel.child.pc = .reaped)
        { s with childWait := .ended }
  | .cancel =>
      require (s.childWait = .waitpid ∧ s.cancelRequested .childWait = true)
        { s with childWait := .ended }

/-! ## usockit_server_thread_routine_accept -/

/-- pthread_cond_signal -/
def ClientConnectionPc.signalled : ClientConnectionPc → ClientConnectionPc
  | .asleep => .woken
  | pc => pc

inductive AcceptAction
  | waitForChildReady (w : WaitPc) (a : WaitAction)
  | accepted (c : ConnId) | acceptFailed | cancelAccept
  | perror (readerGone : Bool) (message : List Byte) (k : Nat)
  | perrorSigpipe (readerGone : Bool) | cancelPerror
  | trylockAcquired (fd : ClientFd) | trylockBusy (fd : ClientFd)
  | store (fd : ClientFd) | unlock (fd : ClientFd)
  | testcancelPublished (fd : ClientFd) | signal (fd : ClientFd)
  | slotEmpty (fd : ClientFd) | slotTaken (fd : ClientFd)
  | testcancelSpurious (fd : ClientFd)
  | callWriteAll (fd : ClientFd)
  | wrote (fd : ClientFd) (w : WriteAll) (f : File) (k : Nat)
  | writeFailed (fd : ClientFd) (w : WriteAll)
  | writeSigpipe (fd : ClientFd) (w : WriteAll)
  | popNoClose (fd : ClientFd) | popClose (fd : ClientFd) | cancelPopClose (fd : ClientFd)
  | cancelPushed (fd : ClientFd) | cleanupClose (fd : ClientFd)
  deriving DecidableEq

def AcceptPc.afterWait : WaitOutcome → AcceptPc
  | .inside w => .waitForChildReady w
  | .returned => .accept
  | .ended => .ended

def AcceptPc.signalled : AcceptPc → AcceptPc
  | .waitForChildReady .asleep => .waitForChildReady .woken
  | pc => pc

def rejection : List Byte := bytesOf "fuck off"

/-- The cancellation points between pthread_cleanup_push and pthread_cleanup_pop. -/
def AcceptPc.cancellationPoint : AcceptPc → Option ClientFd
  | .testcancelPublished fd | .testcancelSpurious fd | .write fd _ => some fd
  | _ => none

@[simp] theorem AcceptPc.cancellationPoint_eq_some {pc : AcceptPc} {fd : ClientFd} :
    pc.cancellationPoint = some fd ↔
      pc = .testcancelPublished fd ∨ pc = .testcancelSpurious fd ∨ ∃ w, pc = .write fd w := by
  cases pc <;> simp [cancellationPoint]

/-- After write() accepted `k` bytes, or when write_all has returned. -/
def AcceptPc.afterWrite (fd : ClientFd) (w : WriteAll) (k : Nat) : AcceptPc :=
  match w.accepted k with
  | some w => .write fd w
  | none => .cleanupPop fd true

def threadRoutineAccept (s : State) : AcceptAction → Option State
  | .waitForChildReady w a =>
      if s.accept = .waitForChildReady w then
        (waitForChildReady .accept (s.cancelRequested .accept) s.childReady w a).map fun r =>
          { s with accept := .afterWait r.1, childReady := r.2 }
      else none
  | .accepted c =>
      require (s.accept = .accept ∧ (s.kernel.connections c).phase = .pending)
        { s with accept := .trylock ⟨s.kernel.fds.lowestFree, c⟩, kernel := s.kernel.accept c }
  | .acceptFailed => require (s.accept = .accept) { s with accept := .perror }
  | .perror readerGone message k =>
      require (s.accept = .perror ∧ ¬ s.kernel.PerrorRaisesSigpipe readerGone)
        { s with
          accept := .accept
          kernel := s.kernel.writeStderr ((perrorText (bytesOf "accept(2)") message).take k) }
  | .perrorSigpipe readerGone =>
      require (s.accept = .perror ∧ s.kernel.PerrorRaisesSigpipe readerGone)
        { s with killed := true }
  | .cancelPerror =>
      require (s.accept = .perror ∧ s.cancelRequested .accept = true) { s with accept := .ended }
  | .cancelAccept =>
      require (s.accept = .accept ∧ s.cancelRequested .accept = true) { s with accept := .ended }
  | .trylockAcquired fd =>
      require (s.accept = .trylock fd ∧ s.clientReady.mutex = none)
        { s with accept := .store fd, clientReady := { s.clientReady with mutex := some .accept } }
  | .trylockBusy fd =>
      require (s.accept = .trylock fd ∧ s.clientReady.mutex ≠ none)
        { s with accept := .readSlot fd }
  | .store fd =>
      require (s.accept = .store fd)
        { s with accept := .unlock fd, clientReady := { s.clientReady with clientFd := some fd } }
  | .unlock fd =>
      require (s.accept = .unlock fd)
        { s with
          accept := .testcancelPublished fd
          clientReady := { s.clientReady with mutex := none } }
  | .testcancelPublished fd =>
      require (s.accept = .testcancelPublished fd ∧ s.cancelRequested .accept = false)
        { s with accept := .signal fd }
  | .signal fd =>
      require (s.accept = .signal fd)
        { s with
          accept := .cleanupPop fd false
          clientConnection := s.clientConnection.signalled }
  | .slotEmpty fd =>
      require (s.accept = .readSlot fd ∧ s.clientReady.clientFd = none)
        { s with accept := .testcancelSpurious fd }
  | .slotTaken fd =>
      require (s.accept = .readSlot fd ∧ s.clientReady.clientFd ≠ none)
        { s with accept := .callWriteAll fd }
  -- the continue statement leaves the inner loop, whose condition is false
  | .testcancelSpurious fd =>
      require (s.accept = .testcancelSpurious fd ∧ s.cancelRequested .accept = false)
        { s with accept := .cleanupPop fd true }
  | .callWriteAll fd =>
      require (s.accept = .callWriteAll fd)
        { s with accept := .write fd (.call fd.number rejection) }
  | .wrote fd w f k =>
      require (s.accept = .write fd w ∧ s.kernel.fds.fileAt w.fd = some f ∧
          s.kernel.Writable f ∧ k ≤ w.offered.length)
        { s with
          accept := .afterWrite fd w k
          kernel := s.kernel.deliver f (w.offered.take k) }
  | .writeFailed fd w =>
      require (s.accept = .write fd w ∧ ¬ s.kernel.RaisesSigpipe w.fd)
        { s with accept := .cleanupPop fd true }
  | .writeSigpipe fd w =>
      require (s.accept = .write fd w ∧ s.kernel.RaisesSigpipe w.fd) { s with killed := true }
  | .popNoClose fd =>
      require (s.accept = .cleanupPop fd false) { s with accept := .accept }
  | .popClose fd =>
      require (s.accept = .cleanupPop fd true)
        { s with accept := .accept, kernel := s.kernel.close fd.number }
  | .cancelPopClose fd =>
      require (s.accept = .cleanupPop fd true ∧ s.cancelRequested .accept = true)
        { s with accept := .ended }
  | .cancelPushed fd =>
      require (s.accept.cancellationPoint = some fd ∧ s.cancelRequested .accept = true)
        { s with accept := .cleanupRoutine fd }
  | .cleanupClose fd =>
      require (s.accept = .cleanupRoutine fd)
        { s with accept := .ended, kernel := s.kernel.close fd.number }

/-! ## usockit_server_thread_routine_client_connection -/

inductive ClientConnectionAction
  | lock | slotEmpty | take (fd : ClientFd)
  | wait | wake | relock | cancelWait | cancelWoken | relockCancelled
  | load
  | received (fd : ClientFd) (c : ConnId) (k : Nat)
  | readEof (fd : ClientFd) (c : ConnId)
  | readFailed (fd : Option ClientFd) | cancelRead (fd : Option ClientFd)
  | callWriteAll (buffer : List Byte) (fd : Nat)
  | wrote (w : WriteAll) (f : File) (k : Nat)
  | writeFailed (w : WriteAll) | cancelWrite (w : WriteAll)
  | writeSigpipe (w : WriteAll)
  | cleanupLoad (cancelled : Bool)
  | cleanupStore (fd : Option ClientFd) (cancelled : Bool)
  | cleanupUnlock (fd : Option ClientFd) (cancelled : Bool)
  | cleanupClose (fd : Option ClientFd) (cancelled : Bool)
  | cancelClose (fd : Option ClientFd)
  deriving DecidableEq

/-- `array_size(buffer)` -/
def bufferSize : Nat := 1024

def ClientConnectionPc.afterWrite (w : WriteAll) (k : Nat) : ClientConnectionPc :=
  match w.accepted k with
  | some w => .write w
  | none => .load

/-- The cleanup routine has run: in a cancelled thread, or at the end of a session. -/
def ClientConnectionPc.afterCleanup (cancelled : Bool) : ClientConnectionPc :=
  if cancelled then .ended else .lock

def threadRoutineClientConnection (s : State) : ClientConnectionAction → Option State
  | .lock =>
      require (s.clientConnection = .lock ∧ s.clientReady.mutex = none)
        { s with
          clientConnection := .test
          clientReady := { s.clientReady with mutex := some .clientConnection } }
  | .slotEmpty =>
      require (s.clientConnection = .test ∧ s.clientReady.clientFd = none)
        { s with clientConnection := .wait }
  | .take fd =>
      require (s.clientConnection = .test ∧ s.clientReady.clientFd = some fd)
        { s with clientConnection := .load }
  | .wait =>
      require (s.clientConnection = .wait)
        { s with
          clientConnection := .asleep
          clientReady := { s.clientReady with mutex := none } }
  | .wake => require (s.clientConnection = .asleep) { s with clientConnection := .woken }
  | .relock =>
      require (s.clientConnection = .woken ∧ s.clientReady.mutex = none)
        { s with
          clientConnection := .test
          clientReady := { s.clientReady with mutex := some .clientConnection } }
  | .cancelWait =>
      require (s.clientConnection = .asleep ∧ s.cancelRequested .clientConnection = true)
        { s with clientConnection := .cancelled }
  | .cancelWoken =>
      require (s.clientConnection = .woken ∧ s.cancelRequested .clientConnection = true)
        { s with clientConnection := .cancelled }
  | .relockCancelled =>
      require (s.clientConnection = .cancelled ∧ s.clientReady.mutex = none)
        { s with
          clientConnection := .ended
          clientReady := { s.clientReady with mutex := some .clientConnection } }
  | .load =>
      require (s.clientConnection = .load)
        { s with clientConnection := .read s.clientReady.clientFd }
  | .received fd c k =>
      require (s.clientConnection = .read (some fd) ∧
          s.kernel.fds.fileAt fd.number = some (.connection c) ∧
          0 < k ∧ k ≤ bufferSize ∧ k ≤ (s.kernel.connections c).unread.length)
        { s with
          clientConnection := .callWriteAll ((s.kernel.connections c).unread.take k)
          kernel := s.kernel.setConnection c
            { s.kernel.connections c with readc := (s.kernel.connections c).readc + k } }
  | .readEof fd c =>
      require (s.clientConnection = .read (some fd) ∧
          s.kernel.fds.fileAt fd.number = some (.connection c) ∧
          (s.kernel.connections c).unread = [] ∧ (s.kernel.connections c).shutdown = true)
        { s with clientConnection := .cleanupLoad false }
  | .readFailed fd =>
      require (s.clientConnection = .read fd) { s with clientConnection := .cleanupLoad false }
  | .cancelRead fd =>
      require (s.clientConnection = .read fd ∧ s.cancelRequested .clientConnection = true)
        { s with clientConnection := .cleanupLoad true }
  | .callWriteAll buffer fd =>
      require (s.clientConnection = .callWriteAll buffer ∧ s.childStdinFdCell = some fd)
        { s with clientConnection := .write (.call fd buffer) }
  | .wrote w f k =>
      require (s.clientConnection = .write w ∧ s.kernel.fds.fileAt w.fd = some f ∧
          s.kernel.Writable f ∧ k ≤ w.offered.length)
        { s with
          clientConnection := .afterWrite w k
          kernel := s.kernel.deliver f (w.offered.take k) }
  | .writeFailed w =>
      require (s.clientConnection = .write w ∧ ¬ s.kernel.RaisesSigpipe w.fd)
        { s with clientConnection := .cleanupLoad false }
  | .cancelWrite w =>
      require (s.clientConnection = .write w ∧ s.cancelRequested .clientConnection = true)
        { s with clientConnection := .cleanupLoad true }
  | .writeSigpipe w =>
      require (s.clientConnection = .write w ∧ s.kernel.RaisesSigpipe w.fd)
        { s with killed := true }
  | .cleanupLoad cancelled =>
      require (s.clientConnection = .cleanupLoad cancelled)
        { s with clientConnection := .cleanupStore s.clientReady.clientFd cancelled }
  | .cleanupStore fd cancelled =>
      require (s.clientConnection = .cleanupStore fd cancelled)
        { s with
          clientConnection := .cleanupUnlock fd cancelled
          clientReady := { s.clientReady with clientFd := none } }
  | .cleanupUnlock fd cancelled =>
      require (s.clientConnection = .cleanupUnlock fd cancelled)
        { s with
          clientConnection := .cleanupClose fd cancelled
          clientReady := { s.clientReady with mutex := none } }
  | .cleanupClose fd cancelled =>
      require (s.clientConnection = .cleanupClose fd cancelled)
        { s with
          clientConnection := .afterCleanup cancelled
          kernel := s.kernel.closeClient fd }
  | .cancelClose fd =>
      require (s.clientConnection = .cleanupClose fd false ∧
          s.cancelRequested .clientConnection = true)
        { s with clientConnection := .ended }

/-! ## usockit_server_setup_threads -/

inductive SetupThreadsAction
  | createChildWait | createChildWaitFailed
  | createClientConnection | createClientConnectionFailed
  | createAccept | createAcceptFailed
  | cancel (t : Thread) (rest : List Thread) (ret : RetStatus)
  | join (t : Thread) (rest : List Thread) (ret : RetStatus)
  | release (op : ReleaseOp) (rest : List ReleaseOp) (ret : RetStatus)
  | ret (ret : RetStatus)
  deriving DecidableEq

/-- The calls that each of its exits ends with, from the first pthread_create on. -/
def releaseOps : List ReleaseOp :=
  [.freeAcceptThreadRoutineArg,
   .freeChildStdinFdPtr, .freeClientConnectionThreadRoutineArg,
   .freeChildPidPtr, .freeChildWaitThreadRoutineArg,
   .destroyClientReadyCond, .destroyClientReadyMutex, .freeClientReadyInfo,
   .destroyChildReadyCond, .destroyChildReadyMutex, .freeChildReadyInfo]

/-- Cancel and join `threads` one after the other, then release everything. -/
def MainPc.endThreads (threads : List Thread) (ret : RetStatus) : MainPc :=
  match threads with
  | t :: rest => .cancel t rest ret
  | [] => .release releaseOps ret

def MainPc.setupChildReturned (ret : RetStatus) : MainPc :=
  .endThreads [.accept, .clientConnection, .childWait] ret

def setupThreads (s : State) : SetupThreadsAction → Option State
  | .createChildWait =>
      require (s.main = .create .childWait)
        { s with main := .create .clientConnection, childWait := .waitForChildReady .lock }
  | .createChildWaitFailed =>
      require (s.main = .create .childWait) { s with main := .endThreads [] .unknown }
  | .createClientConnection =>
      require (s.main = .create .clientConnection)
        { s with main := .create .accept, clientConnection := .lock }
  | .createClientConnectionFailed =>
      require (s.main = .create .clientConnection)
        { s with main := .endThreads [.childWait] .unknown }
  | .createAccept =>
      require (s.main = .create .accept)
        { s with main := .pipe, accept := .waitForChildReady .lock }
  | .createAcceptFailed =>
      require (s.main = .create .accept)
        { s with main := .endThreads [.clientConnection, .childWait] .unknown }
  | .cancel t rest ret =>
      require (s.main = .cancel t rest ret)
        { s with main := .join t rest ret, cancelRequested := s.requestCancel t }
  | .join t rest ret =>
      require (s.main = .join t rest ret ∧ s.Terminated t) { s with main := .endThreads rest ret }
  | .release op rest ret =>
      require (s.main = .release (op :: rest) ret) { s with main := .release rest ret }
  | .ret ret => require (s.main = .release [] ret) { s with main := .returned ret }

/-! ## usockit_server_setup_child -/

inductive SetupChildAction
  | pipe | pipeFailed
  | reportingPipe | reportingPipeFailed
  | fcntl | fcntlFailed
  | fork (pid : Pid) | forkFailed
  | closeReportingWrite | closeMainRead | storeChildPid | storeChildStdinFd
  | close (p : Pipe) (e : PipeEnd) (rest : List (Pipe × PipeEnd)) (ret : RetStatus)
  deriving DecidableEq

/-- `O_CLOEXEC` as on Linux. -/
def oCloexec : Nat := 0o2000000

/-- What fcntl(F_SETFD) makes of its argument: `FD_CLOEXEC` is bit 0. -/
def closeOnExecFlag (arg : Nat) : Bool := arg.testBit 0

/-- Close `ends` one after the other, then return to setup_threads. -/
def MainPc.closeEnds (ends : List (Pipe × PipeEnd)) (ret : RetStatus) : MainPc :=
  match ends with
  | [] => .setupChildReturned ret
  | ends => .close ends ret

def MainPc.parentReturned (ret : RetStatus) : MainPc :=
  .closeEnds [(.reporting, .read), (.main, .write)] ret

/-- `USOCKIT_SERVER_PIPE2_SUPPORT`: the fallback has the flag still to set. -/
def MainPc.reportingPipeCreated (pipe2Support : Bool) : MainPc :=
  if pipe2Support then .fork else .setCloseOnExec

/-- `main_pipe` and `reporting_pipe` after pipe() or pipe2() stored the two numbers. -/
def State.storePipe (s : State) (p : Pipe) (closeOnExec : Bool) : Pipe → PipeEnd → Nat :=
  Function.update s.pipeFds p fun
    | .read => s.kernel.fds.lowestFree
    | .write => s.kernel.nextWriteFd p closeOnExec

def setupChild (s : State) : SetupChildAction → Option State
  | .pipe =>
      require (s.main = .pipe)
        { s with
          main := .reportingPipe
          pipeFds := s.storePipe .main false
          kernel := s.kernel.openPipe .main false }
  | .pipeFailed => require (s.main = .pipe) { s with main := .closeEnds [] .unknown }
  | .reportingPipe =>
      require (s.main = .reportingPipe)
        { s with
          main := .reportingPipeCreated s.pipe2Support
          pipeFds := s.storePipe .reporting s.pipe2Support
          kernel := s.kernel.openPipe .reporting s.pipe2Support }
  | .reportingPipeFailed =>
      require (s.main = .reportingPipe)
        { s with main := .closeEnds [(.main, .write), (.main, .read)] .unknown }
  | .fcntl =>
      require (s.main = .setCloseOnExec)
        { s with
          main := .fork
          kernel := { s.kernel with
            fds := s.kernel.fds.setCloseOnExec
              (s.pipeFds .reporting .write) (closeOnExecFlag oCloexec) } }
  | .fcntlFailed =>
      require (s.main = .setCloseOnExec)
        { s with
          main := .closeEnds
            [(.reporting, .write), (.reporting, .read), (.main, .write), (.main, .read)] .unknown }
  | .fork pid =>
      require (s.main = .fork ∧ 0 < pid)
        { s with
          main := .closeReportingWrite
          childPid := pid
          kernel := s.kernel.fork pid }
  | .forkFailed =>
      require (s.main = .fork)
        { s with
          main := .closeEnds
            [(.reporting, .write), (.reporting, .read), (.main, .write), (.main, .read)] .unknown }
  | .closeReportingWrite =>
      require (s.main = .closeReportingWrite)
        { s with
          main := .closeMainRead
          kernel := s.kernel.close (s.pipeFds .reporting .write) }
  | .closeMainRead =>
      require (s.main = .closeMainRead)
        { s with main := .storeChildPid, kernel := s.kernel.close (s.pipeFds .main .read) }
  | .storeChildPid =>
      require (s.main = .storeChildPid)
        { s with main := .storeChildStdinFd, childPidCell := some s.childPid }
  | .storeChildStdinFd =>
      require (s.main = .storeChildStdinFd)
        { s with main := .readReport, childStdinFdCell := some (s.pipeFds .main .write) }
  | .close p e rest ret =>
      require (s.main = .close ((p, e) :: rest) ret)
        { s with main := .closeEnds rest ret, kernel := s.kernel.close (s.pipeFds p e) }

/-! ## usockit_server_parent -/

inductive ParentAction
  | readEof | readError | readShort | readFailed
  | waitpid (error : Option ChildError) | waitpidFailed (error : Option ChildError)
  | perror (call : List Byte) (readerGone : Bool) (message : List Byte) (k : Nat)
  | perrorSigpipe (call : List Byte) (readerGone : Bool)
  | lock | setCondition | unlock | broadcast
  | joinChildWait | cancelAccept | joinAccept
  deriving DecidableEq

/-- What perror() is given for an error of the child. -/
def ChildErrorFunc.call : ChildErrorFunc → List Byte
  | .dup2 => bytesOf "dup2(2)"
  | .execve => bytesOf "execve(2)"

/-- `switch(child_error.func)` -/
def MainPc.afterChildError : Option ChildError → MainPc
  | some error => .perror error.func.call
  | none => .unreachable

def State.CanReadReport (s : State) : Prop :=
  s.main = .readReport ∧
    s.kernel.fds.fileAt (s.pipeFds .reporting .read) = some (.pipe .reporting .read)

instance (s : State) : Decidable s.CanReadReport := inferInstanceAs (Decidable (_ ∧ _))

def parent (s : State) : ParentAction → Option State
  | .readEof =>
      require (s.CanReadReport ∧ s.kernel.reportingPipe = [] ∧
          ¬ s.kernel.Open (.pipe .reporting .write))
        { s with main := .lock }
  | .readError =>
      require (s.CanReadReport ∧ childErrorSize ≤ s.kernel.reportingPipe.length)
        { s with
          main := .waitpid (ChildError.ofBytes (s.kernel.reportingPipe.take childErrorSize))
          kernel := { s.kernel with
            reportingPipe := s.kernel.reportingPipe.drop childErrorSize } }
  | .readShort =>
      require (s.CanReadReport ∧ s.kernel.reportingPipe ≠ [] ∧
          s.kernel.reportingPipe.length < childErrorSize)
        { s with
          main := .perror (bytesOf "read(2)")
          kernel := { s.kernel with reportingPipe := [] } }
  | .readFailed =>
      require (s.main = .readReport) { s with main := .perror (bytesOf "read(2)") }
  | .waitpid error =>
      require (s.main = .waitpid error ∧ s.childPid = s.kernel.child.pid ∧
          s.kernel.child.pc = .zombie)
        { s with main := .afterChildError error, kernel := s.kernel.reap }
  | .waitpidFailed error =>
      require (s.main = .waitpid error ∧ s.childPid = s.kernel.child.pid ∧
          s.kernel.child.pc = .reaped)
        { s with main := .afterChildError error }
  | .perror call readerGone message k =>
      require (s.main = .perror call ∧ ¬ s.kernel.PerrorRaisesSigpipe readerGone)
        { s with
          main := .parentReturned .unknown
          kernel := s.kernel.writeStderr ((perrorText call message).take k) }
  | .perrorSigpipe call readerGone =>
      require (s.main = .perror call ∧ s.kernel.PerrorRaisesSigpipe readerGone)
        { s with killed := true }
  | .lock =>
      require (s.main = .lock ∧ s.childReady.mutex = none)
        { s with main := .setCondition, childReady := { s.childReady with mutex := some .main } }
  | .setCondition =>
      require (s.main = .setCondition)
        { s with main := .unlock, childReady := { s.childReady with condition := true } }
  | .unlock =>
      require (s.main = .unlock)
        { s with main := .broadcast, childReady := { s.childReady with mutex := none } }
  | .broadcast =>
      require (s.main = .broadcast)
        { s with
          main := .joinChildWait
          childWait := s.childWait.signalled
          accept := s.accept.signalled }
  | .joinChildWait =>
      require (s.main = .joinChildWait ∧ s.Terminated .childWait) { s with main := .cancelAccept }
  | .cancelAccept =>
      require (s.main = .cancelAccept)
        { s with main := .joinAccept, cancelRequested := s.requestCancel .accept }
  | .joinAccept =>
      require (s.main = .joinAccept ∧ s.Terminated .accept)
        { s with main := .parentReturned .success }

/-! ## usockit_server_child -/

inductive ChildAction
  | closeReportingRead | closeMainWrite | closeSocket
  | dup2 | dup2Failed (errno : UInt32) | closeMainReadFailed (error : ChildError)
  | closeMainRead | execvp | execvpFailed (errno : UInt32)
  | wrote (error : ChildError) (k : Nat) | writeFailed (error : ChildError)
  | closeReportingWrite | exit
  | programReads (n : Nat) (k : Nat)
  | programCloses (n : Nat) | programWrites (n : Nat) (f : File) (bytes : List Byte)
  | programExits | killedBySignal
  deriving DecidableEq

def stdinFileno : Nat := 0

/-- dup2(oldfd, STDIN_FILENO) on an open `oldfd`. -/
def dup2Stdin (fds : DescriptorTable File) (oldfd : Nat) (f : File) : DescriptorTable File :=
  if oldfd = stdinFileno then fds else fds.install stdinFileno ⟨f, false⟩

/-- `s` has the numbers that main had in its variables at the fork. -/
def child (s : State) : ChildAction → Option Kernel
  | .closeReportingRead =>
      require (s.kernel.child.pc = .closeReportingRead)
        (s.kernel.setChild .closeMainWrite
          (s.kernel.child.fds.close (s.pipeFds .reporting .read)))
  | .closeMainWrite =>
      require (s.kernel.child.pc = .closeMainWrite)
        (s.kernel.setChild .closeSocket (s.kernel.child.fds.close (s.pipeFds .main .write)))
  | .closeSocket =>
      require (s.kernel.child.pc = .closeSocket)
        (s.kernel.setChild .dup2 (s.kernel.child.fds.close s.socketFd))
  | .dup2 =>
      require (s.kernel.child.pc = .dup2 ∧
          s.kernel.child.fds.fileAt (s.pipeFds .main .read) = some (.pipe .main .read))
        (s.kernel.setChild .closeMainRead
          (dup2Stdin s.kernel.child.fds (s.pipeFds .main .read) (.pipe .main .read)))
  | .dup2Failed errno =>
      require (s.kernel.child.pc = .dup2)
        (s.kernel.setChild (.closeMainReadFailed ⟨.dup2, errno⟩) s.kernel.child.fds)
  | .closeMainReadFailed error =>
      require (s.kernel.child.pc = .closeMainReadFailed error)
        (s.kernel.setChild (.write error) (s.kernel.child.fds.close (s.pipeFds .main .read)))
  | .closeMainRead =>
      require (s.kernel.child.pc = .closeMainRead)
        (s.kernel.setChild .execvp (s.kernel.child.fds.close (s.pipeFds .main .read)))
  | .execvp =>
      require (s.kernel.child.pc = .execvp)
        (s.kernel.setChild .program s.kernel.child.fds.exec)
  | .execvpFailed errno =>
      require (s.kernel.child.pc = .execvp)
        (s.kernel.setChild (.write ⟨.execve, errno⟩) s.kernel.child.fds)
  -- the result of this write is not looked at
  | .wrote error k =>
      require (s.kernel.child.pc = .write error ∧
          s.kernel.child.fds.fileAt (s.pipeFds .reporting .write) =
            some (.pipe .reporting .write) ∧
          s.kernel.Writable (.pipe .reporting .write) ∧ k ≤ error.bytes.length)
        ((s.kernel.deliver (.pipe .reporting .write) (error.bytes.take k)).setChild
          .closeReportingWrite s.kernel.child.fds)
  | .writeFailed error =>
      require (s.kernel.child.pc = .write error)
        (s.kernel.setChild .closeReportingWrite s.kernel.child.fds)
  | .closeReportingWrite =>
      require (s.kernel.child.pc = .closeReportingWrite)
        (s.kernel.setChild .exit (s.kernel.child.fds.close (s.pipeFds .reporting .write)))
  | .exit => require (s.kernel.child.pc = .exit) (s.kernel.setChild .zombie .empty)
  | .programReads n k =>
      require (s.kernel.child.pc = .program ∧
          s.kernel.child.fds.fileAt n = some (.pipe .main .read) ∧
          s.kernel.mainReadc + k ≤ s.kernel.mainPipe.length)
        { s.kernel with mainReadc := s.kernel.mainReadc + k }
  | .programCloses n =>
      require (s.kernel.child.pc = .program)
        (s.kernel.setChild .program (s.kernel.child.fds.close n))
  | .programWrites n f bytes =>
      require (s.kernel.child.pc = .program ∧ s.kernel.child.fds.fileAt n = some f ∧
          s.kernel.Writable f)
        (s.kernel.deliver f bytes)
  | .programExits =>
      require (s.kernel.child.pc = .program) (s.kernel.setChild .zombie .empty)
  | .killedBySignal =>
      require (s.kernel.child.pc ≠ .unborn ∧ s.kernel.child.pc ≠ .zombie ∧
          s.kernel.child.pc ≠ .reaped)
        (s.kernel.setChild .zombie .empty)

/-! ## The clients -/

inductive ClientAction
  | connect (c : ConnId)
  | send (c : ConnId) (bytes : List Byte)
  | shutdown (c : ConnId)
  | shutdownRead (c : ConnId)
  | close (c : ConnId)
  deriving DecidableEq

def client (k : Kernel) : ClientAction → Option Kernel
  | .connect c =>
      require ((k.connections c).phase = .unused)
        (k.setConnection c { k.connections c with phase := .pending })
  | .send c bytes =>
      require ((k.connections c).phase ≠ .unused ∧ (k.connections c).shutdown = false)
        (k.setConnection c { k.connections c with sent := (k.connections c).sent ++ bytes })
  | .shutdown c =>
      require ((k.connections c).phase ≠ .unused)
        (k.setConnection c { k.connections c with shutdown := true })
  | .shutdownRead c =>
      require ((k.connections c).phase ≠ .unused)
        (k.setConnection c { k.connections c with closed := true })
  | .close c =>
      require ((k.connections c).phase ≠ .unused)
        (k.setConnection c { k.connections c with shutdown := true, closed := true })

/-! ## The server -/

inductive Action
  | setupThreads (a : SetupThreadsAction)
  | setupChild (a : SetupChildAction)
  | parent (a : ParentAction)
  | childWait (a : ChildWaitAction)
  | accept (a : AcceptAction)
  | clientConnection (a : ClientConnectionAction)
  | child (a : ChildAction)
  | client (a : ClientAction)
  deriving DecidableEq

def act (s : State) : Action → Option State
  | .setupThreads a => setupThreads s a
  | .setupChild a => setupChild s a
  | .parent a => parent s a
  | .childWait a => threadRoutineChildWait s a
  | .accept a => threadRoutineAccept s a
  | .clientConnection a => threadRoutineClientConnection s a
  | .child a => (child s a).map fun k => { s with kernel := k }
  | .client a => (client s.kernel a).map fun k => { s with kernel := k }

def step (s : State) (a : Action) : Option State := if s.killed then none else act s a

def system : System State Action where
  initial s := ∃ config, s = .start config
  step := step

/-! ## Schedules -/

/-- Started from a shell, where pipe2() is there. -/
def Config.shell : Config :=
  ⟨true, false, ⟨[some ⟨0, false⟩, some ⟨1, false⟩, some ⟨2, false⟩]⟩⟩

/-- A schedule of the start up to where every thread waits: main for the child-wait thread, the
accept thread for a client, the connection thread for a connection. -/
def startUp : List Action :=
  [.setupThreads .createChildWait, .setupThreads .createClientConnection,
   .setupThreads .createAccept,
   .setupChild .pipe, .setupChild .reportingPipe, .setupChild (.fork 1),
   .setupChild .closeReportingWrite, .setupChild .closeMainRead,
   .setupChild .storeChildPid, .setupChild .storeChildStdinFd,
   .child .closeReportingRead, .child .closeMainWrite, .child .closeSocket,
   .child .dup2, .child .closeMainRead, .child .execvp,
   .parent .readEof, .parent .lock, .parent .setCondition, .parent .unlock, .parent .broadcast,
   .childWait (.waitForChildReady .lock .lock), .childWait (.waitForChildReady .test .testReady),
   .childWait (.waitForChildReady .unlock .unlock),
   .accept (.waitForChildReady .lock .lock), .accept (.waitForChildReady .test .testReady),
   .accept (.waitForChildReady .unlock .unlock),
   .clientConnection .lock, .clientConnection .slotEmpty, .clientConnection .wait]

def handOver (fd : ClientFd) : List Action :=
  [.client (.connect fd.connection), .accept (.accepted fd.connection),
   .accept (.trylockAcquired fd), .accept (.store fd), .accept (.unlock fd),
   .accept (.testcancelPublished fd), .accept (.signal fd), .accept (.popNoClose fd)]

def childExits : List Action :=
  [.child .programExits, .childWait .waitpid, .parent .joinChildWait, .parent .cancelAccept]

/-- main goes on when the accept thread has ended, and cancels the connection thread. -/
def cancelRequest : List Action :=
  [.parent .joinAccept,
   .setupChild (.close .reporting .read [(.main, .write)] .success),
   .setupChild (.close .main .write [] .success),
   .setupThreads (.cancel .accept [.clientConnection, .childWait] .success),
   .setupThreads (.join .accept [.clientConnection, .childWait] .success),
   .setupThreads (.cancel .clientConnection [.childWait] .success)]

def cancelConnection : List Action :=
  cancelRequest ++ [.clientConnection .cancelWait, .clientConnection .relockCancelled]

theorem system_step {s s' : State} {a : Action} :
    system.step s a = some s' ↔ s.killed = false ∧ act s a = some s' := by
  cases dead : s.killed <;> simp [system, step, dead]

end Usockit.Server
