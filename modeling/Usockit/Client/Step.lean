import Usockit.Client.State

namespace Usockit.Client
open Foundation

/-! ## usockit_client_threads_dispatch_result -/

inductive PostAction
  | lock | testStore | testKeep | store | unlock
  deriving DecidableEq

/-- The critical section of thread `t`, which stores `result` if `replaces` holds of the slot. -/
def post (t : Thread) (result : ThreadsResult) (replaces : ThreadsResult → Bool)
    (dest : ThreadsResultDest) (p : PostPc) : PostAction → Option (PostPc × ThreadsResultDest)
  | .lock => require (p = .lock ∧ dest.mutex = none) (.test, { dest with mutex := some t })
  | .testStore => require (p = .test ∧ replaces dest.result = true) (.store, dest)
  | .testKeep => require (p = .test ∧ replaces dest.result = false) (.unlock, dest)
  | .store => require (p = .store) (.unlock, { dest with result := result })
  | .unlock => require (p = .unlock) (.signal, { dest with mutex := none })

def threadsDispatchResult (t : Thread) (result : ThreadsResult) :
    ThreadsResultDest → PostPc → PostAction → Option (PostPc × ThreadsResultDest) :=
  post t result fun posted => posted.origin = .none

/-- pthread_cond_signal -/
def MainPc.signalled : MainPc → MainPc
  | .asleep => .woken
  | pc => pc

/-! ## usockit_client_sending_thread_routine -/

inductive SendingThreadAction
  | freeArg | sigmask
  | received (buffer : List Byte) | readEof | readFailed (errno : Nat) | cancelRead
  | wrote (w : WriteAll) (k : Nat)
  | writeFailed (w : WriteAll) (errno : Nat) | cancelWrite (w : WriteAll)
  | dispatchResult (r : SendingThreadResult) (p : PostPc) (a : PostAction)
  | signal (r : SendingThreadResult)
  deriving DecidableEq

/-- `array_size(buffer)` -/
def sendingBufferSize : Nat := 1024

/-- After write() accepted `k` bytes: write_all goes on or has returned. -/
def SendingThreadPc.afterWrite (w : WriteAll) (k : Nat) : SendingThreadPc :=
  match w.accepted k with
  | some w => .write w
  | none => .read

/-- write() has failed. Together with EPIPE, SIGPIPE is raised and ends the process unless the
thread blocks it. -/
def State.writeFailed (s : State) (errno : Nat) : State :=
  if errno = epipe ∧ s.sigpipeBlocked = false then { s with fate := .killed }
  else { s with sendingThread := .dispatchResult ⟨errno, .write⟩ .lock }

def sendingThreadRoutine (s : State) : SendingThreadAction → Option State
  | .freeArg => require (s.sendingThread = .freeArg) { s with sendingThread := .sigmask }
  | .sigmask =>
      require (s.sendingThread = .sigmask)
        { s with sendingThread := .read, sigpipeBlocked := true }
  | .received buffer =>
      require (s.sendingThread = .read ∧ buffer <+: s.stdin.unread ∧ buffer ≠ [] ∧
          buffer.length ≤ sendingBufferSize)
        { s with
          sendingThread := .write (.call s.socketFd buffer)
          stdin := s.stdin.read buffer.length }
  | .readEof =>
      require (s.sendingThread = .read ∧ s.stdin.unread = [])
        { s with sendingThread := .dispatchResult ⟨0, .read⟩ .lock }
  | .readFailed errno =>
      require (s.sendingThread = .read ∧ errno ≠ 0)
        { s with sendingThread := .dispatchResult ⟨errno, .read⟩ .lock }
  | .cancelRead =>
      require (s.sendingThread = .read ∧ s.cancelRequested .sending = true)
        { s with sendingThread := .ended }
  | .wrote w k =>
      -- Until the socket has room the thread waits, which is to take no step.
      require (s.sendingThread = .write w ∧ s.socket.serverClosed = false ∧ k ≤ w.offered.length)
        { s with
          sendingThread := .afterWrite w k
          socket := { s.socket with toServer := s.socket.toServer ++ w.offered.take k } }
  | .writeFailed w errno =>
      require (s.sendingThread = .write w ∧ errno ≠ 0 ∧
          (errno = epipe → s.socket.serverClosed = true))
        (s.writeFailed errno)
  | .cancelWrite w =>
      require (s.sendingThread = .write w ∧ s.cancelRequested .sending = true)
        { s with sendingThread := .ended }
  | .dispatchResult r p a =>
      if s.sendingThread = .dispatchResult r p then
        (threadsDispatchResult .sending r.toThreadsResult s.threadsResultDest p a).map fun next =>
          { s with sendingThread := .dispatchResult r next.1, threadsResultDest := next.2 }
      else none
  | .signal r =>
      require (s.sendingThread = .dispatchResult r .signal)
        { s with sendingThread := .ended, main := s.main.signalled }

/-! ## usockit_client_receiving_thread_routine -/

inductive ReceivingThreadAction
  | freeArg
  | received (buffer : List Byte) | readFailed (errno : Nat) | cancelRead
  | abort
  | post (r : ReceivingThreadResult) (p : PostPc) (a : PostAction)
  | signal (r : ReceivingThreadResult)
  deriving DecidableEq

/-- `USOCKIT_CLIENT_RECEIVING_THREAD_FUCK_OFF_STRING` -/
def fuckOffString : List Byte := bytesOf "fuck off"

def fuckOffStringSize : Nat := fuckOffString.length

/-- read() has returned the number of bytes in `buffer`. -/
def ReceivingThreadPc.afterRead (buffer : List Byte) : ReceivingThreadPc :=
  if buffer.length = fuckOffStringSize ∧ buffer = fuckOffString then .post ⟨.fuckOff, 0⟩ .lock
  else if buffer.length = 0 then .abort
  else .read

/-- The special case: the EPIPE of the sending thread's write() is replaced, too. -/
def ReceivingThreadResult.replaces (r : ReceivingThreadResult) (posted : ThreadsResult) : Bool :=
  posted.origin = .none ∨
    (r.type = .fuckOff ∧ posted.origin = .sending ∧ posted.threadUnion = .sending ⟨epipe, .write⟩)

def receivingThreadRoutine (s : State) : ReceivingThreadAction → Option State
  | .freeArg => require (s.receivingThread = .freeArg) { s with receivingThread := .read }
  | .received buffer =>
      require (s.receivingThread = .read ∧ buffer <+: s.socket.fromServer.unread ∧
          buffer.length ≤ fuckOffStringSize ∧
          (buffer = [] → s.socket.fromServer.unread = [] ∧ s.socket.serverClosed = true))
        { s with
          receivingThread := .afterRead buffer
          socket := { s.socket with fromServer := s.socket.fromServer.read buffer.length } }
  | .readFailed errno =>
      require (s.receivingThread = .read ∧ errno ≠ 0)
        { s with receivingThread := .post ⟨.readFailure, errno⟩ .lock }
  | .cancelRead =>
      require (s.receivingThread = .read ∧ s.cancelRequested .receiving = true)
        { s with receivingThread := .ended }
  | .abort => require (s.receivingThread = .abort) { s with fate := .aborted }
  | .post r p a =>
      if s.receivingThread = .post r p then
        (post .receiving r.toThreadsResult r.replaces s.threadsResultDest p a).map fun next =>
          { s with receivingThread := .post r next.1, threadsResultDest := next.2 }
      else none
  | .signal r =>
      require (s.receivingThread = .post r .signal)
        { s with receivingThread := .ended, main := s.main.signalled }

/-! ## usockit_client -/

inductive MainAction
  | socket (fd : Nat) | socketFailed
  | calloc | callocFailed
  | mutexInit | mutexInitFailed
  | condInit | condInitFailed
  | connect | connectFailed
  | callocReceivingThreadRoutineArg | callocReceivingThreadRoutineArgFailed
  | createReceivingThread | createReceivingThreadFailed
  | callocSendingThreadRoutineArg | callocSendingThreadRoutineArgFailed
  | createSendingThread | createSendingThreadFailed
  | lock | originNone | originSet | wait | wake | relock | copy
  | exit (op : ExitOp) (rest : List ExitOp) (copied : Option ThreadsResult)
  | ret (copied : Option ThreadsResult)
  | closeSocket (ret : RetStatus)
  deriving DecidableEq

def releaseOps : List ExitOp := [.destroyCond, .destroyMutex, .freeThreadsResultDest]

def endReceivingThreadOps : List ExitOp := [.cancel .receiving, .join .receiving]

def endThreadsOps : List ExitOp :=
  [.cancel .receiving, .cancel .sending, .unlock, .join .receiving, .join .sending]

/-- The exits before a result is copied return USOCKIT_CLIENT_RET_STATUS_UNKNOWN. -/
def MainPc.afterExit : Option ThreadsResult → MainPc
  | none => .closeSocket .unknown
  | some result =>
      match result.retStatus with
      | some ret => .closeSocket ret
      | none => .unreachable

def exitOp (s : State) : ExitOp → Option State
  | .cancel t => some { s with cancelRequested := Function.update s.cancelRequested t true }
  | .unlock =>
      some { s with threadsResultDest := { s.threadsResultDest with mutex := none } }
  | .join t => require (s.Terminated t) s
  | _ => some s

def usockitClient (s : State) : MainAction → Option State
  | .socket fd =>
      -- The client is started with the descriptors 0, 1 and 2 open.
      require (s.main = .socket ∧ 2 < fd) { s with main := .calloc, socketFd := fd }
  | .socketFailed => require (s.main = .socket) { s with main := .returned .unknown }
  | .calloc => require (s.main = .calloc) { s with main := .mutexInit }
  | .callocFailed => require (s.main = .calloc) { s with main := .exit [] none }
  | .mutexInit => require (s.main = .mutexInit) { s with main := .condInit }
  | .mutexInitFailed =>
      require (s.main = .mutexInit) { s with main := .exit [.freeThreadsResultDest] none }
  | .condInit => require (s.main = .condInit) { s with main := .connect }
  | .condInitFailed =>
      require (s.main = .condInit)
        { s with main := .exit [.destroyMutex, .freeThreadsResultDest] none }
  | .connect =>
      -- Until the server's queue has a place main waits, which is to take no step.
      require (s.main = .connect)
        { s with
          main := .callocReceivingThreadRoutineArg
          socket := { s.socket with connected := true } }
  | .connectFailed => require (s.main = .connect) { s with main := .exit releaseOps none }
  | .callocReceivingThreadRoutineArg =>
      require (s.main = .callocReceivingThreadRoutineArg) { s with main := .createReceivingThread }
  | .callocReceivingThreadRoutineArgFailed =>
      require (s.main = .callocReceivingThreadRoutineArg) { s with main := .exit releaseOps none }
  | .createReceivingThread =>
      require (s.main = .createReceivingThread)
        { s with main := .callocSendingThreadRoutineArg, receivingThread := .freeArg }
  | .createReceivingThreadFailed =>
      require (s.main = .createReceivingThread)
        { s with main := .exit (.freeReceivingThreadRoutineArg :: releaseOps) none }
  | .callocSendingThreadRoutineArg =>
      require (s.main = .callocSendingThreadRoutineArg) { s with main := .createSendingThread }
  | .callocSendingThreadRoutineArgFailed =>
      require (s.main = .callocSendingThreadRoutineArg)
        { s with main := .exit (endReceivingThreadOps ++ releaseOps) none }
  | .createSendingThread =>
      require (s.main = .createSendingThread) { s with main := .lock, sendingThread := .freeArg }
  | .createSendingThreadFailed =>
      require (s.main = .createSendingThread)
        { s with
          main := .exit
            (.freeSendingThreadRoutineArg :: endReceivingThreadOps ++ releaseOps) none }
  | .lock =>
      require (s.main = .lock ∧ s.threadsResultDest.mutex = none)
        { s with
          main := .test
          threadsResultDest := { s.threadsResultDest with mutex := some .main } }
  | .originNone =>
      require (s.main = .test ∧ s.threadsResultDest.result.origin = .none) { s with main := .wait }
  | .originSet =>
      require (s.main = .test ∧ s.threadsResultDest.result.origin ≠ .none) { s with main := .copy }
  | .wait =>
      require (s.main = .wait)
        { s with
          main := .asleep
          threadsResultDest := { s.threadsResultDest with mutex := none } }
  | .wake => require (s.main = .asleep) { s with main := .woken }
  | .relock =>
      require (s.main = .woken ∧ s.threadsResultDest.mutex = none)
        { s with
          main := .test
          threadsResultDest := { s.threadsResultDest with mutex := some .main } }
  | .copy =>
      require (s.main = .copy)
        { s with main := .exit (endThreadsOps ++ releaseOps) (some s.threadsResultDest.result) }
  | .exit op rest copied =>
      if s.main = .exit (op :: rest) copied then
        (exitOp s op).map fun s => { s with main := .exit rest copied }
      else none
  | .ret copied => require (s.main = .exit [] copied) { s with main := .afterExit copied }
  | .closeSocket ret =>
      require (s.main = .closeSocket ret) { s with main := .returned ret }

/-! ## The server -/

inductive ServerAction
  | send (bytes : List Byte)
  | close
  deriving DecidableEq

def server (socket : Socket) : ServerAction → Option Socket
  | .send bytes =>
      require (socket.connected = true ∧ socket.serverClosed = false)
        { socket with
          fromServer := { socket.fromServer with bytes := socket.fromServer.bytes ++ bytes } }
  | .close => require (socket.connected = true) { socket with serverClosed := true }

/-! ## The client -/

inductive Action
  | main (a : MainAction)
  | receivingThread (a : ReceivingThreadAction)
  | sendingThread (a : SendingThreadAction)
  | server (a : ServerAction)
  deriving DecidableEq

def act (s : State) : Action → Option State
  | .main a => usockitClient s a
  | .receivingThread a => receivingThreadRoutine s a
  | .sendingThread a => sendingThreadRoutine s a
  | .server a => (server s.socket a).map fun socket => { s with socket := socket }

def step (s : State) (a : Action) : Option State := if s.fate = .running then act s a else none

def system : System State Action where
  initial s := ∃ stdin, s = .start stdin
  step := step

/-! ## A start and an end -/

/-- A schedule of the start up to where both threads are in read() and main waits. -/
def startUp : List Action :=
  [.main (.socket 3), .main .calloc, .main .mutexInit, .main .condInit, .main .connect,
   .main .callocReceivingThreadRoutineArg, .main .createReceivingThread,
   .main .callocSendingThreadRoutineArg, .main .createSendingThread,
   .main .lock, .main .originNone, .main .wait,
   .receivingThread .freeArg, .sendingThread .freeArg, .sendingThread .sigmask]

def dispatch (r : SendingThreadResult) : List Action :=
  [.sendingThread (.dispatchResult r .lock .lock),
   .sendingThread (.dispatchResult r .test .testStore),
   .sendingThread (.dispatchResult r .store .store),
   .sendingThread (.dispatchResult r .unlock .unlock), .sendingThread (.signal r)]

def exitThrough (copied : Option ThreadsResult) : List ExitOp → List Action
  | [] => [.main (.ret copied)]
  | op :: rest => .main (.exit op rest copied) :: exitThrough copied rest

/-- main leaves with `copied` when the receiving thread is in read() and the other has ended. -/
def leave (copied : ThreadsResult) : List Action :=
  .main (.exit (.cancel .receiving) (endThreadsOps.tail ++ releaseOps) (some copied)) ::
    .receivingThread .cancelRead :: exitThrough (some copied) (endThreadsOps.tail ++ releaseOps)

theorem system_step {s s' : State} {a : Action} :
    system.step s a = some s' ↔ s.fate = .running ∧ act s a = some s' := by
  by_cases running : s.fate = .running <;> simp [system, step, running]

end Usockit.Client
