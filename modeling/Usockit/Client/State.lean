import Mathlib.Logic.Function.Basic
import Usockit.Foundation.TransitionSystem
import Usockit.Utils

namespace Usockit.Client
open Foundation

inductive Thread
  | main | receiving | sending
  deriving DecidableEq

inductive RetStatus
  | successEof | successFuckOff | unknown
  deriving DecidableEq

/-! ## struct usockit_client_threads_result -/

inductive SendingThreadResultFunc
  | read | write
  deriving DecidableEq

/-- `status` is 0 after the end of the standard input, else the errno of `func`. -/
structure SendingThreadResult where
  status : Nat
  func : SendingThreadResultFunc
  deriving DecidableEq

inductive ReceivingThreadResultType
  | fuckOff | readFailure
  deriving DecidableEq

structure ReceivingThreadResult where
  type : ReceivingThreadResultType
  readErrno : Nat
  deriving DecidableEq

inductive ThreadsResultOrigin
  | none | sending | receiving
  deriving DecidableEq

/-- The member that was written last. -/
inductive ThreadUnion
  | uninitialized
  | sending (r : SendingThreadResult)
  | receiving (r : ReceivingThreadResult)
  deriving DecidableEq

structure ThreadsResult where
  origin : ThreadsResultOrigin
  threadUnion : ThreadUnion
  deriving DecidableEq

structure ThreadsResultDest where
  mutex : Option Thread
  result : ThreadsResult
  deriving DecidableEq

def ThreadsResult.unset : ThreadsResult := ⟨.none, .uninitialized⟩

/-- What the sending thread makes of its zeroed struct. -/
def SendingThreadResult.toThreadsResult (r : SendingThreadResult) : ThreadsResult :=
  ⟨.sending, .sending r⟩

def ReceivingThreadResult.toThreadsResult (r : ReceivingThreadResult) : ThreadsResult :=
  ⟨.receiving, .receiving r⟩

/-- `EPIPE` as on Linux. -/
def epipe : Nat := 32

/-- The switch at the end of usockit_client_connect; `none` is cross_support_unreachable(). -/
def ThreadsResult.retStatus (r : ThreadsResult) : Option RetStatus :=
  match r.origin, r.threadUnion with
  | .sending, .sending sending =>
      if sending.status = 0 then some .successEof
      else match sending.func with
        | .read => some .unknown
        | .write => some .unknown
  | .receiving, .receiving receiving =>
      match receiving.type with
      | .fuckOff => some .successFuckOff
      | .readFailure => some .unknown
  | _, _ => none

/-! ## Program points

A thread at a point is about to execute the call or the access that the point is named after. -/

/-- The critical section in which a thread posts its result, and the signal after it. -/
inductive PostPc
  | lock | test | store | unlock | signal
  deriving DecidableEq

inductive SendingThreadPc
  | notCreated
  | freeArg | sigmask
  | read
  | write (w : WriteAll)
  | dispatchResult (r : SendingThreadResult) (p : PostPc)
  | ended
  deriving DecidableEq

inductive ReceivingThreadPc
  | notCreated
  | freeArg
  | read
  | abort
  | post (r : ReceivingThreadResult) (p : PostPc)
  | ended
  deriving DecidableEq

/-- What usockit_client_connect calls, in this order, on its way out. -/
inductive ExitOp
  | freeReceivingThreadRoutineArg | freeSendingThreadRoutineArg
  | cancel (t : Thread)
  | unlock
  | join (t : Thread)
  | destroyCond | destroyMutex | freeThreadsResultDest
  deriving DecidableEq

/-- usockit_client, with the functions inlined that it calls. `copied` is `threads_result` in the
exit that has set it. -/
inductive MainPc
  | socket
  | calloc | mutexInit | condInit | connect
  | callocReceivingThreadRoutineArg | createReceivingThread
  | callocSendingThreadRoutineArg | createSendingThread
  | lock | test | wait | asleep | woken | copy
  | exit (ops : List ExitOp) (copied : Option ThreadsResult)
  | closeSocket (ret : RetStatus)
  | returned (ret : RetStatus)
  | unreachable
  deriving DecidableEq

/-! ## The system -/

/-- All bytes of a stream, of which the first `readc` have been read. -/
structure Stream where
  bytes : List Byte
  readc : Nat
  deriving DecidableEq

def Stream.unread (stream : Stream) : List Byte := stream.bytes.drop stream.readc

def Stream.read (stream : Stream) (k : Nat) : Stream := { stream with readc := stream.readc + k }

structure Socket where
  connected : Bool
  fromServer : Stream
  toServer : List Byte
  serverClosed : Bool
  deriving DecidableEq

inductive Fate
  | running | aborted | killed
  deriving DecidableEq

/-- `sigpipeBlocked` is the mask of the sending thread, the only one that writes to the socket. -/
structure State where
  main : MainPc
  receivingThread : ReceivingThreadPc
  sendingThread : SendingThreadPc
  cancelRequested : Thread → Bool
  threadsResultDest : ThreadsResultDest
  socketFd : Nat
  sigpipeBlocked : Bool
  stdin : Stream
  socket : Socket
  fate : Fate

def State.start (stdin : List Byte) : State where
  main := .socket
  receivingThread := .notCreated
  sendingThread := .notCreated
  cancelRequested := fun _ => false
  threadsResultDest := ⟨none, .unset⟩
  socketFd := 0
  sigpipeBlocked := false
  stdin := ⟨stdin, 0⟩
  socket := ⟨false, ⟨[], 0⟩, [], false⟩
  fate := .running

def State.Terminated (s : State) : Thread → Prop
  | .main => False
  | .receiving => s.receivingThread = .ended
  | .sending => s.sendingThread = .ended

instance (s : State) : ∀ t, Decidable (s.Terminated t)
  | .main => inferInstanceAs (Decidable False)
  | .receiving => inferInstanceAs (Decidable (_ = _))
  | .sending => inferInstanceAs (Decidable (_ = _))

end Usockit.Client
