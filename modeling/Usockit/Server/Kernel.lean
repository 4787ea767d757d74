import Mathlib.Logic.Function.Basic
import Usockit.Foundation.TransitionSystem
import Usockit.Foundation.DescriptorTable
import Usockit.Utils

namespace Usockit.Server
open Foundation

abbrev ConnId := Nat

abbrev Pid := Nat

inductive Pipe
  | main | reporting
  deriving DecidableEq

inductive PipeEnd
  | read | write
  deriving DecidableEq

inductive File
  | inherited (k : Nat)
  | listening
  | connection (c : ConnId)
  | pipe (p : Pipe) (e : PipeEnd)
  deriving DecidableEq

/-- A descriptor that accept() returned. The system calls only look at its number; the connection
records which call returned it. -/
structure ClientFd where
  number : Nat
  connection : ConnId
  deriving DecidableEq

/-! ## struct usockit_server_child_error -/

inductive ChildErrorFunc
  | dup2 | execve
  deriving DecidableEq

structure ChildError where
  func : ChildErrorFunc
  funcErrno : UInt32
  deriving DecidableEq

def intBytes (n : Nat) : List Byte :=
  [UInt8.ofNat n, UInt8.ofNat (n / 256), UInt8.ofNat (n / 65536), UInt8.ofNat (n / 16777216)]

def bytesInt : List Byte → Nat
  | [] => 0
  | b :: rest => b.toNat + 256 * bytesInt rest

def ChildErrorFunc.code : ChildErrorFunc → Nat
  | .dup2 => 0
  | .execve => 1

def ChildError.bytes (error : ChildError) : List Byte :=
  intBytes error.func.code ++ intBytes error.funcErrno.toNat

def childErrorSize : Nat := 8

/-- The struct that a full read leaves in memory; `none` when `func` is no value of its enum. -/
def ChildError.ofBytes (bytes : List Byte) : Option ChildError :=
  let errno := UInt32.ofNat (bytesInt (bytes.drop 4))
  match bytesInt (bytes.take 4) with
  | 0 => some ⟨.dup2, errno⟩
  | 1 => some ⟨.execve, errno⟩
  | _ => none

theorem bytesInt_intBytes {n : Nat} (bound : n < 4294967296) : bytesInt (intBytes n) = n := by
  simp only [bytesInt, intBytes, UInt8.toNat_ofNat']
  omega

@[simp] theorem ChildError.length_bytes (error : ChildError) :
    error.bytes.length = childErrorSize := rfl

@[simp] theorem ChildError.take_bytes (error : ChildError) :
    error.bytes.take childErrorSize = error.bytes := rfl

@[simp] theorem ChildError.drop_take_bytes (error : ChildError) (k : Nat) :
    (error.bytes.take k).drop childErrorSize = [] := by
  rw [List.drop_eq_nil_iff, List.length_take, error.length_bytes]
  exact Nat.min_le_right _ _

theorem ChildError.take_eq_bytes {error : ChildError} {k : Nat}
    (enough : childErrorSize ≤ (error.bytes.take k).length) : error.bytes.take k = error.bytes := by
  rw [List.length_take, error.length_bytes] at enough
  exact List.take_of_length_le (by rw [error.length_bytes]; omega)

@[simp] theorem ChildError.ofBytes_bytes (error : ChildError) :
    ChildError.ofBytes error.bytes = some error := by
  obtain ⟨func, errno⟩ := error
  have funcCode : bytesInt (intBytes func.code) = func.code :=
    bytesInt_intBytes (by cases func <;> decide)
  have errnoCode : bytesInt (intBytes errno.toNat) = errno.toNat :=
    bytesInt_intBytes errno.toNat_lt
  have front : (ChildError.bytes ⟨func, errno⟩).take 4 = intBytes func.code := rfl
  have back : (ChildError.bytes ⟨func, errno⟩).drop 4 = intBytes errno.toNat := rfl
  simp only [ChildError.ofBytes, front, back, funcCode, errnoCode, UInt32.ofNat_toNat]
  cases func <;> rfl

/-- What `perror(s)` prints, where `message` is the text for errno. -/
def perrorText (s message : List Byte) : List Byte :=
  s ++ bytesOf ": " ++ message ++ bytesOf "\n"

/-! ## The kernel -/

/-- usockit_server_child, and what becomes of the process. -/
inductive ChildPc
  | unborn
  | closeReportingRead | closeMainWrite | closeSocket
  | dup2 | closeMainReadFailed (error : ChildError)
  | closeMainRead | execvp
  | write (error : ChildError) | closeReportingWrite | exit
  | program
  | zombie
  | reaped
  deriving DecidableEq

inductive Phase
  | unused | pending | accepted
  deriving DecidableEq

/-- A client's end of a connection and the two byte streams of the socket. It is `closed`, too, when
the client has only shut down its reading side: write() to it fails just the same. -/
structure Connection where
  phase : Phase
  sent : List Byte
  readc : Nat
  shutdown : Bool
  closed : Bool
  received : List Byte
  deriving DecidableEq

def Connection.unread (c : Connection) : List Byte := c.sent.drop c.readc

structure Child where
  pc : ChildPc
  pid : Pid
  fds : DescriptorTable File
  deriving DecidableEq

/-- `mainPipe` is every byte that was ever written to the main pipe, of which the program has read
the first `mainReadc`; `reportingPipe` is what is still unread in the other. -/
structure Kernel where
  fds : DescriptorTable File
  connections : ConnId → Connection
  child : Child
  reportingPipe : List Byte
  mainPipe : List Byte
  mainReadc : Nat
  sigpipeIgnored : Bool

namespace Kernel

def Open (k : Kernel) (f : File) : Prop := k.fds.Holds f ∨ k.child.fds.Holds f

instance (k : Kernel) (f : File) : Decidable (k.Open f) := inferInstanceAs (Decidable (_ ∨ _))

/-- A write() to `f` takes bytes. How full the pipe or the socket is does not show here: a write()
that waits for room is a thread that takes no step. -/
def Writable (k : Kernel) : File → Prop
  | .pipe p .write => k.Open (.pipe p .read)
  | .connection c => (k.connections c).closed = false
  | _ => False

/-- Nobody reads what is written to `f`. -/
def Broken (k : Kernel) : File → Prop
  | .pipe p .write => ¬ k.Open (.pipe p .read)
  | .connection c => (k.connections c).closed = true
  | _ => False

instance (k : Kernel) : ∀ f, Decidable (k.Writable f)
  | .inherited _ | .listening | .pipe _ .read => inferInstanceAs (Decidable False)
  | .pipe _ .write => inferInstanceAs (Decidable (k.Open _))
  | .connection _ => inferInstanceAs (Decidable (_ = _))

instance (k : Kernel) : ∀ f, Decidable (k.Broken f)
  | .inherited _ | .listening | .pipe _ .read => inferInstanceAs (Decidable False)
  | .pipe _ .write => inferInstanceAs (Decidable (¬ k.Open _))
  | .connection _ => inferInstanceAs (Decidable (_ = _))

/-- A write() of the server to descriptor `n` raises SIGPIPE with its default disposition. -/
def RaisesSigpipe (k : Kernel) (n : Nat) : Prop :=
  k.sigpipeIgnored = false ∧ ∃ f ∈ k.fds.fileAt n, k.Broken f

instance (k : Kernel) (n : Nat) : Decidable (k.RaisesSigpipe n) :=
  inferInstanceAs (Decidable (_ ∧ _))

def setConnection (k : Kernel) (c : ConnId) (connection : Connection) : Kernel :=
  { k with connections := Function.update k.connections c connection }

/-- The bytes that write() took go to where `f` leads. -/
def deliver (k : Kernel) (f : File) (bytes : List Byte) : Kernel :=
  match f with
  | .pipe .main .write => { k with mainPipe := k.mainPipe ++ bytes }
  | .pipe .reporting .write => { k with reportingPipe := k.reportingPipe ++ bytes }
  | .connection c =>
      k.setConnection c { k.connections c with received := (k.connections c).received ++ bytes }
  | _ => k

def stderrFileno : Nat := 2

/-- perror() writes to descriptor 2, whatever file that is. -/
def writeStderr (k : Kernel) (bytes : List Byte) : Kernel :=
  match k.fds.fileAt stderrFileno with
  | some f => if k.Writable f then k.deliver f bytes else k
  | none => k

/-- The same of a file at descriptor 2, where `readerGone` tells it of an inherited one. -/
def StderrBroken (k : Kernel) (readerGone : Bool) : File → Prop
  | .inherited _ => readerGone = true
  | f => k.Broken f

instance (k : Kernel) (readerGone : Bool) : ∀ f, Decidable (k.StderrBroken readerGone f)
  | .inherited _ => inferInstanceAs (Decidable (_ = _))
  | .listening => inferInstanceAs (Decidable (k.Broken .listening))
  | .connection c => inferInstanceAs (Decidable (k.Broken (.connection c)))
  | .pipe p e => inferInstanceAs (Decidable (k.Broken (.pipe p e)))

/-- perror() raises SIGPIPE with its default disposition. -/
def PerrorRaisesSigpipe (k : Kernel) (readerGone : Bool) : Prop :=
  k.sigpipeIgnored = false ∧ ∃ f ∈ k.fds.fileAt stderrFileno, k.StderrBroken readerGone f

instance (k : Kernel) (readerGone : Bool) : Decidable (k.PerrorRaisesSigpipe readerGone) :=
  inferInstanceAs (Decidable (_ ∧ _))

def close (k : Kernel) (n : Nat) : Kernel := { k with fds := k.fds.close n }

/-- `close(client_fd)`, where -1 only sets errno. -/
def closeClient (k : Kernel) : Option ClientFd → Kernel
  | some fd => k.close fd.number
  | none => k

def accept (k : Kernel) (c : ConnId) : Kernel :=
  { k.setConnection c { k.connections c with phase := .accepted } with
    fds := k.fds.install k.fds.lowestFree ⟨.connection c, false⟩ }

def nextWriteFd (k : Kernel) (p : Pipe) (closeOnExec : Bool) : Nat :=
  (k.fds.install k.fds.lowestFree ⟨.pipe p .read, closeOnExec⟩).lowestFree

def openPipe (k : Kernel) (p : Pipe) (closeOnExec : Bool) : Kernel :=
  { k with
    fds := (k.fds.install k.fds.lowestFree ⟨.pipe p .read, closeOnExec⟩).install
      (k.nextWriteFd p closeOnExec) ⟨.pipe p .write, closeOnExec⟩ }

def fork (k : Kernel) (pid : Pid) : Kernel :=
  { k with child := ⟨.closeReportingRead, pid, k.fds⟩ }

def setChild (k : Kernel) (pc : ChildPc) (fds : DescriptorTable File) : Kernel :=
  { k with child := { k.child with pc := pc, fds := fds } }

def reap (k : Kernel) : Kernel := { k with child := { k.child with pc := .reaped } }

/-! ## What the operations leave alone -/

variable (k : Kernel) (c d : ConnId) (f : File) (n : Nat) (bytes : List Byte)
variable (connection : Connection) (fd : Option ClientFd) (p : Pipe) (closeOnExec : Bool)
variable (pid : Pid) (pc : ChildPc) (fds : DescriptorTable File)

@[simp] theorem connections_setConnection : (k.setConnection c connection).connections d =
    if d = c then connection else k.connections d := by
  simp [setConnection, Function.update_apply]

@[simp] theorem fds_setConnection : (k.setConnection c connection).fds = k.fds := rfl

@[simp] theorem child_setConnection : (k.setConnection c connection).child = k.child := rfl

@[simp] theorem mainPipe_setConnection :
    (k.setConnection c connection).mainPipe = k.mainPipe := rfl

@[simp] theorem reportingPipe_setConnection :
    (k.setConnection c connection).reportingPipe = k.reportingPipe := rfl

@[simp] theorem sigpipeIgnored_setConnection :
    (k.setConnection c connection).sigpipeIgnored = k.sigpipeIgnored := rfl

@[simp] theorem fds_deliver : (k.deliver f bytes).fds = k.fds := by
  unfold deliver
  split <;> rfl

@[simp] theorem child_deliver : (k.deliver f bytes).child = k.child := by
  unfold deliver
  split <;> rfl

@[simp] theorem sigpipeIgnored_deliver :
    (k.deliver f bytes).sigpipeIgnored = k.sigpipeIgnored := by
  unfold deliver
  split <;> rfl

theorem connections_deliver : ∃ received, (k.deliver f bytes).connections d =
    { k.connections d with received := received } := by
  cases f with
  | connection c =>
      by_cases same : d = c
      · subst same
        exact ⟨_, by simp [deliver]; rfl⟩
      · exact ⟨_, by simp [deliver, same]; rfl⟩
  | inherited | listening => exact ⟨_, rfl⟩
  | pipe p e => cases p <;> cases e <;> exact ⟨_, rfl⟩

@[simp] theorem phase_deliver :
    ((k.deliver f bytes).connections d).phase = (k.connections d).phase := by
  obtain ⟨received, same⟩ := connections_deliver k d f bytes
  rw [same]

/-- A write of perror() is one to the file at descriptor 2, or to nothing. -/
theorem writeStderr_cases : k.writeStderr bytes = k ∨
    ∃ f ∈ k.fds.fileAt stderrFileno, k.Writable f ∧ k.writeStderr bytes = k.deliver f bytes := by
  unfold writeStderr
  split
  · next f here =>
      split
      · next writable => exact .inr ⟨f, here, writable, rfl⟩
      · exact .inl rfl
  · exact .inl rfl

@[simp] theorem fds_writeStderr : (k.writeStderr bytes).fds = k.fds := by
  obtain same | ⟨f, -, -, same⟩ := writeStderr_cases k bytes <;> simp [same]

@[simp] theorem child_writeStderr : (k.writeStderr bytes).child = k.child := by
  obtain same | ⟨f, -, -, same⟩ := writeStderr_cases k bytes <;> simp [same]

@[simp] theorem sigpipeIgnored_writeStderr :
    (k.writeStderr bytes).sigpipeIgnored = k.sigpipeIgnored := by
  obtain same | ⟨f, -, -, same⟩ := writeStderr_cases k bytes <;> simp [same]

theorem connections_writeStderr : ∃ received, (k.writeStderr bytes).connections d =
    { k.connections d with received := received } := by
  obtain same | ⟨f, -, -, same⟩ := writeStderr_cases k bytes
  · exact ⟨(k.connections d).received, by rw [same]⟩
  · exact same ▸ connections_deliver k d f bytes

@[simp] theorem phase_writeStderr :
    ((k.writeStderr bytes).connections d).phase = (k.connections d).phase := by
  obtain ⟨received, same⟩ := connections_writeStderr k d bytes
  rw [same]

@[simp] theorem connections_close : (k.close n).connections = k.connections := rfl

@[simp] theorem child_close : (k.close n).child = k.child := rfl

@[simp] theorem mainPipe_close : (k.close n).mainPipe = k.mainPipe := rfl

@[simp] theorem reportingPipe_close : (k.close n).reportingPipe = k.reportingPipe := rfl

@[simp] theorem fds_close : (k.close n).fds = k.fds.close n := rfl

@[simp] theorem sigpipeIgnored_close : (k.close n).sigpipeIgnored = k.sigpipeIgnored := rfl

@[simp] theorem closeClient_some (fd : ClientFd) :
    k.closeClient (some fd) = k.close fd.number := rfl

@[simp] theorem closeClient_none : k.closeClient none = k := rfl

@[simp] theorem connections_closeClient : (k.closeClient fd).connections = k.connections := by
  cases fd <;> rfl

@[simp] theorem child_closeClient : (k.closeClient fd).child = k.child := by
  cases fd <;> rfl

@[simp] theorem mainPipe_closeClient : (k.closeClient fd).mainPipe = k.mainPipe := by
  cases fd <;> rfl

@[simp] theorem sigpipeIgnored_closeClient :
    (k.closeClient fd).sigpipeIgnored = k.sigpipeIgnored := by
  cases fd <;> rfl

@[simp] theorem connections_accept : (k.accept c).connections d =
    if d = c then { k.connections c with phase := .accepted } else k.connections d := by
  simp [accept]

@[simp] theorem fds_accept :
    (k.accept c).fds = k.fds.install k.fds.lowestFree ⟨.connection c, false⟩ := rfl

@[simp] theorem child_accept : (k.accept c).child = k.child := rfl

@[simp] theorem mainPipe_accept : (k.accept c).mainPipe = k.mainPipe := rfl

@[simp] theorem reportingPipe_accept : (k.accept c).reportingPipe = k.reportingPipe := rfl

@[simp] theorem sigpipeIgnored_accept : (k.accept c).sigpipeIgnored = k.sigpipeIgnored := rfl

theorem fileAt_openPipe : (k.openPipe p closeOnExec).fds.fileAt n =
    if n = k.nextWriteFd p closeOnExec then some (.pipe p .write)
    else if n = k.fds.lowestFree then some (.pipe p .read) else k.fds.fileAt n := by
  simp [openPipe]

theorem nextWriteFd_ne_lowestFree : k.nextWriteFd p closeOnExec ≠ k.fds.lowestFree := by
  refine (DescriptorTable.ne_lowestFree (f := .pipe p .read) ?_).symm
  simp

theorem fileAt_nextWriteFd : k.fds.fileAt (k.nextWriteFd p closeOnExec) = none := by
  have free : (k.fds.install k.fds.lowestFree ⟨.pipe p .read, closeOnExec⟩).fileAt
      (k.nextWriteFd p closeOnExec) = none := DescriptorTable.fileAt_lowestFree
  simpa [nextWriteFd_ne_lowestFree] using free

@[simp] theorem connections_openPipe :
    (k.openPipe p closeOnExec).connections = k.connections := rfl

@[simp] theorem child_openPipe : (k.openPipe p closeOnExec).child = k.child := rfl

@[simp] theorem mainPipe_openPipe : (k.openPipe p closeOnExec).mainPipe = k.mainPipe := rfl

@[simp] theorem reportingPipe_openPipe :
    (k.openPipe p closeOnExec).reportingPipe = k.reportingPipe := rfl

@[simp] theorem sigpipeIgnored_openPipe :
    (k.openPipe p closeOnExec).sigpipeIgnored = k.sigpipeIgnored := rfl

@[simp] theorem connections_fork : (k.fork pid).connections = k.connections := rfl

@[simp] theorem fds_fork : (k.fork pid).fds = k.fds := rfl

@[simp] theorem child_fork : (k.fork pid).child = ⟨.closeReportingRead, pid, k.fds⟩ := rfl

@[simp] theorem mainPipe_fork : (k.fork pid).mainPipe = k.mainPipe := rfl

@[simp] theorem reportingPipe_fork : (k.fork pid).reportingPipe = k.reportingPipe := rfl

@[simp] theorem sigpipeIgnored_fork : (k.fork pid).sigpipeIgnored = k.sigpipeIgnored := rfl

@[simp] theorem connections_setChild : (k.setChild pc fds).connections = k.connections := rfl

@[simp] theorem fds_setChild : (k.setChild pc fds).fds = k.fds := rfl

@[simp] theorem child_setChild : (k.setChild pc fds).child = ⟨pc, k.child.pid, fds⟩ := rfl

@[simp] theorem mainPipe_setChild : (k.setChild pc fds).mainPipe = k.mainPipe := rfl

@[simp] theorem reportingPipe_setChild :
    (k.setChild pc fds).reportingPipe = k.reportingPipe := rfl

@[simp] theorem sigpipeIgnored_setChild :
    (k.setChild pc fds).sigpipeIgnored = k.sigpipeIgnored := rfl

@[simp] theorem connections_reap : k.reap.connections = k.connections := rfl

@[simp] theorem fds_reap : k.reap.fds = k.fds := rfl

@[simp] theorem child_reap : k.reap.child = { k.child with pc := .reaped } := rfl

@[simp] theorem mainPipe_reap : k.reap.mainPipe = k.mainPipe := rfl

@[simp] theorem reportingPipe_reap : k.reap.reportingPipe = k.reportingPipe := rfl

@[simp] theorem sigpipeIgnored_reap : k.reap.sigpipeIgnored = k.sigpipeIgnored := rfl

end Kernel
end Usockit.Server
