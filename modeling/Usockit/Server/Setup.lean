import Usockit.Server.Step

namespace Usockit.Server
open Foundation

/-! ## The calls before the first pthread_create -/

/-- The fallible calls of usockit_server_setup_threads, by the name of the variable. -/
inductive AcquireOp
  | callocChildReadyInfo | initChildReadyMutex | initChildReadyCond
  | callocClientReadyInfo | initClientReadyMutex | initClientReadyCond
  | callocChildWaitThreadRoutineArg | mallocChildPidPtr
  | callocClientConnectionThreadRoutineArg | mallocChildStdinFdPtr
  | callocAcceptThreadRoutineArg
  deriving DecidableEq

/-- What usockit_server_setup_threads releases, in this order, when the call fails. -/
def AcquireOp.unwinding : AcquireOp → List ReleaseOp
  | .callocChildReadyInfo => []
  | .initChildReadyMutex => [.freeChildReadyInfo]
  | .initChildReadyCond => [.destroyChildReadyMutex, .freeChildReadyInfo]
  | .callocClientReadyInfo =>
      [.destroyChildReadyCond, .destroyChildReadyMutex, .freeChildReadyInfo]
  | .initClientReadyMutex =>
      [.freeClientReadyInfo,
       .destroyChildReadyCond, .destroyChildReadyMutex, .freeChildReadyInfo]
  | .initClientReadyCond =>
      [.destroyClientReadyMutex, .freeClientReadyInfo,
       .destroyChildReadyCond, .destroyChildReadyMutex, .freeChildReadyInfo]
  | .callocChildWaitThreadRoutineArg =>
      [.destroyClientReadyCond, .destroyClientReadyMutex, .freeClientReadyInfo,
       .destroyChildReadyCond, .destroyChildReadyMutex, .freeChildReadyInfo]
  | .mallocChildPidPtr =>
      [.freeChildWaitThreadRoutineArg,
       .destroyClientReadyCond, .destroyClientReadyMutex, .freeClientReadyInfo,
       .destroyChildReadyCond, .destroyChildReadyMutex, .freeChildReadyInfo]
  | .callocClientConnectionThreadRoutineArg =>
      [.freeChildPidPtr, .freeChildWaitThreadRoutineArg,
       .destroyClientReadyCond, .destroyClientReadyMutex, .freeClientReadyInfo,
       .destroyChildReadyCond, .destroyChildReadyMutex, .freeChildReadyInfo]
  | .mallocChildStdinFdPtr =>
      [.freeClientConnectionThreadRoutineArg,
       .freeChildPidPtr, .freeChildWaitThreadRoutineArg,
       .destroyClientReadyCond, .destroyClientReadyMutex, .freeClientReadyInfo,
       .destroyChildReadyCond, .destroyChildReadyMutex, .freeChildReadyInfo]
  | .callocAcceptThreadRoutineArg =>
      [.freeChildStdinFdPtr, .freeClientConnectionThreadRoutineArg,
       .freeChildPidPtr, .freeChildWaitThreadRoutineArg,
       .destroyClientReadyCond, .destroyClientReadyMutex, .freeClientReadyInfo,
       .destroyChildReadyCond, .destroyChildReadyMutex, .freeChildReadyInfo]

/-- What usockit_server_setup_socket calls on its way out. -/
inductive SocketOp
  | unlink | close
  deriving DecidableEq

/-- usockit_server, with usockit_server_check_socket_pathname and usockit_server_setup_socket
inlined; `threads` is usockit_server_setup_threads from the first pthread_create on. -/
inductive CallPc
  | strdup | free
  | socket | bind | listen
  | acquire (op : AcquireOp)
  | unwind (ops : List ReleaseOp)
  | threads
  | exit (ops : List SocketOp) (ret : RetStatus)
  | returned (ret : RetStatus)
  deriving DecidableEq

/-- A call of usockit_server. `threads` is the state that the first pthread_create() finds, and
what becomes of it until usockit_server_setup_threads returns. -/
structure Call where
  pc : CallPc
  threads : State

def Call.start (config : Config) : Call := ⟨.strdup, .start config⟩

inductive CallAction
  | strdup | strdupFailed | free
  | socket | socketFailed | bind | bindFailed | listen | listenFailed
  | acquire (op : AcquireOp) | acquireFailed (op : AcquireOp)
  | unwind (op : ReleaseOp) (rest : List ReleaseOp) | unwound
  | threads (a : Action)
  | setupThreadsReturned (ret : RetStatus)
  | exit (op : SocketOp) (rest : List SocketOp) (ret : RetStatus)
  | ret (ret : RetStatus)
  deriving DecidableEq

def CallPc.afterAcquire : AcquireOp → CallPc
  | .callocChildReadyInfo => .acquire .initChildReadyMutex
  | .initChildReadyMutex => .acquire .initChildReadyCond
  | .initChildReadyCond => .acquire .callocClientReadyInfo
  | .callocClientReadyInfo => .acquire .initClientReadyMutex
  | .initClientReadyMutex => .acquire .initClientReadyCond
  | .initClientReadyCond => .acquire .callocChildWaitThreadRoutineArg
  | .callocChildWaitThreadRoutineArg => .acquire .mallocChildPidPtr
  | .mallocChildPidPtr => .acquire .callocClientConnectionThreadRoutineArg
  | .callocClientConnectionThreadRoutineArg => .acquire .mallocChildStdinFdPtr
  | .mallocChildStdinFdPtr => .acquire .callocAcceptThreadRoutineArg
  | .callocAcceptThreadRoutineArg => .threads

def CallPc.setupThreadsReturned (ret : RetStatus) : CallPc := .exit [.unlink, .close] ret

def SocketOp.act (s : State) : SocketOp → State
  | .unlink => s
  | .close => { s with kernel := s.kernel.close s.socketFd }

def usockitServer (c : Call) : CallAction → Option Call
  | .strdup => require (c.pc = .strdup) { c with pc := .free }
  | .strdupFailed => require (c.pc = .strdup) { c with pc := .returned .outOfMemory }
  | .free => require (c.pc = .free) { c with pc := .socket }
  | .socket => require (c.pc = .socket) { c with pc := .bind }
  | .socketFailed => require (c.pc = .socket) { c with pc := .returned .unknown }
  | .bind => require (c.pc = .bind) { c with pc := .listen }
  | .bindFailed => require (c.pc = .bind) { c with pc := .exit [.close] .unknown }
  | .listen => require (c.pc = .listen) { c with pc := .acquire .callocChildReadyInfo }
  | .listenFailed => require (c.pc = .listen) { c with pc := .exit [.unlink, .close] .unknown }
  | .acquire op => require (c.pc = .acquire op) { c with pc := .afterAcquire op }
  | .acquireFailed op => require (c.pc = .acquire op) { c with pc := .unwind op.unwinding }
  | .unwind op rest => require (c.pc = .unwind (op :: rest)) { c with pc := .unwind rest }
  | .unwound => require (c.pc = .unwind []) { c with pc := .setupThreadsReturned .unknown }
  | .threads a =>
      if c.pc = .threads then (system.step c.threads a).map fun s => { c with threads := s }
      else none
  | .setupThreadsReturned ret =>
      require (c.pc = .threads ∧ c.threads.main = .returned ret ∧ c.threads.killed = false)
        { c with pc := .setupThreadsReturned ret }
  | .exit op rest ret =>
      require (c.pc = .exit (op :: rest) ret)
        { pc := .exit rest ret, threads := op.act c.threads }
  | .ret ret => require (c.pc = .exit [] ret) { c with pc := .returned ret }

def callSystem : System Call CallAction where
  initial c := ∃ config, c = .start config
  step := usockitServer

/-! ## The threads of a call -/

variable {c c' : Call} {actions : List CallAction}

def CallAction.ofThreads : CallAction → List Action
  | .threads a => [a]
  | _ => []

def CallPc.beforeThreads : CallPc → Bool
  | .threads | .exit _ _ | .returned _ => false
  | _ => true

def CallPc.socketOpen : CallPc → Bool
  | .exit ops _ => .close ∈ ops
  | .returned _ => false
  | _ => true

structure Call.OfThreads (ok : State → Action → Prop) (actions : List CallAction) (c : Call) :
    Prop where
  exits : ∀ ops ret, c.pc = .exit ops ret → ops <:+ [.unlink, .close]
  fresh : c.pc.beforeThreads = true → ∃ config, c.threads = .start config
  run : ∃ s, system.RunWhere ok (actions.flatMap CallAction.ofThreads) s ∧
    (c.pc.socketOpen = true → c.threads = s)

theorem Call.OfThreads.frame {ok : State → Action → Prop} {a : CallAction}
    (of : OfThreads ok actions c)
    (exits : ∀ ops ret, c'.pc = .exit ops ret → ops <:+ [.unlink, .close])
    (ofThreads : a.ofThreads = []) (threads : c'.threads = c.threads)
    (before : c'.pc.beforeThreads = true → c.pc.beforeThreads = true)
    (socketOpen : c'.pc.socketOpen = true → c.pc.socketOpen = true) :
    OfThreads ok (actions ++ [a]) c' := by
  refine ⟨exits, fun here => threads ▸ of.fresh (before here), ?_⟩
  obtain ⟨s, run, same⟩ := of.run
  rw [List.flatMap_append, List.flatMap_singleton, ofThreads, List.append_nil, threads]
  exact ⟨s, run, fun isOpen => same (socketOpen isOpen)⟩

section
attribute [local simp] CallPc.beforeThreads CallPc.socketOpen CallAction.ofThreads
  CallPc.setupThreadsReturned

theorem Call.OfThreads.step {ok : State → Action → Prop} {a : CallAction}
    (of : OfThreads ok actions c) (meets : ∀ b, a = .threads b → ok c.threads b)
    (taken : usockitServer c a = some c') : OfThreads ok (actions ++ [a]) c' := by
  cases a <;> simp only [usockitServer, require_eq_some, Option.ite_none_right_eq_some,
    Option.map_eq_some_iff] at taken
  case threads a =>
    obtain ⟨here, s', step, rfl⟩ := taken
    obtain ⟨s, run, same⟩ := of.run
    refine ⟨by simp [here], by simp [here], s', ?_, fun _ => rfl⟩
    obtain rfl := same (by simp [here])
    simpa using run.snoc (meets a rfl) step
  case exit op rest ret =>
    obtain ⟨here, rfl⟩ := taken
    have suffix := of.exits _ _ here
    have shorter := (List.suffix_cons op rest).trans suffix
    cases op with
    | unlink =>
        exact of.frame (by rintro ops ret ⟨⟩; exact shorter) rfl rfl (by simp)
          fun isOpen => by simpa [here] using isOpen
    | close =>
        refine ⟨by rintro ops ret ⟨⟩; exact shorter, by simp, ?_⟩
        obtain ⟨s, run, -⟩ := of.run
        refine ⟨s, by simpa using run, fun isOpen => ?_⟩
        have last : .close ∉ rest := (List.nodup_cons.mp (suffix.sublist.nodup (by decide))).1
        simp [last] at isOpen
  case acquire op =>
    obtain ⟨here, rfl⟩ := taken
    exact of.frame (by cases op <;> simp [CallPc.afterAcquire]) rfl rfl (by simp [here])
      (by simp [here])
  all_goals
    obtain ⟨guard, rfl⟩ := taken
    exact of.frame (by simp) rfl rfl (by simp [guard]) (by simp [guard])
end

theorem Call.OfThreads.ofRun {ok : State → Action → Prop} {okCall : Call → CallAction → Prop}
    (meets : ∀ c a, okCall c (.threads a) → ok c.threads a)
    (run : callSystem.RunWhere okCall actions c) : OfThreads ok actions c := by
  refine run.invariant (I := OfThreads ok) ?_ ?_
  · rintro c ⟨config, rfl⟩
    exact ⟨nofun, fun _ => ⟨config, rfl⟩, .start config, .start ⟨config, rfl⟩, fun _ => rfl⟩
  · exact fun _ c a c' _ of met step => of.step (fun b threads => meets c b (threads ▸ met)) step

/-! ## Schedules -/

def setUp : List CallAction :=
  [.strdup, .free, .socket, .bind, .listen,
   .acquire .callocChildReadyInfo, .acquire .initChildReadyMutex, .acquire .initChildReadyCond,
   .acquire .callocClientReadyInfo, .acquire .initClientReadyMutex,
   .acquire .initClientReadyCond,
   .acquire .callocChildWaitThreadRoutineArg, .acquire .mallocChildPidPtr,
   .acquire .callocClientConnectionThreadRoutineArg, .acquire .mallocChildStdinFdPtr,
   .acquire .callocAcceptThreadRoutineArg]

/-- main joins the connection thread and the other once more, and releases everything. -/
def joinAndRelease : List Action :=
  [.setupThreads (.join .clientConnection [.childWait] .success),
   .setupThreads (.cancel .childWait [] .success),
   .setupThreads (.join .childWait [] .success)] ++
  (releaseOps.tail.tails.zip releaseOps).map
    (fun (rest, op) => .setupThreads (.release op rest .success)) ++
  [.setupThreads (.ret .success)]

def servedNobody : List CallAction :=
  setUp ++
    (startUp ++ childExits ++ [Action.accept .cancelAccept] ++ cancelConnection ++
      joinAndRelease).map .threads ++
    [.setupThreadsReturned .success, .exit .unlink [.close] .success, .exit .close [] .success,
     .ret .success]

end Usockit.Server
