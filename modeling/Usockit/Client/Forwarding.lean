import Usockit.Client.SlotLaw
import Usockit.Client.Survival

namespace Usockit.Client
open Foundation

variable {s s' : State} {actions : List Action} {stdin : List Byte}

/-! ## What the sending thread reports -/

def SendingThreadPc.offers : SendingThreadPc → List Byte
  | .write w => w.offered
  | _ => []

/-- The thread is about to post `r`, or it has taken a step of posting it. -/
def Posting (actions : List Action) (s : State) (r : SendingThreadResult) : Prop :=
  (∃ p, s.sendingThread = .dispatchResult r p) ∨
    ∃ p a, .sendingThread (.dispatchResult r p a) ∈ actions

/-- The call that ended the loop. -/
structure Truthful (actions : List Action) (r : SendingThreadResult) : Prop where
  eof : r.status = 0 ↔ .sendingThread .readEof ∈ actions
  failed : r.status ≠ 0 →
    (r.func = .read ∧ .sendingThread (.readFailed r.status) ∈ actions) ∨
      (r.func = .write ∧ ∃ w, .sendingThread (.writeFailed w r.status) ∈ actions)

theorem Truthful.snoc {r : SendingThreadResult} {a : Action} (truthful : Truthful actions r)
    (noEof : a ≠ .sendingThread .readEof) : Truthful (actions ++ [a]) r := by
  constructor
  · simpa [noEof.symm] using truthful.eof
  · intro failed
    refine (truthful.failed failed).imp (fun ⟨func, member⟩ => ?_) fun ⟨func, w, member⟩ => ?_
    · exact ⟨func, List.mem_append_left _ member⟩
    · exact ⟨func, w, List.mem_append_left _ member⟩

/-! ## The loop -/

structure Forwarding (actions : List Action) (s : State) : Prop where
  read : s.stdin.readc ≤ s.stdin.bytes.length
  sent : s.socket.toServer <+: s.stdin.bytes
  -- What has been read is written or offered to write().
  pending : s.sendingThread.posting = false →
    s.socket.toServer ++ s.sendingThread.offers = s.stdin.bytes.take s.stdin.readc
  working : s.sendingThread.posting = false →
    .sendingThread .readEof ∉ actions ∧
      ∀ r p a, .sendingThread (.dispatchResult r p a) ∉ actions
  eof : .sendingThread .readEof ∈ actions → s.socket.toServer = s.stdin.bytes
  posted : ∀ r, Posting actions s r → Truthful actions r

theorem act_stdin {a : Action} (taken : act s a = some s') (other : ∀ b, a ≠ .sendingThread b) :
    s'.stdin = s.stdin ∧ s'.socket.toServer = s.socket.toServer := by
  cases a with
  | sendingThread b => exact absurd rfl (other b)
  | main a =>
      cases a <;> simp only [act, usockitClient, require_eq_some, Option.ite_none_right_eq_some,
        Option.map_eq_some_iff] at taken
      case exit op rest copied =>
        obtain ⟨-, next, exited, rfl⟩ := taken
        rcases exitOp_cases exited with ⟨t, -, rfl⟩ | ⟨-, rfl⟩ | ⟨-, -, -, rfl⟩ <;>
          exact ⟨rfl, rfl⟩
      all_goals
        obtain ⟨-, rfl⟩ := taken
        exact ⟨rfl, rfl⟩
  | receivingThread a =>
      cases a <;> simp only [act, receivingThreadRoutine, require_eq_some,
        Option.ite_none_right_eq_some, Option.map_eq_some_iff] at taken
      case post r p b =>
        obtain ⟨-, next, -, rfl⟩ := taken
        exact ⟨rfl, rfl⟩
      all_goals
        obtain ⟨-, rfl⟩ := taken
        exact ⟨rfl, rfl⟩
  | server a =>
      cases a <;> simp only [act, server, Option.map_eq_some_iff, require_eq_some] at taken <;>
        obtain ⟨socket, ⟨-, rfl⟩, rfl⟩ := taken <;> exact ⟨rfl, rfl⟩

/-- The step is none of the sending thread's, or it is one of its steps that neither reads,
writes nor posts. -/
theorem Forwarding.frame {a : Action} (forwarding : Forwarding actions s)
    (stdin : s'.stdin = s.stdin) (toServer : s'.socket.toServer = s.socket.toServer)
    (noEof : a ≠ .sendingThread .readEof)
    (noPost : ∀ r p b, a ≠ .sendingThread (.dispatchResult r p b))
    (working : s'.sendingThread.posting = false →
      s.sendingThread.posting = false ∧ s'.sendingThread.offers = s.sendingThread.offers)
    (posting : ∀ r p, s'.sendingThread = .dispatchResult r p →
      s.sendingThread = .dispatchResult r p) : Forwarding (actions ++ [a]) s' := by
  constructor <;> try simp only [stdin, toServer]
  · exact forwarding.read
  · exact forwarding.sent
  · intro working'
    obtain ⟨before, offers⟩ := working working'
    rw [offers]
    exact forwarding.pending before
  · intro working'
    obtain ⟨noEof', noPost'⟩ := forwarding.working (working working').1
    constructor
    · simpa [noEof'] using noEof.symm
    · intro r p b
      simpa [noPost' r p b] using (noPost r p b).symm
  · intro eof
    exact forwarding.eof (by simpa [noEof.symm] using eof)
  · rintro r (⟨p, here⟩ | ⟨p, b, member⟩)
    · exact (forwarding.posted r (.inl ⟨p, posting r p here⟩)).snoc noEof
    · refine (forwarding.posted r (.inr ⟨p, b, ?_⟩)).snoc noEof
      simpa [(noPost r p b).symm] using member

theorem Forwarding.leave {a : Action} {r : SendingThreadResult} (forwarding : Forwarding actions s)
    (before : s.sendingThread.posting = false) (stdin : s'.stdin = s.stdin)
    (toServer : s'.socket.toServer = s.socket.toServer)
    (after : s'.sendingThread = .dispatchResult r .lock)
    (noPost : ∀ r p b, a ≠ .sendingThread (.dispatchResult r p b))
    (truthful : Truthful (actions ++ [a]) r)
    (whole : r.status = 0 → s.socket.toServer = s.stdin.bytes) : Forwarding (actions ++ [a]) s' := by
  constructor <;> try simp only [stdin, toServer, after]
  · exact forwarding.read
  · exact forwarding.sent
  · simp
  · simp
  · exact fun eof => whole (truthful.eof.mpr eof)
  · rintro r' (⟨p, here⟩ | ⟨p, b, member⟩)
    · obtain ⟨rfl, -⟩ : r = r' ∧ PostPc.lock = p := by simpa [after] using here
      exact truthful
    · rcases List.mem_append.mp member with earlier | now
      · exact absurd earlier ((forwarding.working before).2 r' p b)
      · exact absurd (List.mem_singleton.mp now).symm (noPost r' p b)

theorem Forwarding.received {buffer : List Byte} (forwarding : Forwarding actions s)
    (here : s.sendingThread = .read) (front : buffer <+: s.stdin.unread)
    (stdin : s'.stdin = s.stdin.read buffer.length)
    (toServer : s'.socket.toServer = s.socket.toServer)
    (after : s'.sendingThread = .write (.call s.socketFd buffer)) :
    Forwarding (actions ++ [.sendingThread (.received buffer)]) s' := by
  have before : s.sendingThread.posting = false := by simp [here, SendingThreadPc.posting]
  obtain ⟨noEof, noPost⟩ := forwarding.working before
  obtain ⟨rest, unread⟩ := front
  have fits : s.stdin.readc + buffer.length ≤ s.stdin.bytes.length := by
    have read := forwarding.read
    have lengths := congrArg List.length unread
    simp only [Stream.unread, List.length_append, List.length_drop] at lengths
    omega
  have pending := forwarding.pending before
  constructor <;> try simp only [stdin, toServer, after, Stream.read]
  · exact fits
  · exact forwarding.sent
  · intro _
    simp only [here, SendingThreadPc.offers, List.append_nil] at pending
    rw [pending, SendingThreadPc.offers, WriteAll.offered_call, List.take_add]
    congr 1
    rw [show s.stdin.bytes.drop s.stdin.readc = buffer ++ rest from unread.symm, List.take_left]
  · simpa using ⟨noEof, noPost⟩
  · exact fun eof => absurd (by simpa using eof) noEof
  · rintro r (⟨p, posts⟩ | ⟨p, b, member⟩)
    · simp [after] at posts
    · exact absurd (by simpa using member) (noPost r p b)

theorem SendingThreadPc.offers_afterWrite (w : WriteAll) (k : Nat) :
    w.offered.take k ++ (SendingThreadPc.afterWrite w k).offers = w.offered ∧
      (SendingThreadPc.afterWrite w k).posting = false := by
  unfold afterWrite
  split
  · next w' next => exact ⟨WriteAll.offered_of_accepted next, rfl⟩
  · next last => exact ⟨by simp [offers, WriteAll.offered_of_accepted_none last], rfl⟩

theorem Forwarding.wrote {w : WriteAll} {k : Nat} (forwarding : Forwarding actions s)
    (here : s.sendingThread = .write w) (stdin : s'.stdin = s.stdin)
    (toServer : s'.socket.toServer = s.socket.toServer ++ w.offered.take k)
    (after : s'.sendingThread = .afterWrite w k) :
    Forwarding (actions ++ [.sendingThread (.wrote w k)]) s' := by
  have before : s.sendingThread.posting = false := by simp [here, SendingThreadPc.posting]
  obtain ⟨noEof, noPost⟩ := forwarding.working before
  obtain ⟨offers, working⟩ := SendingThreadPc.offers_afterWrite w k
  have pending : s.socket.toServer ++ w.offered.take k ++ (SendingThreadPc.afterWrite w k).offers =
      s.stdin.bytes.take s.stdin.readc := by
    have pending := forwarding.pending before
    rwa [List.append_assoc, offers, ← show s.sendingThread.offers = w.offered by rw [here]; rfl]
  constructor <;> try simp only [stdin, toServer, after]
  · exact forwarding.read
  · exact (pending ▸ List.prefix_append _ _).trans (List.take_prefix _ _)
  · exact fun _ => pending
  · simpa using fun _ => ⟨noEof, noPost⟩
  · exact fun eof => absurd (by simpa using eof) noEof
  · rintro r (⟨p, posts⟩ | ⟨p, b, member⟩)
    · rw [after] at posts
      simp [posts] at working
    · exact absurd (by simpa using member) (noPost r p b)

theorem Forwarding.sendingThreadRoutine {a : SendingThreadAction}
    (forwarding : Forwarding actions s) (masked : Masked s)
    (taken : sendingThreadRoutine s a = some s') :
    Forwarding (actions ++ [.sendingThread a]) s' := by
  cases a <;> simp only [Client.sendingThreadRoutine, require_eq_some,
    Option.ite_none_right_eq_some, Option.map_eq_some_iff] at taken
  case received buffer =>
    obtain ⟨⟨here, front, -⟩, rfl⟩ := taken
    exact forwarding.received here front rfl rfl rfl
  case wrote w k =>
    obtain ⟨⟨here, -⟩, rfl⟩ := taken
    exact forwarding.wrote here rfl rfl rfl
  case readEof =>
    obtain ⟨⟨here, unread⟩, rfl⟩ := taken
    have before : s.sendingThread.posting = false := by simp [here, SendingThreadPc.posting]
    refine forwarding.leave before rfl rfl rfl (by simp) ⟨by simp, by simp⟩ fun _ => ?_
    have pending := forwarding.pending before
    rw [here, SendingThreadPc.offers, List.append_nil] at pending
    · rw [pending]
      exact List.take_of_length_le (List.drop_eq_nil_iff.mp unread)
    · simp
  case readFailed errno =>
    obtain ⟨⟨here, nonzero⟩, rfl⟩ := taken
    have before : s.sendingThread.posting = false := by simp [here, SendingThreadPc.posting]
    have noEof := (forwarding.working before).1
    exact forwarding.leave before rfl rfl rfl (by simp)
      ⟨by simp [nonzero, noEof], fun _ => .inl ⟨rfl, by simp⟩⟩ fun zero => absurd zero nonzero
  case writeFailed w errno =>
    obtain ⟨⟨here, nonzero, -⟩, rfl⟩ := taken
    have before : s.sendingThread.posting = false := by simp [here, SendingThreadPc.posting]
    have noEof := (forwarding.working before).1
    rw [State.writeFailed, if_neg (by simp [masked.write w here])]
    exact forwarding.leave before rfl rfl rfl (by simp)
      ⟨by simp [nonzero, noEof], fun _ => .inr ⟨rfl, w, by simp⟩⟩ fun zero => absurd zero nonzero
  case dispatchResult r p b =>
    obtain ⟨here, next, -, rfl⟩ := taken
    have truthful := forwarding.posted r (.inl ⟨p, here⟩)
    constructor
    · exact forwarding.read
    · exact forwarding.sent
    · simp
    · simp
    · exact fun eof => forwarding.eof (by simpa using eof)
    · rintro r' (⟨q, posts⟩ | ⟨q, c, member⟩)
      · obtain ⟨rfl, -⟩ := SendingThreadPc.dispatchResult.inj posts
        exact truthful.snoc (by simp)
      · rcases List.mem_append.mp member with earlier | now
        · exact (forwarding.posted r' (.inr ⟨q, c, earlier⟩)).snoc (by simp)
        · obtain ⟨rfl, -⟩ : r' = r ∧ q = p ∧ c = b := by simpa using now
          exact truthful.snoc (by simp)
  all_goals
    obtain ⟨here, rfl⟩ := taken
    exact forwarding.frame rfl rfl (by simp) (by simp)
      (by simp [here, SendingThreadPc.posting, SendingThreadPc.offers]) (by simp)

theorem Forwarding.act {a : Action} (forwarding : Forwarding actions s) (inv : Invariants s)
    (masked : Masked s) (taken : act s a = some s') : Forwarding (actions ++ [a]) s' := by
  cases a with
  | sendingThread a => exact forwarding.sendingThreadRoutine masked taken
  | main a =>
      obtain ⟨stdin, toServer⟩ := act_stdin taken (by simp)
      obtain ⟨-, -, -, -, same | ⟨fresh, created⟩⟩ := usockitClient_frame inv.life taken
      · exact forwarding.frame stdin toServer (by simp) (by simp) (by simp [same]) (by simp [same])
      · exact forwarding.frame stdin toServer (by simp) (by simp)
          (by simp [fresh, created, SendingThreadPc.posting, SendingThreadPc.offers])
          (by simp [created])
  | receivingThread a =>
      obtain ⟨stdin, toServer⟩ := act_stdin taken (by simp)
      have same := (receivingThreadRoutine_cases taken).2.1
      exact forwarding.frame stdin toServer (by simp) (by simp) (by simp [same]) (by simp [same])
  | server a =>
      obtain ⟨stdin, toServer⟩ := act_stdin taken (by simp)
      simp only [Client.act, Option.map_eq_some_iff] at taken
      obtain ⟨socket, -, rfl⟩ := taken
      exact forwarding.frame stdin toServer (by simp) (by simp) (by simp) (by simp)

theorem Forwarding.run (run : system.Run actions s) : Forwarding actions s := by
  refine run.invariant (I := Forwarding) ?_ ?_
  · rintro _ ⟨stdin, rfl⟩
    constructor <;> simp [State.start, SendingThreadPc.posting, SendingThreadPc.offers, Posting]
  · exact fun actions s a s' before forwarding _ step =>
      forwarding.act (Invariants.run before) (Masked.run before) (system_step.mp step).2

/-! ## What is reported to the caller -/

theorem act_stdinBytes {a : Action} (taken : act s a = some s') :
    s'.stdin.bytes = s.stdin.bytes := by
  by_cases other : ∀ b, a ≠ .sendingThread b
  · rw [(act_stdin taken other).1]
  · obtain ⟨b, sending⟩ := not_forall.mp other
    obtain rfl := not_not.mp sending
    cases b <;> simp only [act, sendingThreadRoutine, require_eq_some,
      Option.ite_none_right_eq_some, Option.map_eq_some_iff] at taken
    case dispatchResult r p b =>
      obtain ⟨-, next, -, rfl⟩ := taken
      rfl
    case writeFailed w errno =>
      obtain ⟨-, rfl⟩ := taken
      unfold State.writeFailed
      split <;> rfl
    all_goals
      obtain ⟨-, rfl⟩ := taken
      rfl

theorem stdin_of_exec (path : system.exec (.start stdin) actions = some s) :
    s.stdin.bytes = stdin := by
  refine System.exec_keeps (I := fun s => s.stdin.bytes = stdin) ?_ rfl path
  exact fun s a s' same step => (act_stdinBytes (system_step.mp step).2).trans same

theorem posting_of_mem_posts {r : SendingThreadResult}
    (posted : r.toThreadsResult ∈ posts actions) : Posting actions s r := by
  obtain ⟨a, member, posts⟩ := List.mem_filterMap.mp posted
  unfold Action.posts at posts
  split at posts <;> cases posts
  · exact .inr ⟨_, _, member⟩
  · exact .inr ⟨_, _, member⟩

/-- Only the sending thread's end of file makes main return SUCCESS_EOF. -/
theorem posting_of_successEof {r : ThreadsResult} (posted : r ∈ posts actions)
    (status : r.retStatus = some .successEof) : ∃ sending, sending.status = 0 ∧
      Posting actions s sending := by
  rcases posted_of_mem_posts posted with ⟨sending, rfl⟩ | ⟨receiving, rfl⟩
  · refine ⟨sending, ?_, posting_of_mem_posts posted⟩
    by_contra failed
    cases func : sending.func <;>
      simp [ThreadsResult.retStatus, SendingThreadResult.toThreadsResult, failed, func] at status
  · cases type : receiving.type <;>
      simp [ThreadsResult.retStatus, ReceivingThreadResult.toThreadsResult, type] at status

theorem input_forwarded (path : system.exec (.start stdin) actions = some s) :
    s.socket.toServer <+: stdin ∧
    (∀ r, Posting actions s r →
      (r.status = 0 ↔ .sendingThread .readEof ∈ actions) ∧
      (r.status = 0 → s.socket.toServer = stdin) ∧
      (r.status ≠ 0 →
        (r.func = .read ∧ .sendingThread (.readFailed r.status) ∈ actions) ∨
          (r.func = .write ∧ ∃ w, .sendingThread (.writeFailed w r.status) ∈ actions))) ∧
    (s.main = .returned .successEof → s.socket.toServer = stdin) := by
  have run : system.Run actions s := System.run_of_exec ⟨stdin, rfl⟩ path
  have forwarding := Forwarding.run run
  obtain rfl := stdin_of_exec path
  have whole : ∀ r, Posting actions s r → r.status = 0 → s.socket.toServer = s.stdin.bytes :=
    fun r posting zero => forwarding.eof ((forwarding.posted r posting).eof.mp zero)
  refine ⟨forwarding.sent, fun r posting => ?_, fun returned => ?_⟩
  · obtain ⟨eof, failed⟩ := forwarding.posted r posting
    exact ⟨eof, whole r posting, failed⟩
  · obtain ⟨⟨⟩⟩ | ⟨r, member, status⟩ := (Law.run run).ending _ (.inr returned)
    obtain ⟨sending, zero, posting⟩ := posting_of_successEof member status
    exact whole sending posting zero

theorem input_forwarded_sentAndReturned :
    ∃ s, system.exec (.start [104, 105]) sentAndReturned = some s ∧
      s.socket.toServer = [104, 105] := by
  obtain ⟨s, path, returned⟩ :
      ∃ s, system.exec (.start [104, 105]) sentAndReturned = some s ∧
        s.main = .returned .successEof :=
    System.exists_exec (by decide +kernel)
  exact ⟨s, path, (input_forwarded path).2.2 returned⟩

end Usockit.Client
