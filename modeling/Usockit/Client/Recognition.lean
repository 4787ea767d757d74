import Usockit.Client.RejectionReturn

namespace Usockit.Client
open Foundation

variable {s s' : State} {actions : List Action} {buffer : List Byte}

/-! ## What the receiving thread has read -/

/-- What read() returned to the receiving thread. -/
def Action.readResult : Action → Option (List Byte)
  | .receivingThread (.received buffer) => some buffer
  | _ => none

def readResults (actions : List Action) : List (List Byte) := actions.filterMap Action.readResult

def Skipped (buffer : List Byte) : Prop := buffer ≠ [] ∧ buffer ≠ fuckOffString

/-- The server has sent the rejection and closed the connection, and the calls of read() return
`frags` and then 0 bytes, and none of them fails. -/
structure Delivers (frags : List (List Byte)) (actions : List Action) (s : State) : Prop where
  sent : s.socket.fromServer.bytes = fuckOffString
  closed : s.socket.serverClosed = true
  reads : readResults actions <+: frags ++ [[]]
  noFailure : ∀ errno, .receivingThread (.readFailed errno) ∉ actions

def State.LeftLoop (s : State) : Prop :=
  s.receivingThread = .abort ∨ ∃ r p, s.receivingThread = .post r p

def State.LeftWithFuckOff (s : State) : Prop :=
  ∃ readErrno p, s.receivingThread = .post ⟨.fuckOff, readErrno⟩ p

theorem readResults_snoc (a : Action) :
    readResults (actions ++ [a]) = readResults actions ++ a.readResult.toList := by
  cases h : a.readResult <;> simp [readResults, h]

/-! ## The loop -/

/-- Where the results of read() have brought the receiving thread. -/
structure ReadLoop (actions : List Action) (s : State) : Prop where
  unstarted : s.receivingThread = .notCreated ∨ s.receivingThread = .freeArg →
    readResults actions = []
  reading : s.receivingThread = .read → ∀ b ∈ readResults actions, Skipped b
  aborted : s.receivingThread = .abort →
    ∃ earlier, readResults actions = earlier ++ [[]] ∧ ∀ b ∈ earlier, Skipped b
  fuckOff : ∀ readErrno p, s.receivingThread = .post ⟨.fuckOff, readErrno⟩ p →
    ∃ earlier, readResults actions = earlier ++ [fuckOffString] ∧ ∀ b ∈ earlier, Skipped b
  failed : ∀ errno p, s.receivingThread = .post ⟨.readFailure, errno⟩ p →
    .receivingThread (.readFailed errno) ∈ actions

theorem ReceivingThreadPc.afterRead_cases (buffer : List Byte) :
    (buffer = fuckOffString ∧ afterRead buffer = .post fuckOffResult .lock) ∨
      (buffer = [] ∧ afterRead buffer = .abort) ∨
      (Skipped buffer ∧ afterRead buffer = .read) := by
  by_cases whole : buffer = fuckOffString
  · exact .inl ⟨whole, whole ▸ rfl⟩
  · by_cases empty : buffer = []
    · exact .inr (.inl ⟨empty, afterRead_eq_abort.mpr empty⟩)
    · exact .inr (.inr ⟨⟨empty, whole⟩, by simp [afterRead, whole, empty]⟩)

theorem ReadLoop.frame {a : Action} (loop : ReadLoop actions s) (noRead : a.readResult = none)
    (receiving : s'.receivingThread = s.receivingThread) : ReadLoop (actions ++ [a]) s' := by
  have same : readResults (actions ++ [a]) = readResults actions := by
    simp [readResults_snoc, noRead]
  constructor <;> rw [receiving] <;> try rw [same]
  · exact loop.unstarted
  · exact loop.reading
  · exact loop.aborted
  · exact loop.fuckOff
  · exact fun errno p here => List.mem_append_left _ (loop.failed errno p here)

theorem ReadLoop.receivingThreadRoutine {a : ReceivingThreadAction} (loop : ReadLoop actions s)
    (taken : receivingThreadRoutine s a = some s') :
    ReadLoop (actions ++ [.receivingThread a]) s' := by
  cases a <;> simp only [Client.receivingThreadRoutine, require_eq_some,
    Option.ite_none_right_eq_some, Option.map_eq_some_iff] at taken
  case received buffer =>
    obtain ⟨⟨here, -⟩, rfl⟩ := taken
    have skipped := loop.reading here
    have results : readResults (actions ++ [.receivingThread (.received buffer)]) =
        readResults actions ++ [buffer] := by
      simp [readResults_snoc, Action.readResult]
    rcases ReceivingThreadPc.afterRead_cases buffer with ⟨rfl, after⟩ | ⟨rfl, after⟩ | ⟨skip, after⟩
    · constructor <;> simp only [after, fuckOffResult] <;> try simp
      exact ⟨_, results, skipped⟩
    · constructor <;> simp only [after] <;> try simp
      exact ⟨_, results, skipped⟩
    · constructor <;> simp only [after] <;> try simp
      rw [results]
      simpa [or_imp, forall_and] using ⟨skipped, skip⟩
  case readFailed errno =>
    obtain ⟨-, rfl⟩ := taken
    constructor <;> simp
  case abort =>
    obtain ⟨-, rfl⟩ := taken
    exact loop.frame rfl rfl
  case freeArg =>
    obtain ⟨here, rfl⟩ := taken
    have nothing : readResults (actions ++ [.receivingThread .freeArg]) = [] := by
      simp [readResults_snoc, Action.readResult, loop.unstarted (.inr here)]
    constructor <;> simp [nothing]
  case post r p b =>
    obtain ⟨here, next, -, rfl⟩ := taken
    have same : readResults (actions ++ [.receivingThread (.post r p b)]) = readResults actions := by
      simp [readResults_snoc, Action.readResult]
    constructor <;> try simp
    · rintro readErrno rfl
      rw [same]
      exact loop.fuckOff readErrno p here
    · rintro errno rfl
      exact loop.failed errno p here
  all_goals
    obtain ⟨-, rfl⟩ := taken
    constructor <;> simp

theorem ReadLoop.run (run : system.Run actions s) : ReadLoop actions s := by
  refine run.invariant (I := ReadLoop) ?_ ?_
  · rintro _ ⟨stdin, rfl⟩
    constructor <;> simp [State.start, readResults]
  · intro actions s a s' before loop _ step
    have taken := (system_step.mp step).2
    cases a with
    | receivingThread a => exact loop.receivingThreadRoutine taken
    | sendingThread a => exact loop.frame rfl (sendingThreadRoutine_cases taken).2.1
    | server a =>
        simp only [act, Option.map_eq_some_iff] at taken
        obtain ⟨socket, -, rfl⟩ := taken
        exact loop.frame rfl rfl
    | main a =>
        obtain ⟨-, -, -, same | ⟨fresh, created⟩, -⟩ :=
          usockitClient_frame (Invariants.run before).life taken
        · exact loop.frame rfl same
        · have nothing : readResults (actions ++ [.main a]) = [] := by
            simpa [readResults_snoc, Action.readResult] using loop.unstarted (.inl fresh)
          constructor <;> simp [created, nothing]

/-! ## The stream -/

/-- What has been read and what is unread make up what the server has sent. -/
structure ReadStream (actions : List Action) (s : State) : Prop where
  bytes : (readResults actions).flatten ++ s.socket.fromServer.unread = s.socket.fromServer.bytes
  read : s.socket.fromServer.readc ≤ s.socket.fromServer.bytes.length

theorem Stream.unread_read (stream : Stream) (k : Nat) :
    (stream.read k).unread = stream.unread.drop k := by
  simp [unread, read]

theorem Stream.read_prefix {stream : Stream} (front : buffer <+: stream.unread) :
    buffer ++ (stream.read buffer.length).unread = stream.unread := by
  obtain ⟨rest, same⟩ := front
  rw [unread_read, ← same, List.drop_left]

/-- The server adds to the stream, and the receiving thread takes from it. -/
theorem act_fromServer {a : Action} (taken : act s a = some s') :
    (∃ buffer, a = .receivingThread (.received buffer) ∧
      buffer <+: s.socket.fromServer.unread ∧
      s'.socket.fromServer = s.socket.fromServer.read buffer.length) ∨
    (∃ bytes, a = .server (.send bytes) ∧ s'.socket.fromServer =
      { s.socket.fromServer with bytes := s.socket.fromServer.bytes ++ bytes }) ∨
    (a.readResult = none ∧ s'.socket.fromServer = s.socket.fromServer) := by
  cases a with
  | main a =>
      cases a <;> simp only [act, usockitClient, require_eq_some, Option.ite_none_right_eq_some,
        Option.map_eq_some_iff] at taken
      case exit op rest copied =>
        obtain ⟨-, next, exited, rfl⟩ := taken
        rcases exitOp_cases exited with ⟨t, -, rfl⟩ | ⟨-, rfl⟩ | ⟨-, -, -, rfl⟩ <;>
          exact .inr (.inr ⟨rfl, rfl⟩)
      all_goals
        obtain ⟨-, rfl⟩ := taken
        exact .inr (.inr ⟨rfl, rfl⟩)
  | receivingThread a =>
      cases a <;> simp only [act, receivingThreadRoutine, require_eq_some,
        Option.ite_none_right_eq_some, Option.map_eq_some_iff] at taken
      case received buffer =>
        obtain ⟨⟨-, front, -⟩, rfl⟩ := taken
        exact .inl ⟨buffer, rfl, front, rfl⟩
      case post r p b =>
        obtain ⟨-, next, -, rfl⟩ := taken
        exact .inr (.inr ⟨rfl, rfl⟩)
      all_goals
        obtain ⟨-, rfl⟩ := taken
        exact .inr (.inr ⟨rfl, rfl⟩)
  | sendingThread a =>
      cases a <;> simp only [act, sendingThreadRoutine, require_eq_some,
        Option.ite_none_right_eq_some, Option.map_eq_some_iff] at taken
      case dispatchResult r p b =>
        obtain ⟨-, next, -, rfl⟩ := taken
        exact .inr (.inr ⟨rfl, rfl⟩)
      case writeFailed w errno =>
        obtain ⟨-, rfl⟩ := taken
        unfold State.writeFailed
        split <;> exact .inr (.inr ⟨rfl, rfl⟩)
      all_goals
        obtain ⟨-, rfl⟩ := taken
        exact .inr (.inr ⟨rfl, rfl⟩)
  | server a =>
      cases a <;> simp only [act, server, Option.map_eq_some_iff, require_eq_some] at taken <;>
        obtain ⟨socket, ⟨-, rfl⟩, rfl⟩ := taken
      case send bytes => exact .inr (.inl ⟨bytes, rfl, rfl⟩)
      case close => exact .inr (.inr ⟨rfl, rfl⟩)

theorem ReadStream.run (run : system.Run actions s) : ReadStream actions s := by
  refine run.invariant (I := ReadStream) ?_ ?_
  · rintro _ ⟨stdin, rfl⟩
    constructor <;> simp [State.start, readResults, Stream.unread]
  · intro actions s a s' _ stream _ step
    have read := stream.read
    rcases act_fromServer (system_step.mp step).2 with
      ⟨buffer, rfl, front, fromServer⟩ | ⟨bytes, rfl, fromServer⟩ | ⟨noRead, fromServer⟩ <;>
      constructor <;> rw [fromServer]
    · simp only [readResults_snoc, Action.readResult, Option.toList_some, List.flatten_append,
        List.flatten_singleton, List.append_assoc, Stream.read_prefix front]
      exact stream.bytes
    · have fits := front.length_le
      simp only [Stream.unread, List.length_drop] at fits
      simp only [Stream.read]
      omega
    · simp only [Stream.unread, List.drop_append_of_le_length read]
      simpa [readResults_snoc, Action.readResult, Stream.unread, ← List.append_assoc]
        using stream.bytes
    · simp only [List.length_append]
      omega
    · simpa [readResults_snoc, noRead] using stream.bytes
    · exact read

/-! ## Every way of splitting the rejection -/

variable {frags rest : List (List Byte)}

theorem Delivers.received (run : system.Run actions s) (delivers : Delivers frags actions s)
    (here : s.receivingThread = .read) (front : buffer <+: s.socket.fromServer.unread)
    (atEnd : buffer = [] → s.socket.fromServer.unread = [])
    (next : readResults actions ++ [buffer] <+: frags ++ [[]]) :
    ∃ t, system.exec s [.receivingThread (.received buffer)] = some t ∧
      t.receivingThread = .afterRead buffer ∧
      Delivers frags (actions ++ [.receivingThread (.received buffer)]) t := by
  have short : buffer.length ≤ fuckOffStringSize := by
    have unread := front.length_le
    simp only [Stream.unread, delivers.sent, List.length_drop] at unread
    exact Nat.le_trans unread (Nat.sub_le _ _)
  have taken : act s (.receivingThread (.received buffer)) = some { s with
      receivingThread := .afterRead buffer
      socket := { s.socket with fromServer := s.socket.fromServer.read buffer.length } } :=
    require_eq_some.mpr ⟨⟨here, front, short, fun empty => ⟨atEnd empty, delivers.closed⟩⟩, rfl⟩
  have running := running_of_not_abort run (by simp [here])
  refine ⟨_, System.exec_singleton (system_step.mpr ⟨running, taken⟩), rfl, ?_⟩
  constructor
  · exact delivers.sent
  · exact delivers.closed
  · simpa [readResults_snoc, Action.readResult] using next
  · simpa using delivers.noFailure

theorem leaves_of_reading (run : system.Run actions s) (delivers : Delivers frags actions s)
    (stream : frags.flatten = fuckOffString) (pieces : ∀ b ∈ frags, b ≠ [])
    (here : s.receivingThread = .read) (reads : readResults actions ++ rest = frags) :
    ∃ more t, system.exec s more = some t ∧ Delivers frags (actions ++ more) t ∧ t.LeftLoop := by
  have unread : s.socket.fromServer.unread = rest.flatten := by
    have bytes := (ReadStream.run run).bytes
    rw [delivers.sent, ← stream, ← reads, List.flatten_append] at bytes
    exact List.append_cancel_left bytes
  induction rest generalizing actions s with
  | nil =>
      have next : readResults actions ++ [[]] <+: frags ++ [[]] := by simp [← reads]
      obtain ⟨t, path, after, delivers⟩ :=
        delivers.received run here List.nil_prefix (fun _ => unread) next
      exact ⟨_, t, path, delivers, .inl after⟩
  | cons b rest ih =>
      have nonempty : b ≠ [] := pieces b (by simp [← reads])
      have next : readResults actions ++ [b] <+: frags ++ [[]] := by simp [← reads]
      obtain ⟨t, path, after, delivers⟩ :=
        delivers.received run here (by simp [unread]) (fun empty => absurd empty nonempty) next
      rcases ReceivingThreadPc.afterRead_cases b with ⟨-, posts⟩ | ⟨empty, -⟩ | ⟨-, reading⟩
      · exact ⟨_, t, path, delivers, .inr ⟨_, _, after.trans posts⟩⟩
      · exact absurd empty nonempty
      · have later := System.run_exec run path
        have reads' : readResults (actions ++ [.receivingThread (.received b)]) ++ rest = frags := by
          simpa [readResults_snoc, Action.readResult] using reads
        have unread' : t.socket.fromServer.unread = rest.flatten := by
          have bytes := (ReadStream.run later).bytes
          rw [delivers.sent, ← stream, ← reads', List.flatten_append] at bytes
          exact List.append_cancel_left bytes
        obtain ⟨more, u, onward, delivers, left⟩ :=
          ih later delivers (after.trans reading) reads' unread'
        exact ⟨_, u, System.exec_trans path onward, by simpa using delivers, left⟩

theorem leaves_the_loop (run : system.Run actions s) (delivers : Delivers frags actions s)
    (stream : frags.flatten = fuckOffString) (pieces : ∀ b ∈ frags, b ≠ [])
    (here : s.receivingThread = .read) :
    ∃ more t, system.exec s more = some t ∧ Delivers frags (actions ++ more) t ∧ t.LeftLoop := by
  have skipped := (ReadLoop.run run).reading here
  rcases List.prefix_concat_iff.mp delivers.reads with all | ⟨rest, reads⟩
  · exact absurd rfl (skipped [] (by simp [all])).1
  · exact leaves_of_reading run delivers stream pieces here reads

theorem eq_singleton_of_mem_flatten {whole : List Byte} (stream : frags.flatten = whole)
    (pieces : ∀ b ∈ frags, b ≠ []) (member : whole ∈ frags) : frags = [whole] := by
  obtain ⟨before, after, rfl⟩ := List.append_of_mem member
  have alone : before.flatten = [] ∧ after.flatten = [] := by
    have lengths := congrArg List.length stream
    simp only [List.flatten_append, List.flatten_cons, List.length_append] at lengths
    constructor <;> apply List.eq_nil_of_length_eq_zero <;> omega
  have none : ∀ part : List (List Byte), part.flatten = [] → (∀ b ∈ part, b ≠ []) → part = [] := by
    intro part empty nonempty
    refine List.eq_nil_iff_forall_not_mem.mpr fun b here => nonempty b here ?_
    exact List.flatten_eq_nil_iff.mp empty b here
  rw [none before alone.1 fun b here => pieces b (by simp [here]),
    none after alone.2 fun b here => pieces b (by simp [here]), List.nil_append]

theorem leftWithFuckOff_of_whole (run : system.Run actions s)
    (delivers : Delivers [fuckOffString] actions s) (left : s.LeftLoop) : s.LeftWithFuckOff := by
  have loop := ReadLoop.run run
  rcases left with aborted | ⟨⟨type, readErrno⟩, p, posts⟩
  · obtain ⟨earlier, reads, skipped⟩ := loop.aborted aborted
    have front := delivers.reads
    rw [reads] at front
    cases earlier with
    | nil => exact absurd front (by decide)
    | cons b earlier =>
        obtain ⟨rfl, -⟩ := List.cons_prefix_cons.mp front
        exact absurd rfl (skipped _ List.mem_cons_self).2
  · cases type with
    | fuckOff => exact ⟨readErrno, p, posts⟩
    | readFailure => exact absurd (loop.failed readErrno p posts) (delivers.noFailure readErrno)

/-- Both threads wait in read() when the rejection and the end of the stream arrive. -/
def rejectedAtStart : List Action := startUp ++ rejects

theorem exists_delivery (frags : List (List Byte)) :
    ∃ s, system.Run rejectedAtStart s ∧ Delivers frags rejectedAtStart s ∧
      s.receivingThread = .read := by
  obtain ⟨s, path, reading, sent, closed⟩ :
      ∃ s, system.exec (.start []) rejectedAtStart = some s ∧ s.receivingThread = .read ∧
        s.socket.fromServer.bytes = fuckOffString ∧ s.socket.serverClosed = true :=
    System.exists_exec (by decide +kernel)
  have nothing : readResults rejectedAtStart = [] := by decide
  refine ⟨s, System.run_of_exec ⟨_, rfl⟩ path, ⟨sent, closed, ?_, ?_⟩, reading⟩
  · rw [nothing]
    exact List.nil_prefix
  · simp [rejectedAtStart, startUp, rejects]

theorem rejection_recognized_iff (stream : frags.flatten = fuckOffString)
    (pieces : ∀ b ∈ frags, b ≠ []) :
    (∀ actions s, system.Run actions s → Delivers frags actions s → s.receivingThread = .read →
      ∃ more t, system.exec s more = some t ∧ Delivers frags (actions ++ more) t ∧ t.LeftLoop) ∧
    ((∀ actions s, system.Run actions s → Delivers frags actions s → s.LeftLoop →
      s.LeftWithFuckOff) ↔ frags = [fuckOffString]) := by
  refine ⟨fun actions s run delivers => leaves_the_loop run delivers stream pieces, ?_, ?_⟩
  · intro recognized
    obtain ⟨s, run, delivers, reading⟩ := exists_delivery frags
    obtain ⟨more, t, path, delivers, left⟩ := leaves_the_loop run delivers stream pieces reading
    have run := System.run_exec run path
    obtain ⟨readErrno, p, posts⟩ := recognized _ t run delivers left
    obtain ⟨earlier, reads, -⟩ := (ReadLoop.run run).fuckOff readErrno p posts
    have member : fuckOffString ∈ frags ++ [[]] :=
      delivers.reads.subset (by simp [reads])
    refine eq_singleton_of_mem_flatten stream pieces ?_
    exact (List.mem_append.mp member).resolve_right (by decide)
  · rintro rfl actions s run delivers left
    exact leftWithFuckOff_of_whole run delivers left

theorem rejection_recognized_whole :
    ∃ more t, system.Run (rejectedAtStart ++ more) t ∧ t.LeftWithFuckOff := by
  obtain ⟨s, run, delivers, reading⟩ := exists_delivery [fuckOffString]
  have recognized :=
    rejection_recognized_iff (rfl : [fuckOffString].flatten = fuckOffString) (by decide)
  obtain ⟨more, t, path, delivers, left⟩ := recognized.1 _ s run delivers reading
  exact ⟨more, t, System.run_exec run path,
    recognized.2.mpr rfl _ t (System.run_exec run path) delivers left⟩

def splitRejection : List (List Byte) := [bytesOf "fuck", bytesOf " off"]

def readsSplit : List Action :=
  rejectedAtStart ++ (splitRejection ++ [[]]).map (fun b => .receivingThread (.received b)) ++
    [.receivingThread .abort]

theorem split_rejection_unrecognized :
    splitRejection.flatten = fuckOffString ∧ (∀ b ∈ splitRejection, 1 ≤ b.length ∧ b.length ≤ 8) ∧
    readResults readsSplit = splitRejection ++ [[]] ∧
    ∃ s, system.Run readsSplit s ∧ Delivers splitRejection readsSplit s ∧ s.LeftLoop ∧
      ¬ s.LeftWithFuckOff ∧ s.fate = .aborted := by
  have reads : readResults readsSplit = splitRejection ++ [[]] := by decide
  obtain ⟨s, path, aborts, sent, closed, aborted⟩ :
      ∃ s, system.exec (.start []) readsSplit = some s ∧ s.receivingThread = .abort ∧
        s.socket.fromServer.bytes = fuckOffString ∧ s.socket.serverClosed = true ∧
        s.fate = .aborted :=
    System.exists_exec (by decide +kernel)
  refine ⟨by decide, by decide, reads, s, System.run_of_exec ⟨_, rfl⟩ path,
    ⟨sent, closed, ?_, ?_⟩, .inl aborts, ?_, aborted⟩
  · exact reads ▸ List.prefix_refl _
  · simp [readsSplit, rejectedAtStart, startUp, rejects]
  · rintro ⟨readErrno, p, posts⟩
    simp [aborts] at posts

end Usockit.Client
