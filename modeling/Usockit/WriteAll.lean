import Usockit.Foundation.TransitionSystem
import Usockit.Utils

namespace Usockit.WriteAll
open Foundation

/-- A buffer in memory: it has fewer bytes than a size_t can count. -/
structure Buffer where
  bytes : List Byte
  addressable : bytes.length < 2 ^ 64

def Buffer.count (buf : Buffer) : Nat := buf.bytes.length

/-- `tmp_writec`, and errno after the call of write(). -/
structure Write where
  writec : Int
  errno : Nat
  deriving DecidableEq

/-- What write() can return when it is asked to write `n` bytes. -/
def Write.Answers (w : Write) (n : Nat) : Prop := w.writec = -1 ∨ 0 ≤ w.writec ∧ w.writec ≤ n

instance (w : Write) (n : Nat) : Decidable (w.Answers n) := inferInstanceAs (Decidable (_ ∨ _))

/-- Before a call of write() or after the return. `accepted` is what the calls have accepted. -/
structure State where
  totalWritec : Nat
  errno : Nat
  accepted : List Byte
  returned : Option RetStatus
  deriving DecidableEq

variable (buf : Buffer) (s : State)

def State.offeredCount : Nat := sizeT (buf.count + 2 ^ 64 - s.totalWritec)

def State.offered : List Byte := (buf.bytes.drop s.totalWritec).take (s.offeredCount buf)

def State.afterWrite (w : Write) : State :=
  if w.writec < 0 then { s with errno := w.errno, returned := some .failure }
  else
    let totalWritec := sizeT (s.totalWritec + w.writec.toNat)
    { totalWritec := totalWritec
      errno := w.errno
      accepted := s.accepted ++ (s.offered buf).take w.writec.toNat
      returned := if totalWritec < buf.count then none else some .success }

def writeAll (w : Write) : Option State :=
  require (s.returned = none ∧ w.Answers (s.offeredCount buf)) (s.afterWrite buf w)

def system : System State Write where
  initial s := ∃ errno, s = ⟨0, errno, [], none⟩
  step := writeAll buf

/-- write() does not return 0 when it is asked to write some bytes. -/
def MakesProgress (w : Write) : Prop := 0 < s.offeredCount buf → w.writec ≠ 0

/-! ## The loop -/

variable {buf : Buffer} {s s' : State} {w : Write} {actions : List Write}

structure Loop (buf : Buffer) (actions : List Write) (s : State) : Prop where
  total : s.totalWritec ≤ buf.count
  accepted : s.accepted = buf.bytes.take s.totalWritec
  going : s.returned = none → s.totalWritec < buf.count ∨ buf.count = 0
  success : s.returned = some .success → s.totalWritec = buf.count
  failure : s.returned = some .failure →
    (s.totalWritec < buf.count ∨ buf.count = 0) ∧ ∃ earlier, actions = earlier ++ [⟨-1, s.errno⟩]

theorem State.offeredCount_eq (total : s.totalWritec ≤ buf.count) :
    s.offeredCount buf = buf.count - s.totalWritec := by
  have small : buf.count < 2 ^ 64 := buf.addressable
  simp only [offeredCount, sizeT]
  omega

theorem State.offered_eq (total : s.totalWritec ≤ buf.count) :
    s.offered buf = buf.bytes.drop s.totalWritec := by
  rw [offered, offeredCount_eq total]
  exact List.take_of_length_le (by simp [Buffer.count])

theorem writeAll_cases (total : s.totalWritec ≤ buf.count) (taken : writeAll buf s w = some s') :
    s.returned = none ∧
    ((w.writec = -1 ∧ s' = { s with errno := w.errno, returned := some .failure }) ∨
      ∃ k : Nat, w.writec = k ∧ s.totalWritec + k ≤ buf.count ∧ s' =
        { totalWritec := s.totalWritec + k
          errno := w.errno
          accepted := s.accepted ++ (buf.bytes.drop s.totalWritec).take k
          returned := if s.totalWritec + k < buf.count then none else some .success }) := by
  obtain ⟨⟨going, answers⟩, rfl⟩ := require_eq_some.mp taken
  refine ⟨going, ?_⟩
  rcases answers with failed | ⟨written, most⟩
  · exact .inl ⟨failed, by simp [State.afterWrite, failed]⟩
  · obtain ⟨k, writec⟩ := Int.eq_ofNat_of_zero_le written
    have inside : s.totalWritec + k ≤ buf.count := by
      rw [State.offeredCount_eq total] at most
      omega
    have small : s.totalWritec + k < 2 ^ 64 := Nat.lt_of_le_of_lt inside buf.addressable
    refine .inr ⟨k, writec, inside, ?_⟩
    simp [State.afterWrite, writec, State.offered_eq total, sizeT_of_lt small]

theorem Loop.writeAll (loop : Loop buf actions s) (taken : writeAll buf s w = some s') :
    Loop buf (actions ++ [w]) s' := by
  obtain ⟨going, ⟨failed, rfl⟩ | ⟨k, -, inside, rfl⟩⟩ := writeAll_cases loop.total taken
  · refine ⟨loop.total, loop.accepted, nofun, nofun, fun _ => ⟨loop.going going, actions, ?_⟩⟩
    rw [← failed]
  · constructor
    case total => exact inside
    case accepted => simp only [loop.accepted, List.take_add]
    case going =>
      intro more
      exact .inl (by simpa using more)
    case success =>
      intro done
      exact Nat.le_antisymm inside (by simpa using done)
    case failure => simp

theorem Loop.run (run : (system buf).Run actions s) : Loop buf actions s := by
  refine run.invariant (I := Loop buf) ?_ ?_
  · rintro _ ⟨errno, rfl⟩
    exact ⟨Nat.zero_le _, rfl, fun _ => (Nat.eq_zero_or_pos _).symm, nofun, nofun⟩
  · exact fun actions s w s' _ loop _ step => loop.writeAll step

/-! ## The calls that are left -/

/-- At most so many calls of write() that make progress are left. -/
def State.callsLeft (buf : Buffer) (s : State) : Nat :=
  if s.returned = none then max (buf.count - s.totalWritec) 1 else 0

theorem writeAll_callsLeft (loop : Loop buf actions s) (progress : MakesProgress buf s w)
    (taken : writeAll buf s w = some s') : s'.callsLeft buf < s.callsLeft buf := by
  obtain ⟨going, ⟨-, rfl⟩ | ⟨k, writec, inside, rfl⟩⟩ := writeAll_cases loop.total taken
  · simp only [State.callsLeft, going, reduceCtorEq, if_true, if_false]
    omega
  · rw [MakesProgress, State.offeredCount_eq loop.total, writec] at progress
    by_cases more : s.totalWritec + k < buf.count
    · simp only [State.callsLeft, going, more, if_true]
      omega
    · simp only [State.callsLeft, going, more, reduceCtorEq, if_true, if_false]
      omega

theorem calls_le (run : (system buf).RunWhere (MakesProgress buf) actions s) :
    actions.length + s.callsLeft buf ≤ max buf.count 1 := by
  refine run.length_add_rank_le (State.callsLeft buf) ?_ ?_
  · rintro _ ⟨errno, rfl⟩
    simp [State.callsLeft]
  · exact fun actions s w s' run progress step =>
      writeAll_callsLeft (Loop.run run.run) progress step

/-! ## What a call of write_all does -/

theorem write_all_once (run : (system buf).Run actions s) :
    (s.totalWritec = s.accepted.length ∧ s.totalWritec ≤ buf.count) ∧
    (s.returned = none →
      s.offeredCount buf = buf.count - s.accepted.length ∧
      s.totalWritec + s.offeredCount buf = buf.count ∧
      s.offered buf = buf.bytes.drop s.accepted.length ∧
      ∀ w : Write, w.Answers (s.offeredCount buf) → ∃ s', (system buf).step s w = some s') ∧
    (s.returned = some .success → s.accepted = buf.bytes) ∧
    (s.returned = some .failure →
      s.accepted <+: buf.bytes ∧ (0 < buf.count → s.accepted.length < buf.count) ∧
      ∃ earlier, actions = earlier ++ [⟨-1, s.errno⟩]) ∧
    ((system buf).RunWhere (MakesProgress buf) actions s →
      actions.length ≤ max buf.count 1 ∧
      (s.returned = none → actions.length < max buf.count 1)) := by
  have loop := Loop.run run
  have length : s.accepted.length = s.totalWritec := by
    rw [loop.accepted]
    exact List.length_take_of_le loop.total
  refine ⟨⟨length.symm, loop.total⟩, fun going => ⟨?_, ?_, ?_, ?_⟩, fun success => ?_,
    fun failure => ⟨?_, fun some_byte => ?_, (loop.failure failure).2⟩, fun progress => ?_⟩
  · rw [State.offeredCount_eq loop.total, length]
  · rw [State.offeredCount_eq loop.total]
    exact Nat.add_sub_cancel' loop.total
  · rw [State.offered_eq loop.total, length]
  · exact fun w answers => ⟨_, require_eq_some.mpr ⟨⟨going, answers⟩, rfl⟩⟩
  · rw [loop.accepted, loop.success success]
    exact List.take_length
  · rw [loop.accepted]
    exact List.take_prefix _ _
  · rw [length]
    exact (loop.failure failure).1.resolve_right (Nat.ne_of_gt some_byte)
  · have bound := calls_le progress
    refine ⟨by omega, fun going => ?_⟩
    simp only [State.callsLeft, going, if_true] at bound
    omega

/-- "hello", which is written in two parts. -/
def hello : Buffer := ⟨bytesOf "hello", by decide⟩

theorem write_all_once_hello :
    ∃ s, (system hello).Run [⟨2, 0⟩, ⟨3, 0⟩] s ∧ s.returned = some .success ∧
      s.accepted = bytesOf "hello" := by
  obtain ⟨s, path, success⟩ :
      ∃ s, (system hello).exec ⟨0, 4, [], none⟩ [⟨2, 0⟩, ⟨3, 0⟩] = some s ∧
        s.returned = some .success :=
    System.exists_exec (by decide)
  have run : (system hello).Run [⟨2, 0⟩, ⟨3, 0⟩] s := System.run_of_exec ⟨4, rfl⟩ path
  exact ⟨s, run, success, (write_all_once run).2.2.1 success⟩

end Usockit.WriteAll
