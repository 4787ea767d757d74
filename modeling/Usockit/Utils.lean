import Mathlib.Algebra.Group.Nat.Defs
import Mathlib.Data.List.Basic

namespace Usockit

abbrev Byte := UInt8

/-- What a size_t makes of a number. -/
def sizeT (n : Nat) : Nat := n % 2 ^ 64

theorem sizeT_of_lt {n : Nat} (small : n < 2 ^ 64) : sizeT n = n := Nat.mod_eq_of_lt small

inductive RetStatus
  | success | failure
  deriving DecidableEq

/-- The characters of a string literal, without the terminating null. -/
def bytesOf (literal : String) : List Byte :=
  literal.toList.map fun c => UInt8.ofNat c.toNat

/-- A call of `write_all(fd, buf, count)` that is about to call write(). -/
structure WriteAll where
  fd : Nat
  buf : List Byte
  totalWritec : Nat
  deriving DecidableEq

namespace WriteAll

def call (fd : Nat) (buf : List Byte) : WriteAll := ⟨fd, buf, 0⟩

/-- The bytes offered to write(): `buf + total_writec`, `count - total_writec` of them. -/
def offered (w : WriteAll) : List Byte := w.buf.drop w.totalWritec

/-- After write() accepted `k` bytes: the next turn of the loop, if there is one. -/
def accepted (w : WriteAll) (k : Nat) : Option WriteAll :=
  if w.totalWritec + k < w.buf.length then some { w with totalWritec := w.totalWritec + k } else none

@[simp] theorem offered_call (fd : Nat) (buf : List Byte) : (call fd buf).offered = buf := rfl

variable {w w' : WriteAll} {k : Nat}

theorem accepted_fd (next : w.accepted k = some w') : w'.fd = w.fd := by
  simp only [accepted, Option.ite_none_right_eq_some, Option.some.injEq] at next
  rw [← next.2]

theorem offered_of_accepted (next : w.accepted k = some w') :
    w.offered.take k ++ w'.offered = w.offered := by
  simp only [accepted, Option.ite_none_right_eq_some, Option.some.injEq] at next
  obtain ⟨-, rfl⟩ := next
  simp only [offered, ← List.drop_drop]
  exact List.take_append_drop k _

theorem offered_of_accepted_none (last : w.accepted k = none) : w.offered.take k = w.offered := by
  simp only [accepted, ite_eq_right_iff, reduceCtorEq, imp_false] at last
  apply List.take_of_length_le
  simp only [offered, List.length_drop]
  omega

theorem accepted_offered (w : WriteAll) : w.accepted w.offered.length = none := by
  simp only [accepted, offered, List.length_drop, ite_eq_right_iff, reduceCtorEq, imp_false]
  omega

end WriteAll
end Usockit
