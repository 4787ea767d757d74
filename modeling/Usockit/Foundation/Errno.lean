import Mathlib.Data.List.Basic

namespace Foundation.Errno

/-- The statements between a failed call and the perror() that reports it, as far as errno is
concerned. -/
inductive Statement (φ : Type*)
  | call (f : φ)
  | push | pop
  | assign (value : Nat)
  deriving DecidableEq

/-- errno of one thread, and the values that are saved in the scopes that are open. -/
@[ext] structure Cell where
  errno : Nat
  saved : List Nat

variable {φ : Type*} {statements more : List (Statement φ)} {calls : List φ} {c d : Cell}
variable {value before after : Nat}

/-- A call leaves any value in errno. -/
def Executes : List (Statement φ) → Cell → Cell → Prop
  | [], c, d => c = d
  | .call _ :: rest, c, d => ∃ value, Executes rest ⟨value, c.saved⟩ d
  | .push :: rest, c, d => Executes rest ⟨c.errno, c.errno :: c.saved⟩ d
  | .pop :: rest, c, d => ∃ value saved, c.saved = value :: saved ∧ Executes rest ⟨value, saved⟩ d
  | .assign value :: rest, c, d => Executes rest ⟨value, c.saved⟩ d

attribute [simp] Executes.eq_1 Executes.eq_2 Executes.eq_3 Executes.eq_4 Executes.eq_5

theorem executes_append : Executes (statements ++ more) c d ↔
    ∃ middle, Executes statements c middle ∧ Executes more middle d := by
  induction statements generalizing c with
  | nil => simp
  | cons statement rest ih =>
      cases statement with
      | call f =>
          simp only [List.cons_append, Executes, ih]
          exact exists_comm.trans (exists_congr fun _ => exists_and_right)
      | push | assign => exact ih
      | pop =>
          simp only [List.cons_append, Executes, ih]
          constructor
          · rintro ⟨value, saved, here, middle, first, second⟩
            exact ⟨middle, ⟨value, saved, here, first⟩, second⟩
          · rintro ⟨middle, ⟨value, saved, here, first⟩, second⟩
            exact ⟨value, saved, here, middle, first, second⟩

theorem executes_calls : Executes (calls.map .call) c d ↔
    d.saved = c.saved ∧ (calls = [] → d.errno = c.errno) := by
  induction calls generalizing c with
  | nil => simp [Cell.ext_iff, and_comm, eq_comm]
  | cons f rest ih =>
      simp only [List.map_cons, Executes, ih]
      constructor
      · rintro ⟨value, saved, -⟩
        exact ⟨saved, nofun⟩
      · rintro ⟨saved, -⟩
        exact ⟨d.errno, saved, fun _ => rfl⟩

/-! ## Saving errno around calls -/

/-- What errno_push() and errno_pop() make of these calls. -/
def saving (calls : List φ) : List (Statement φ) := .push :: calls.map .call ++ [.pop]

theorem executes_saving : Executes (saving calls) c d ↔ c = d := by
  simp only [saving, List.cons_append, Executes, executes_append, executes_calls]
  constructor
  · rintro ⟨middle, ⟨saved, -⟩, value, rest, popped, rfl⟩
    obtain ⟨rfl, rfl⟩ := List.cons.inj (saved.symm.trans popped)
    rfl
  · rintro rfl
    exact ⟨⟨c.errno, c.errno :: c.saved⟩, ⟨rfl, fun _ => rfl⟩, c.errno, c.saved, rfl, rfl⟩

/-! ## What perror() sees -/

/-- Where errno is `before`, perror() may see `after` when the statements have been executed. -/
def Leaves (statements : List (Statement φ)) (before after : Nat) : Prop :=
  Executes statements ⟨before, []⟩ ⟨after, []⟩

@[simp] theorem leaves_nil : Leaves ([] : List (Statement φ)) before after ↔ after = before := by
  simp [Leaves, eq_comm]

@[simp] theorem leaves_assign :
    Leaves (.assign value :: statements) before after ↔ Leaves statements value after := Iff.rfl

@[simp] theorem leaves_saving : Leaves (saving calls) before after ↔ after = before := by
  simp [Leaves, executes_saving, eq_comm]

/-- Nothing but the last assignment counts. -/
theorem eq_of_leaves_assign (leaves : Leaves (statements ++ [.assign value]) before after) :
    after = value := by
  obtain ⟨middle, -, last⟩ := executes_append.mp leaves
  exact (congrArg Cell.errno last).symm

def Statement.Plain : Statement φ → Prop
  | .call _ | .assign _ => True
  | .push | .pop => False

theorem executes_plain (plain : ∀ statement ∈ statements, statement.Plain) :
    ∃ d, Executes statements c d ∧ d.saved = c.saved := by
  induction statements generalizing c with
  | nil => exact ⟨c, rfl, rfl⟩
  | cons statement rest ih =>
      obtain ⟨here, later⟩ := List.forall_mem_cons.mp plain
      cases statement with
      | call f =>
          obtain ⟨d, executes, saved⟩ := ih (c := c) later
          exact ⟨d, ⟨c.errno, executes⟩, saved⟩
      | assign value => exact ih (c := ⟨value, c.saved⟩) later
      | push | pop => exact here.elim

theorem leaves_calls (some_call : calls ≠ []) (before after : Nat) :
    Leaves (calls.map .call) before after :=
  executes_calls.mpr ⟨rfl, fun none => absurd none some_call⟩

theorem leaves_call {f : φ} (plain : ∀ statement ∈ statements, statement.Plain)
    (before after : Nat) : Leaves (statements ++ [.call f]) before after := by
  obtain ⟨d, executes, saved⟩ := executes_plain (c := ⟨before, []⟩) plain
  exact executes_append.mpr ⟨d, executes, after, by simp [saved]⟩

theorem leaves_assign_last (plain : ∀ statement ∈ statements, statement.Plain)
    (before : Nat) : Leaves (statements ++ [.assign value]) before value := by
  obtain ⟨d, executes, saved⟩ := executes_plain (c := ⟨before, []⟩) plain
  exact executes_append.mpr ⟨d, executes, by simp [saved]⟩

end Foundation.Errno
