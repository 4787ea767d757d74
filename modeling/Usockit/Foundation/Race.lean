import Mathlib.Data.List.Basic

/-! Data races: what the threads are about to do with the objects that they share, and the
permissions that keep them apart. -/

namespace Foundation

/-- `sync` is a call that orders itself with the others on a mutex or a condition variable. To
initialise, destroy or free an object is to write it. -/
inductive AccessKind
  | sync | read | write
  deriving DecidableEq

def AccessKind.Conflicts (a b : AccessKind) : Prop := a ≠ b ∨ a = .write

instance (a b : AccessKind) : Decidable (a.Conflicts b) := inferInstanceAs (Decidable (_ ∨ _))

structure Access (ι : Type*) where
  object : ι
  kind : AccessKind
  deriving DecidableEq

variable {θ ι : Type*} {accesses : θ → List (Access ι)}

/-- Two threads are about to make accesses that nothing orders. -/
def Races (accesses : θ → List (Access ι)) : Prop :=
  ∃ t u, t ≠ u ∧ ∃ a ∈ accesses t, ∃ b ∈ accesses u, a.object = b.object ∧ a.kind.Conflicts b.kind

/-- What a thread may do with an object: all threads may synchronise on it, or read it, or one
thread owns it. -/
inductive Permission (θ : Type*)
  | synchronized | readOnly
  | owned (t : θ)

def Permission.Allows : Permission θ → θ → AccessKind → Prop
  | .synchronized, _, kind => kind = .sync
  | .readOnly, _, kind => kind = .read
  | .owned owner, t, _ => t = owner

/-- The permission for an object that is only used with a mutex in hand. -/
def Permission.guarded : Option θ → Permission θ
  | some owner => .owned owner
  | none => .readOnly

@[simp] theorem Permission.allows_synchronized {t : θ} {kind : AccessKind} :
    (Permission.synchronized : Permission θ).Allows t kind ↔ kind = .sync := Iff.rfl

@[simp] theorem Permission.allows_readOnly {t : θ} {kind : AccessKind} :
    (Permission.readOnly : Permission θ).Allows t kind ↔ kind = .read := Iff.rfl

@[simp] theorem Permission.allows_owned {t owner : θ} {kind : AccessKind} :
    (Permission.owned owner).Allows t kind ↔ t = owner := Iff.rfl

@[simp] theorem Permission.guarded_some (owner : θ) :
    Permission.guarded (some owner) = .owned owner := rfl

theorem Permission.not_conflicts {p : Permission θ} {t u : θ} {a b : AccessKind} (other : t ≠ u)
    (first : p.Allows t a) (second : p.Allows u b) : ¬ a.Conflicts b := by
  cases p with
  | synchronized | readOnly =>
      obtain rfl := first
      obtain rfl := second
      simp [AccessKind.Conflicts]
  | owned owner => exact absurd (first.trans second.symm) other

/-- Threads that keep to the permissions of one assignment do not race. -/
theorem not_races (permission : ι → Permission θ)
    (allowed : ∀ t, ∀ a ∈ accesses t, (permission a.object).Allows t a.kind) :
    ¬ Races accesses := by
  rintro ⟨t, u, other, a, ofFirst, b, ofSecond, same, conflict⟩
  have first := allowed t a ofFirst
  have second := allowed u b ofSecond
  rw [← same] at second
  exact Permission.not_conflicts other first second conflict

end Foundation
