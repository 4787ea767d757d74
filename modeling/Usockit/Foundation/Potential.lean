import Mathlib.Algebra.BigOperators.Group.List.Basic
import Mathlib.Algebra.GroupWithZero.Nat
import Usockit.Foundation.TransitionSystem

/-! Amortised cost: what the steps of a run cost is paid from a potential of its states, to which
some steps add a credit. -/

namespace Foundation

variable {σ ε : Type*}

structure Potential (M : System σ ε) (cost credit : ε → ℕ) where
  value : σ → ℕ
  pays : ∀ actions s a s', M.Run actions s → M.step s a = some s' →
    cost a + value s' ≤ value s + credit a

namespace Potential

variable {M : System σ ε} {cost credit : ε → ℕ} {actions more : List ε} {s t : σ}

theorem cost_le (potential : Potential M cost credit) (run : M.Run actions s)
    (path : M.exec s more = some t) :
    (more.map cost).sum + potential.value t ≤ potential.value s + (more.map credit).sum := by
  induction more generalizing actions s with
  | nil =>
      obtain rfl := Option.some.inj path
      simp
  | cons a rest ih =>
      obtain ⟨s', step, path⟩ := Option.bind_eq_some_iff.mp path
      have first := potential.pays actions s a s' run step
      have later := ih (.snoc run trivial step) path
      simp only [List.map_cons, List.sum_cons]
      omega

/-- Where a step that costs something and gives no credit is always possible, the goal is
reached. -/
theorem reaches (potential : Potential M cost credit) {I : List ε → σ → Prop} {g : σ → Prop}
    {p : ε → Prop}
    (advances : ∀ actions s, M.Run actions s → I actions s → ¬ g s → ∃ a s', p a ∧
      cost a ≠ 0 ∧ credit a = 0 ∧ M.step s a = some s' ∧ I (actions ++ [a]) s')
    (run : M.Run actions s) (here : I actions s) :
    ∃ more t, M.exec s more = some t ∧ (∀ a ∈ more, p a) ∧ M.Run (actions ++ more) t ∧
      I (actions ++ more) t ∧ g t := by
  have reached := System.exists_exec_of_rank (M := M) (p := p) (g := g)
    (I := fun actions s => M.Run actions s ∧ I actions s) potential.value ?_ ⟨run, here⟩
  · obtain ⟨more, t, path, only, ⟨run, there⟩, goal⟩ := reached
    exact ⟨more, t, path, only, run, there, goal⟩
  · rintro actions s ⟨run, here⟩ unreached
    obtain ⟨a, s', allowed, costs, free, step, there⟩ := advances actions s run here unreached
    have paid := potential.pays actions s a s' run step
    exact ⟨a, s', allowed, step, ⟨.snoc run trivial step, there⟩, by omega⟩

end Potential
end Foundation
