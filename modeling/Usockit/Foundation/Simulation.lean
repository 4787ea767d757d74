import Usockit.Foundation.TransitionSystem

namespace Foundation

variable {σ τ ε δ ω : Type*}

/-- `N` follows each step of `M` that meets `ok` by some steps of its own that meet `ok'` and show
the same. What relates the states may depend on the actions of `M` so far. -/
structure Simulation (M : System σ ε) (ok : σ → ε → Prop) (N : System τ δ) (ok' : τ → δ → Prop)
    (R : List ε → σ → τ → Prop) (shows : ε → List ω) (shows' : δ → List ω) : Prop where
  initial : ∀ s, M.initial s → ∃ t, N.initial t ∧ R [] s t
  step : ∀ actions s a s' t, M.RunWhere ok actions s → R actions s t → ok s a →
    M.step s a = some s' → ∃ more t', N.exec t more = some t' ∧ N.Meets ok' t more ∧
      more.flatMap shows' = shows a ∧ R (actions ++ [a]) s' t'

namespace Simulation
variable {M : System σ ε} {ok : σ → ε → Prop} {N : System τ δ} {ok' : τ → δ → Prop}
variable {R : List ε → σ → τ → Prop} {shows : ε → List ω} {shows' : δ → List ω}
variable {actions : List ε} {s : σ}

theorem run (simulation : Simulation M ok N ok' R shows shows') (run : M.RunWhere ok actions s) :
    ∃ followed t, N.RunWhere ok' followed t ∧ followed.flatMap shows' = actions.flatMap shows ∧
      R actions s t := by
  induction run with
  | start initial =>
      obtain ⟨t, started, related⟩ := simulation.initial _ initial
      exact ⟨[], t, .start started, rfl, related⟩
  | @snoc actions s a s' run meets step ih =>
      obtain ⟨followed, t, there, shown, related⟩ := ih
      obtain ⟨more, t', path, met, same, next⟩ :=
        simulation.step actions s a s' t run related meets step
      refine ⟨followed ++ more, t', there.exec path met, ?_, next⟩
      simp [shown, same]

end Simulation
end Foundation
