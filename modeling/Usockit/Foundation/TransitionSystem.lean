import Mathlib.Data.List.Basic
import Mathlib.Data.Option.Basic

namespace Foundation

/-- A step that is possible only under a decidable guard. -/
def require {σ : Type*} (guard : Prop) [Decidable guard] (next : σ) : Option σ :=
  if guard then some next else none

@[simp] theorem require_eq_some {σ : Type*} {guard : Prop} [Decidable guard] {next s : σ} :
    require guard next = some s ↔ guard ∧ next = s := by
  simp [require]

@[simp] theorem require_isSome {σ : Type*} {guard : Prop} [Decidable guard] {next : σ} :
    (require guard next).isSome = true ↔ guard := by
  by_cases met : guard <;> simp [require, met]

structure System (σ ε : Type*) where
  initial : σ → Prop
  step : σ → ε → Option σ

namespace System
variable {σ ε : Type*} (M : System σ ε)

/-- The runs from an initial state, with their actions in order, whose steps all meet `ok`. -/
inductive RunWhere (ok : σ → ε → Prop) : List ε → σ → Prop
  | start {s : σ} (initial : M.initial s) : RunWhere ok [] s
  | snoc {actions : List ε} {s : σ} {a : ε} {s' : σ} (run : RunWhere ok actions s)
      (meets : ok s a) (step : M.step s a = some s') : RunWhere ok (actions ++ [a]) s'

abbrev Run : List ε → σ → Prop := M.RunWhere fun _ _ => True

def exec : σ → List ε → Option σ
  | s, [] => some s
  | s, a :: rest => (M.step s a).bind fun s' => exec s' rest

def Meets (ok : σ → ε → Prop) : σ → List ε → Prop
  | _, [] => True
  | s, a :: rest => ok s a ∧ ∀ s' ∈ M.step s a, Meets ok s' rest

instance decidableMeets (ok : σ → ε → Prop) [∀ s a, Decidable (ok s a)] :
    ∀ s actions, Decidable (M.Meets ok s actions)
  | _, [] => inferInstanceAs (Decidable True)
  | s, a :: rest =>
      have : Decidable (∀ s' ∈ M.step s a, M.Meets ok s' rest) :=
        match M.step s a with
        | none => isTrue (by simp)
        | some s' => @decidable_of_iff _ (M.Meets ok s' rest) (by simp) (decidableMeets ok s' rest)
      inferInstanceAs (Decidable (_ ∧ _))

variable {M} {ok ok' : σ → ε → Prop} {actions more : List ε} {s s' t : σ} {a : ε}

theorem exec_append : M.exec s (actions ++ more) =
    (M.exec s actions).bind fun s' => M.exec s' more := by
  induction actions generalizing s with
  | nil => rfl
  | cons a rest ih =>
      cases step : M.step s a with
      | none => simp [exec, step]
      | some next => simp [exec, step, ih]

theorem exec_singleton (step : M.step s a = some t) : M.exec s [a] = some t := by
  simp [exec, step]

theorem exec_trans (path : M.exec s actions = some s') (rest : M.exec s' more = some t) :
    M.exec s (actions ++ more) = some t := by
  simp [exec_append, path, rest]

namespace RunWhere

theorem mono (weaker : ∀ s a, ok s a → ok' s a) (run : M.RunWhere ok actions s) :
    M.RunWhere ok' actions s := by
  induction run with
  | start initial => exact .start initial
  | snoc run meets step ih => exact .snoc ih (weaker _ _ meets) step

theorem run (run : M.RunWhere ok actions s) : M.Run actions s :=
  run.mono fun _ _ _ => trivial

/-- What holds initially and is kept by every step of a run holds at its end. -/
theorem invariant {I : List ε → σ → Prop} (base : ∀ s, M.initial s → I [] s)
    (kept : ∀ actions s a s', M.RunWhere ok actions s → I actions s → ok s a →
      M.step s a = some s' → I (actions ++ [a]) s')
    (run : M.RunWhere ok actions s) : I actions s := by
  induction run with
  | start initial => exact base _ initial
  | snoc run meets step ih => exact kept _ _ _ _ run ih meets step

theorem stateInvariant {I : σ → Prop} (base : ∀ s, M.initial s → I s)
    (kept : ∀ actions s a s', M.RunWhere ok actions s → I s → ok s a →
      M.step s a = some s' → I s')
    (run : M.RunWhere ok actions s) : I s := by
  induction run with
  | start initial => exact base _ initial
  | snoc run meets step ih => exact kept _ _ _ _ run ih meets step

/-- Where every step lowers the rank, a run is no longer than the rank at its start. -/
theorem length_add_rank_le (rank : σ → ℕ) {bound : ℕ} (base : ∀ s, M.initial s → rank s ≤ bound)
    (lowers : ∀ actions s a s', M.RunWhere ok actions s → ok s a → M.step s a = some s' →
      rank s' < rank s)
    (run : M.RunWhere ok actions s) : actions.length + rank s ≤ bound := by
  induction run with
  | start initial => simpa using base _ initial
  | snoc run meets step ih =>
      have lower := lowers _ _ _ _ run meets step
      simp only [List.length_append, List.length_singleton]
      omega

theorem restrict {p : ε → Prop} (run : M.RunWhere ok actions s) (only : ∀ a ∈ actions, p a) :
    M.RunWhere (fun _ a => p a) actions s := by
  induction run with
  | start initial => exact .start initial
  | snoc _ _ step ih =>
      rw [List.forall_mem_append] at only
      exact .snoc (ih only.1) (only.2 _ (by simp)) step

theorem exec (run : M.RunWhere ok actions s) (path : M.exec s more = some t)
    (meets : M.Meets ok s more) : M.RunWhere ok (actions ++ more) t := by
  induction more generalizing s actions with
  | nil =>
      obtain rfl : s = t := by simpa [System.exec] using path
      simpa using run
  | cons a rest ih =>
      cases step : M.step s a with
      | none => simp [System.exec, step] at path
      | some next =>
          have later := ih (.snoc run meets.1 step) (by simpa [System.exec, step] using path)
            (meets.2 next step)
          simpa using later

theorem last (run : M.RunWhere ok (actions ++ [a]) t) :
    ∃ s, M.RunWhere ok actions s ∧ ok s a ∧ M.step s a = some t := by
  generalize whole : actions ++ [a] = all at run
  cases run with
  | start => simp at whole
  | snoc run met step =>
      obtain ⟨rfl, same⟩ := List.append_inj' whole rfl
      obtain rfl := List.singleton_inj.mp same
      exact ⟨_, run, met, step⟩

theorem exists_exec (run : M.RunWhere ok actions t) :
    ∃ s, M.initial s ∧ M.exec s actions = some t := by
  induction run with
  | start initial => exact ⟨_, initial, rfl⟩
  | snoc run _ step ih =>
      obtain ⟨s, initial, path⟩ := ih
      exact ⟨s, initial, exec_trans path (exec_singleton step)⟩

end RunWhere

theorem exec_keeps {I : σ → Prop} (kept : ∀ s a s', I s → M.step s a = some s' → I s')
    (here : I s) (path : M.exec s more = some t) : I t := by
  induction more generalizing s with
  | nil =>
      obtain rfl : s = t := by simpa [exec] using path
      exact here
  | cons a rest ih =>
      obtain ⟨next, step, onward⟩ := Option.bind_eq_some_iff.mp path
      exact ih (kept s a next here step) onward

theorem meets_of_forall (always : ∀ a ∈ actions, ∀ s, ok s a) : M.Meets ok s actions := by
  induction actions generalizing s with
  | nil => trivial
  | cons a rest ih =>
      exact ⟨always a (by simp) s, fun _ _ => ih fun b member => always b (by simp [member])⟩

theorem meets_true : M.Meets (fun _ _ => True) s actions := meets_of_forall fun _ _ _ => trivial

theorem meets_mono (weaker : ∀ s a, ok s a → ok' s a) (meets : M.Meets ok s actions) :
    M.Meets ok' s actions := by
  induction actions generalizing s with
  | nil => trivial
  | cons a rest ih => exact ⟨weaker s a meets.1, fun s' step => ih (meets.2 s' step)⟩

theorem meets_singleton (meets : ok s a) : M.Meets ok s [a] := ⟨meets, fun _ _ => trivial⟩

theorem meets_append (path : M.exec s actions = some t) (first : M.Meets ok s actions)
    (rest : M.Meets ok t more) : M.Meets ok s (actions ++ more) := by
  induction actions generalizing s with
  | nil =>
      obtain rfl := Option.some.inj path
      exact rest
  | cons a later ih =>
      obtain ⟨s', step, onward⟩ := Option.bind_eq_some_iff.mp path
      refine ⟨first.1, fun s'' step' => ?_⟩
      obtain rfl := Option.some.inj (step.symm.trans step')
      exact ih onward (first.2 s' step)

theorem forall_of_meets {p : ε → Prop} (path : M.exec s actions = some t)
    (meets : M.Meets (fun _ a => p a) s actions) : ∀ a ∈ actions, p a := by
  induction actions generalizing s with
  | nil => simp
  | cons a rest ih =>
      obtain ⟨s', step, onward⟩ := Option.bind_eq_some_iff.mp path
      simpa using ⟨meets.1, ih onward (meets.2 s' step)⟩

theorem run_exec (run : M.Run actions s) (path : M.exec s more = some t) :
    M.Run (actions ++ more) t :=
  RunWhere.exec run path meets_true

theorem run_of_exec (initial : M.initial s) (path : M.exec s actions = some t) :
    M.Run actions t := by
  simpa using run_exec (.start initial) path

theorem runWhere_of_exec (initial : M.initial s) (path : M.exec s actions = some t)
    (meets : M.Meets ok s actions) : M.RunWhere ok actions t := by
  simpa using RunWhere.exec (.start initial) path meets

/-- Where some steps that meet `ok` and lower the rank are always possible, the goal is reached. -/
theorem exists_path_of_rank (ok : σ → ε → Prop) {I : List ε → σ → Prop} {g : σ → Prop}
    (rank : σ → ℕ)
    (advances : ∀ actions s, I actions s → ¬ g s → ∃ more s', M.exec s more = some s' ∧
      M.Meets ok s more ∧ I (actions ++ more) s' ∧ rank s' < rank s)
    (here : I actions s) :
    ∃ more t, M.exec s more = some t ∧ M.Meets ok s more ∧ I (actions ++ more) t ∧ g t := by
  induction bound : rank s using Nat.strongRecOn generalizing s actions with
  | _ n ih =>
      by_cases reached : g s
      · exact ⟨[], s, rfl, trivial, by simpa using here, reached⟩
      · obtain ⟨first, s', path, meets, next, lower⟩ := advances actions s here reached
        obtain ⟨more, t, onward, rest, there, reached⟩ := ih (rank s') (bound ▸ lower) next rfl
        exact ⟨first ++ more, t, exec_trans path onward, meets_append path meets rest,
          by simpa using there, reached⟩

/-- Where a step that lowers the rank is always possible, the goal is reached. -/
theorem exists_exec_of_rank {I : List ε → σ → Prop} {g : σ → Prop} {p : ε → Prop}
    (rank : σ → ℕ)
    (advances : ∀ actions s, I actions s → ¬ g s →
      ∃ a s', p a ∧ M.step s a = some s' ∧ I (actions ++ [a]) s' ∧ rank s' < rank s)
    (here : I actions s) :
    ∃ more t, M.exec s more = some t ∧ (∀ a ∈ more, p a) ∧ I (actions ++ more) t ∧ g t := by
  have paths : ∀ actions s, I actions s → ¬ g s → ∃ more s', M.exec s more = some s' ∧
      M.Meets (fun _ a => p a) s more ∧ I (actions ++ more) s' ∧ rank s' < rank s := by
    intro actions s here unreached
    obtain ⟨a, s', allowed, step, next, lower⟩ := advances actions s here unreached
    exact ⟨[a], s', exec_singleton step, meets_singleton allowed, next, lower⟩
  obtain ⟨more, t, path, meets, there, reached⟩ := exists_path_of_rank _ rank paths here
  exact ⟨more, t, path, forall_of_meets path meets, there, reached⟩

theorem exists_exec {p : σ → Prop} [DecidablePred p]
    (reaches : (M.exec s actions).any (fun t => decide (p t)) = true) :
    ∃ t, M.exec s actions = some t ∧ p t := by
  cases path : M.exec s actions with
  | none => simp [path] at reaches
  | some t => exact ⟨t, rfl, by simpa [path] using reaches⟩

end System
end Foundation
