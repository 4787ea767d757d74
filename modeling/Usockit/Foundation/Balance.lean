import Mathlib.Data.List.Basic
import Mathlib.Data.List.Perm.Basic

namespace Foundation

variable {ε ρ : Type*} {actions : List ε} {a : ε}

/-- What the actions of a history have gained they have lost again, or still owe. -/
def Balance (gains losses : ε → List ρ) (actions : List ε) (owed : List ρ) : Prop :=
  (actions.flatMap gains).Perm (actions.flatMap losses ++ owed)

namespace Balance
variable {gains losses : ε → List ρ} {owed owed' : List ρ}

theorem nil : Balance gains losses [] [] := by
  simp [Balance]

theorem snoc (balance : Balance gains losses actions owed)
    (step : (gains a ++ owed).Perm (losses a ++ owed')) :
    Balance gains losses (actions ++ [a]) owed' := by
  have commuted : (owed ++ gains a).Perm (losses a ++ owed') := List.perm_append_comm.trans step
  have before := balance.append_right (gains a)
  rw [List.append_assoc] at before
  simpa [Balance] using before.trans (commuted.append_left _)

theorem settled (balance : Balance gains losses actions []) :
    (actions.flatMap losses).Perm (actions.flatMap gains) := by
  simpa using balance.symm

theorem subperm (balance : Balance gains losses actions owed) :
    (actions.flatMap losses).Subperm (actions.flatMap gains) :=
  (List.sublist_append_left _ _).subperm.trans balance.symm.subperm

theorem nodup (balance : Balance gains losses actions owed) (once : (actions.flatMap gains).Nodup) :
    (actions.flatMap losses).Nodup :=
  (List.sublist_append_left _ _).nodup (balance.nodup_iff.mp once)

end Balance

/-- What the actions of a history have brought and what is left to bring are all different. -/
def Once (events : ε → List ρ) (actions : List ε) (left : List ρ) : Prop :=
  (actions.flatMap events ++ left).Nodup

namespace Once
variable {events : ε → List ρ} {left left' : List ρ}

theorem nil (nodup : left.Nodup) : Once events [] left := by
  simpa [Once] using nodup

theorem snoc (once : Once events actions left) (step : (events a ++ left').Sublist left) :
    Once events (actions ++ [a]) left' := by
  unfold Once at *
  rw [List.flatMap_append, List.flatMap_singleton, List.append_assoc]
  exact (step.append_left _).nodup once

theorem nodup (once : Once events actions left) : (actions.flatMap events).Nodup :=
  (List.sublist_append_left _ _).nodup once

end Once
end Foundation
