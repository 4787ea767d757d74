import Mathlib.Data.List.Nodup
import Mathlib.Logic.Function.Basic
import Usockit.Foundation.TransitionSystem

/-! What usockit is for: many clients, of which one at a time has the input of a program. -/

namespace Usockit.Console
open Foundation

variable {κ β : Type*}

/-- The clients in `claimed`, `served` and `refused` are in the order of these events. -/
structure State (κ β : Type*) where
  inputs : κ → List β
  holder : Option κ
  serving : Bool
  claimed : List κ
  served : List κ
  refused : List κ
  consumed : κ → ℕ
  output : List β

inductive Event (κ : Type*)
  | claim (c : κ) | serve (c : κ) | forward (k : ℕ) | finish | refuse (c : κ)

inductive Action (κ β : Type*)
  | event (e : Event κ)
  | offer (c : κ) (bytes : List β)

def Action.shown : Action κ β → List (Event κ)
  | .event e => [e]
  | .offer _ _ => []

/-- Nobody has the console, and no client has offered anything. -/
def State.start : State κ β := ⟨fun _ => [], none, false, [], [], [], fun _ => 0, []⟩

def State.next (s : State κ β) (c : κ) : List β := (s.inputs c).drop (s.consumed c)

section
variable [DecidableEq κ]

/-- A claim may displace an earlier one that has not been served. -/
def happen (s : State κ β) : Event κ → Option (State κ β)
  | .claim c =>
      require (s.serving = false ∧ c ∉ s.claimed ∧ c ∉ s.refused)
        { s with holder := some c, claimed := s.claimed ++ [c] }
  | .serve c =>
      require (s.serving = false ∧ s.holder = some c)
        { s with serving := true, served := s.served ++ [c] }
  | .forward k => s.holder.bind fun c =>
      require (s.serving = true ∧ k ≤ (s.next c).length)
        { s with
          consumed := Function.update s.consumed c (s.consumed c + k)
          output := s.output ++ (s.next c).take k }
  | .finish => require (s.serving = true) { s with holder := none, serving := false }
  | .refuse c =>
      require (s.holder ≠ none ∧ c ∉ s.claimed ∧ c ∉ s.refused)
        { s with refused := s.refused ++ [c] }

def step (s : State κ β) : Action κ β → Option (State κ β)
  | .event e => happen s e
  | .offer c bytes =>
      some { s with inputs := Function.update s.inputs c (s.inputs c ++ bytes) }

def system : System (State κ β) (Action κ β) where
  initial s := s = .start
  step := step

end

/-! ## What a client gets -/

variable {s s' : State κ β}

def State.portion (s : State κ β) (c : κ) : List β := (s.inputs c).take (s.consumed c)

/-- The holder is the latest who has claimed the console, and the latest served while it is being
served. -/
structure Exclusive (s : State κ β) : Prop where
  output : s.output = (s.served.map s.portion).flatten
  consumed : ∀ c, s.consumed c ≤ (s.inputs c).length
  unserved : ∀ c, c ∉ s.served → s.consumed c = 0
  claimed : s.claimed.Nodup
  refused : s.refused.Nodup
  disjoint : s.claimed.Disjoint s.refused
  order : s.served.Sublist s.claimed
  waiting : ∀ c, s.holder = some c → s.serving = false →
    ∃ earlier, s.claimed = earlier ++ [c] ∧ s.served.Sublist earlier
  current : s.serving = true → ∃ c earlier before, s.holder = some c ∧
    s.claimed = earlier ++ [c] ∧ s.served = before ++ [c] ∧ before.Sublist earlier

namespace Exclusive

theorem start : Exclusive (.start : State κ β) := by
  constructor <;> simp [State.start]

theorem claim {c : κ} (exclusive : Exclusive s) (idle : s.serving = false)
    (fresh : c ∉ s.claimed) (welcome : c ∉ s.refused) :
    Exclusive { s with holder := some c, claimed := s.claimed ++ [c] } where
  output := exclusive.output
  consumed := exclusive.consumed
  unserved := exclusive.unserved
  claimed := by simpa [List.nodup_append] using ⟨exclusive.claimed, fun d here => by
    rintro rfl
    exact fresh here⟩
  refused := exclusive.refused
  disjoint := by
    rw [List.disjoint_append_left]
    exact ⟨exclusive.disjoint, by simpa using welcome⟩
  order := exclusive.order.trans (List.sublist_append_left _ _)
  waiting := by
    rintro _ ⟨⟩ -
    exact ⟨s.claimed, rfl, exclusive.order⟩
  current := by simp [idle]

theorem serve {c : κ} (exclusive : Exclusive s) (idle : s.serving = false)
    (holder : s.holder = some c) :
    Exclusive { s with serving := true, served := s.served ++ [c] } := by
  obtain ⟨earlier, claimed, order⟩ := exclusive.waiting c holder idle
  have nodup := exclusive.claimed
  rw [claimed, List.nodup_append] at nodup
  have fresh : c ∉ s.served := by
    intro served
    exact nodup.2.2 c (order.subset served) c (by simp) rfl
  have nothing : s.portion c = [] := by simp [State.portion, exclusive.unserved c fresh]
  constructor
  case output =>
    change _ = ((s.served ++ [c]).map s.portion).flatten
    simp [exclusive.output, nothing]
  case unserved =>
    intro d other
    exact exclusive.unserved d fun served => other (by simp [served])
  case order => simpa [claimed] using order
  case waiting => simp
  case current => exact fun _ => ⟨c, earlier, s.served, holder, claimed, rfl, order⟩
  case consumed => exact exclusive.consumed
  case claimed => exact exclusive.claimed
  case refused => exact exclusive.refused
  case disjoint => exact exclusive.disjoint

variable [DecidableEq κ]

theorem forward {c : κ} {k : ℕ} (exclusive : Exclusive s) (serving : s.serving = true)
    (holder : s.holder = some c) (enough : k ≤ (s.next c).length) :
    Exclusive { s with
      consumed := Function.update s.consumed c (s.consumed c + k)
      output := s.output ++ (s.next c).take k } := by
  obtain ⟨d, earlier, before, same, claimed, served, order⟩ := exclusive.current serving
  obtain rfl := Option.some.inj (holder.symm.trans same)
  have nodup := exclusive.order.nodup exclusive.claimed
  rw [served, List.nodup_append] at nodup
  have others : before.map (fun d => (s.inputs d).take
      (Function.update s.consumed c (s.consumed c + k) d)) = before.map s.portion := by
    refine List.map_congr_left fun d here => ?_
    have other : d ≠ c := nodup.2.2 d here c (by simp)
    simp [State.portion, other]
  have own : (s.inputs c).take (s.consumed c + k) = s.portion c ++ (s.next c).take k := by
    rw [List.take_add]
    rfl
  constructor
  case output =>
    change _ = (s.served.map fun d => (s.inputs d).take
      (Function.update s.consumed c (s.consumed c + k) d)).flatten
    rw [exclusive.output, served]
    simp [others, own]
  case consumed =>
    intro d
    by_cases same : d = c
    · subst same
      simp only [State.next, List.length_drop] at enough
      have := exclusive.consumed d
      simp only [Function.update_self]
      omega
    · simpa [same] using exclusive.consumed d
  case unserved =>
    intro d other
    have different : d ≠ c := by
      rintro rfl
      simp [served] at other
    simpa [different] using exclusive.unserved d other
  case claimed => exact exclusive.claimed
  case refused => exact exclusive.refused
  case disjoint => exact exclusive.disjoint
  case order => exact exclusive.order
  case waiting => exact exclusive.waiting
  case current => exact exclusive.current

theorem offer {c : κ} {bytes : List β} (exclusive : Exclusive s) :
    Exclusive { s with inputs := Function.update s.inputs c (s.inputs c ++ bytes) } := by
  have longer : ∀ d, s.inputs d <+: Function.update s.inputs c (s.inputs c ++ bytes) d := by
    intro d
    by_cases same : d = c
    · subst same
      simp
    · simp [same]
  have portion : (fun d => (Function.update s.inputs c (s.inputs c ++ bytes) d).take
      (s.consumed d)) = s.portion := by
    funext d
    obtain ⟨more, grown⟩ := longer d
    rw [← grown, List.take_append_of_le_length (exclusive.consumed d)]
    rfl
  constructor
  case output =>
    change _ = (s.served.map fun d => (Function.update s.inputs c (s.inputs c ++ bytes) d).take
      (s.consumed d)).flatten
    rw [portion, exclusive.output]
  case consumed => exact fun d => Nat.le_trans (exclusive.consumed d) (longer d).length_le
  case unserved => exact exclusive.unserved
  case claimed => exact exclusive.claimed
  case refused => exact exclusive.refused
  case disjoint => exact exclusive.disjoint
  case order => exact exclusive.order
  case waiting => exact exclusive.waiting
  case current => exact exclusive.current

theorem happen {e : Event κ} (exclusive : Exclusive s) (taken : Console.happen s e = some s') :
    Exclusive s' := by
  cases e with
  | claim c =>
      obtain ⟨⟨idle, fresh, welcome⟩, rfl⟩ := require_eq_some.mp taken
      exact exclusive.claim idle fresh welcome
  | serve c =>
      obtain ⟨⟨idle, holder⟩, rfl⟩ := require_eq_some.mp taken
      exact exclusive.serve idle holder
  | forward k =>
      obtain ⟨c, holder, taken⟩ := Option.bind_eq_some_iff.mp taken
      obtain ⟨⟨serving, enough⟩, rfl⟩ := require_eq_some.mp taken
      exact exclusive.forward serving holder enough
  | finish =>
      obtain ⟨-, rfl⟩ := require_eq_some.mp taken
      exact { exclusive with waiting := by simp, current := by simp }
  | refuse c =>
      obtain ⟨⟨-, unclaimed, fresh⟩, rfl⟩ := require_eq_some.mp taken
      refine { exclusive with refused := ?_, disjoint := ?_ }
      · simpa [List.nodup_append] using ⟨exclusive.refused, fun d here => by
          rintro rfl
          exact fresh here⟩
      · rw [List.disjoint_append_right]
        exact ⟨exclusive.disjoint, by simpa using unclaimed⟩

theorem run {actions : List (Action κ β)} (run : system.Run actions s) : Exclusive s := by
  refine run.stateInvariant ?_ ?_
  · rintro _ rfl
    exact start
  · intro _ s a s' _ exclusive _ taken
    cases a with
    | event e => exact exclusive.happen taken
    | offer c bytes =>
        obtain rfl := Option.some.inj taken
        exact exclusive.offer

end Exclusive
end Usockit.Console
