import Mathlib.Data.List.Basic
import Mathlib.Data.Option.Basic

namespace Foundation

/-- An open descriptor: what it refers to, and its close-on-exec flag. -/
structure Descriptor (φ : Type*) where
  file : φ
  closeOnExec : Bool
  deriving DecidableEq

structure DescriptorTable (φ : Type*) where
  slots : List (Option (Descriptor φ))
  deriving DecidableEq

namespace DescriptorTable
variable {φ ψ : Type*}

def entry (table : DescriptorTable φ) (n : Nat) : Option (Descriptor φ) :=
  table.slots[n]?.join

def fileAt (table : DescriptorTable φ) (n : Nat) : Option φ :=
  (table.entry n).map Descriptor.file

/-- The number that the next open descriptor gets. -/
def lowestFree (table : DescriptorTable φ) : Nat :=
  table.slots.findIdx Option.isNone

/-- Make `n` refer to `d`, as dup2 does with its second argument. -/
def install (table : DescriptorTable φ) (n : Nat) (d : Descriptor φ) : DescriptorTable φ :=
  ⟨(table.slots ++ List.replicate (n + 1 - table.slots.length) none).set n (some d)⟩

def close (table : DescriptorTable φ) (n : Nat) : DescriptorTable φ :=
  ⟨table.slots.set n none⟩

def exec (table : DescriptorTable φ) : DescriptorTable φ :=
  ⟨table.slots.map fun slot => slot.filter fun d => !d.closeOnExec⟩

/-- fcntl(n, F_SETFD) -/
def setCloseOnExec (table : DescriptorTable φ) (n : Nat) (flag : Bool) : DescriptorTable φ :=
  ⟨table.slots.modify n (Option.map fun d => { d with closeOnExec := flag })⟩

def empty : DescriptorTable φ := ⟨[]⟩

def Holds (table : DescriptorTable φ) (f : φ) : Prop := ∃ n, table.fileAt n = some f

def map (g : φ → ψ) (table : DescriptorTable φ) : DescriptorTable ψ :=
  ⟨table.slots.map fun slot => slot.map fun d => ⟨g d.file, d.closeOnExec⟩⟩

variable {table : DescriptorTable φ} {n m : Nat} {d : Descriptor φ} {f : φ}

theorem entry_install : (table.install n d).entry m = if m = n then some d else table.entry m := by
  simp only [entry, install, List.getElem?_set, List.getElem?_append, List.getElem?_replicate,
    List.length_append, List.length_replicate]
  grind

theorem entry_close : (table.close n).entry m = if m = n then none else table.entry m := by
  simp only [entry, close, List.getElem?_set]
  grind

theorem entry_exec : table.exec.entry n = (table.entry n).filter fun d => !d.closeOnExec := by
  simp only [entry, exec, List.getElem?_map]
  cases table.slots[n]? <;> rfl

theorem entry_setCloseOnExec {flag : Bool} : (table.setCloseOnExec n flag).entry m =
    (table.entry m).map fun d => { d with closeOnExec := if m = n then flag else d.closeOnExec } := by
  simp only [entry, setCloseOnExec, List.getElem?_modify]
  by_cases same : n = m
  · subst same
    cases table.slots[n]? with
    | none => rfl
    | some slot => cases slot <;> simp
  · have other : m ≠ n := fun equal => same equal.symm
    cases table.slots[m]? with
    | none => rfl
    | some slot => cases slot <;> simp [same, other]

@[simp] theorem entry_empty : (empty : DescriptorTable φ).entry n = none := rfl

theorem entry_map {g : φ → ψ} :
    (table.map g).entry n = (table.entry n).map fun d => ⟨g d.file, d.closeOnExec⟩ := by
  simp only [entry, map, List.getElem?_map]
  cases table.slots[n]? <;> rfl

@[simp] theorem fileAt_install :
    (table.install n d).fileAt m = if m = n then some d.file else table.fileAt m := by
  simp only [fileAt, entry_install]
  split <;> rfl

@[simp] theorem fileAt_close :
    (table.close n).fileAt m = if m = n then none else table.fileAt m := by
  simp only [fileAt, entry_close]
  split <;> rfl

@[simp] theorem fileAt_setCloseOnExec {flag : Bool} :
    (table.setCloseOnExec n flag).fileAt m = table.fileAt m := by
  simp [fileAt, entry_setCloseOnExec, Function.comp_def]

@[simp] theorem fileAt_empty : (empty : DescriptorTable φ).fileAt n = none := rfl

@[simp] theorem fileAt_map {g : φ → ψ} : (table.map g).fileAt n = (table.fileAt n).map g := by
  simp [fileAt, entry_map, Function.comp_def]

theorem fileAt_exec : table.exec.fileAt n = some f ↔ table.entry n = some ⟨f, false⟩ := by
  simp only [fileAt, entry_exec, Option.map_eq_some_iff, Option.filter_eq_some_iff]
  constructor
  · rintro ⟨d, ⟨here, kept⟩, rfl⟩
    rw [here]
    cases d
    simp_all
  · intro here
    exact ⟨_, ⟨here, rfl⟩, rfl⟩

theorem fileAt_of_exec (kept : table.exec.fileAt n = some f) : table.fileAt n = some f := by
  simp [fileAt, fileAt_exec.mp kept]

@[simp] theorem entry_lowestFree : table.entry table.lowestFree = none := by
  unfold entry lowestFree
  rcases Nat.lt_or_ge (table.slots.findIdx Option.isNone) table.slots.length with inside | outside
  · have free : table.slots[table.slots.findIdx Option.isNone].isNone = true := List.findIdx_getElem
    rw [List.getElem?_eq_getElem inside]
    exact Option.isNone_iff_eq_none.mp free
  · rw [List.getElem?_eq_none outside]
    rfl

@[simp] theorem fileAt_lowestFree : table.fileAt table.lowestFree = none := by
  simp [fileAt]

theorem entry_of_lt_lowestFree (below : n < table.lowestFree) : table.entry n ≠ none := by
  unfold entry
  have inside : n < table.slots.length := Nat.lt_of_lt_of_le below List.findIdx_le_length
  have taken := List.not_of_lt_findIdx below
  cases slot : table.slots[n] <;> simp_all

theorem ne_lowestFree (used : table.fileAt n = some f) : n ≠ table.lowestFree := by
  rintro rfl
  simp at used

theorem holds_of_close (held : (table.close n).Holds f) : table.Holds f := by
  obtain ⟨m, here⟩ := held
  rw [fileAt_close] at here
  split at here
  · cases here
  · exact ⟨m, here⟩

/-- Every descriptor for `f` is closed by exec. -/
def ClosesOnExec (table : DescriptorTable φ) (f : φ) : Prop :=
  ∀ n d, table.entry n = some d → d.file = f → d.closeOnExec = true

namespace ClosesOnExec

theorem empty : (empty : DescriptorTable φ).ClosesOnExec f := by
  simp [ClosesOnExec]

theorem close (closes : table.ClosesOnExec f) : (table.close n).ClosesOnExec f := by
  intro m d here
  rw [entry_close] at here
  split at here
  · cases here
  · exact closes m d here

theorem install (closes : table.ClosesOnExec f) (flagged : d.file = f → d.closeOnExec = true) :
    (table.install n d).ClosesOnExec f := by
  intro m e here
  rw [entry_install] at here
  split at here
  · obtain rfl := Option.some.inj here
    exact flagged
  · exact closes m e here

theorem exec (closes : table.ClosesOnExec f) : table.exec.ClosesOnExec f := by
  intro m d here
  rw [entry_exec] at here
  exact closes m d (Option.filter_eq_some_iff.mp here).1

theorem not_holds_exec (closes : table.ClosesOnExec f) : ¬ table.exec.Holds f := by
  rintro ⟨n, here⟩
  have flagged := closes n _ (fileAt_exec.mp here) rfl
  simp at flagged

end ClosesOnExec

/-- `table` is `base` with these descriptors opened over it. -/
def Over (table base : DescriptorTable φ) (opened : List (Nat × Descriptor φ)) : Prop :=
  ∀ m, table.entry m = (opened.lookup m).or (base.entry m)

namespace Over
variable {base : DescriptorTable φ} {opened : List (Nat × Descriptor φ)}

theorem refl : table.Over table [] := by
  simp [Over]

theorem lookup_cons_eq (o : Nat × Descriptor φ) (m : Nat) :
    (o :: opened).lookup m = if m = o.1 then some o.2 else opened.lookup m := by
  obtain ⟨k, d⟩ := o
  by_cases same : m = k
  · simp [same]
  · simp [List.lookup_cons, beq_false_of_ne same, same]

theorem install (layered : table.Over base opened) :
    (table.install n d).Over base ((n, d) :: opened) := by
  intro m
  rw [entry_install, lookup_cons_eq]
  by_cases same : m = n
  · simp [same]
  · simp [same, layered m]

theorem lookup_filter (opened : List (Nat × Descriptor φ)) (n m : Nat) :
    (opened.filter fun o => o.1 ≠ n).lookup m = if m = n then none else opened.lookup m := by
  induction opened with
  | nil => simp
  | cons o rest ih =>
      by_cases dropped : o.1 = n
      · rw [List.filter_cons_of_neg (by simpa using dropped), ih, lookup_cons_eq, dropped]
        split <;> rfl
      · rw [List.filter_cons_of_pos (by simpa using dropped), lookup_cons_eq, lookup_cons_eq, ih]
        by_cases found : m = o.1
        · simp [found, dropped]
        · simp [found]

theorem close (layered : table.Over base opened) (free : base.entry n = none) :
    (table.close n).Over base (opened.filter fun o => o.1 ≠ n) := by
  intro m
  rw [entry_close, lookup_filter]
  by_cases same : m = n
  · simp [same, free]
  · simp [same, layered m]

theorem free (layered : table.Over base opened) (here : table.entry n = none) :
    base.entry n = none ∧ n ∉ opened.map Prod.fst := by
  rw [layered n, Option.or_eq_none_iff, List.lookup_eq_none_iff] at here
  refine ⟨here.2, fun member => ?_⟩
  obtain ⟨o, inside, rfl⟩ := List.mem_map.mp member
  simpa using here.1 o inside

end Over

instance [DecidableEq φ] (table : DescriptorTable φ) (f : φ) : Decidable (table.Holds f) :=
  decidable_of_iff (∃ n ∈ List.range table.slots.length, table.fileAt n = some f) <| by
    constructor
    · rintro ⟨n, -, here⟩
      exact ⟨n, here⟩
    · rintro ⟨n, here⟩
      refine ⟨n, ?_, here⟩
      by_contra outside
      simp_all [fileAt, entry]

end DescriptorTable
end Foundation
