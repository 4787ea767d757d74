import Usockit.Server.Startup

namespace Usockit.Server
open Foundation

variable {s s' : State} {actions : List Action} {t : Thread}

def Action.creates : Action → Option Thread
  | .setupThreads .createChildWait => some .childWait
  | .setupThreads .createClientConnection => some .clientConnection
  | .setupThreads .createAccept => some .accept
  | _ => none

def Action.joins : Action → Option Thread
  | .setupThreads (.join t _ _) => some t
  | .parent .joinChildWait => some .childWait
  | .parent .joinAccept => some .accept
  | _ => none

def Created (actions : List Action) (t : Thread) : Prop := ∃ a ∈ actions, a.creates = some t

def joinc (actions : List Action) (t : Thread) : Nat := actions.countP fun a => a.joins = some t

/-- The thread that main is about to pass to pthread_cancel() or pthread_join(). -/
def MainPc.handle : MainPc → Option Thread
  | .cancel t _ _ | .join t _ _ => some t
  | .joinChildWait => some .childWait
  | .cancelAccept | .joinAccept => some .accept
  | _ => none

structure HandlesUsed (actions : List Action) (s : State) : Prop where
  inLifetime : ∀ t, s.main.handle = some t → Created actions t ∧ joinc actions t = 0
  joined : ∀ ret, s.main = .returned ret → ∀ t, Created actions t → joinc actions t = 1

/-! ## What main has joined -/

def MainPc.joinedByParent : MainPc → List Thread
  | .cancelAccept | .joinAccept => [.childWait]
  | .close _ ret | .cancel _ _ ret | .join _ _ ret | .release _ ret | .returned ret =>
      Server.joinedByParent ret
  | _ => []

/-- How often main has joined a thread that it has created. -/
def MainPc.joinc (pc : MainPc) (t : Thread) : Nat :=
  (if t ∈ pc.created then 0 else 1) + if t ∈ pc.joinedByParent then 1 else 0

structure Handles (actions : List Action) (s : State) : Prop where
  toCreate : ∀ t ∈ s.main.toCreate, ¬ Created actions t
  created : ∀ t ∈ s.main.created, Created actions t
  joinc : ∀ t, (Created actions t → joinc actions t = s.main.joinc t) ∧
    (¬ Created actions t → joinc actions t = 0)

theorem created_snoc {a : Action} :
    Created (actions ++ [a]) t ↔ Created actions t ∨ a.creates = some t := by
  simp [Created, or_and_right, exists_or]

theorem joinc_snoc (a : Action) (t : Thread) :
    joinc (actions ++ [a]) t = joinc actions t + if a.joins = some t then 1 else 0 := by
  simp [joinc, List.countP_append, List.countP_singleton]

theorem Handles.frame {a : Action} (handles : Handles actions s) (creates : a.creates = none)
    (joins : a.joins = none) (toCreate : ∀ t ∈ s'.main.toCreate, t ∈ s.main.toCreate)
    (created : ∀ t, t ∈ s'.main.created ↔ t ∈ s.main.created)
    (joinedByParent : s'.main.joinedByParent = s.main.joinedByParent) :
    Handles (actions ++ [a]) s' := by
  constructor <;> simp only [created_snoc, joinc_snoc, creates, joins]
  · simpa using fun t here => handles.toCreate t (toCreate t here)
  · simpa using fun t here => handles.created t ((created t).mp here)
  · simpa [MainPc.joinc, created, joinedByParent] using handles.joinc

theorem Handles.create {a : Action} (handles : Handles actions s) (creates : a.creates = some t)
    (joins : a.joins = none) (next : s.main.toCreate = t :: s'.main.toCreate)
    (distinct : t ∉ s'.main.toCreate)
    (created : ∀ u, u ∈ s'.main.created ↔ u = t ∨ u ∈ s.main.created)
    (byParent : s.main.joinedByParent = []) (byParent' : s'.main.joinedByParent = []) :
    Handles (actions ++ [a]) s' := by
  have fresh := handles.toCreate t (by simp [next])
  constructor <;> simp only [created_snoc, joinc_snoc, creates, joins]
  · intro u left
    have other : t ≠ u := fun same => distinct (same ▸ left)
    simpa [other] using handles.toCreate u (by simp [next, left])
  · intro u here
    rcases (created u).mp here with rfl | before
    · exact .inr rfl
    · exact .inl (handles.created u before)
  · intro u
    by_cases same : t = u
    · subst same
      have none := (handles.joinc t).2 fresh
      simp [MainPc.joinc, created, byParent', none]
    · simpa [MainPc.joinc, created, byParent, byParent', same, Ne.symm same] using
        handles.joinc u

theorem Handles.join {a : Action} (handles : Handles actions s) (creates : a.creates = none)
    (joins : a.joins = some t) (alive : Created actions t)
    (toCreate : s'.main.toCreate = [])
    (created : ∀ u ∈ s'.main.created, u ∈ s.main.created)
    (once : s'.main.joinc t = s.main.joinc t + 1)
    (others : ∀ u ≠ t, s'.main.joinc u = s.main.joinc u) :
    Handles (actions ++ [a]) s' := by
  constructor <;> simp only [created_snoc, joinc_snoc, creates, joins]
  · simp [toCreate]
  · simpa using fun u here => handles.created u (created u here)
  · intro u
    by_cases same : t = u
    · subst same
      simp [alive, once, (handles.joinc t).1 alive]
    · simpa [same, others u (Ne.symm same)] using handles.joinc u

section
attribute [local simp] MainPc.toCreate MainPc.created MainPc.joinedByParent MainPc.joinc
  Server.joinedByParent Action.creates Action.joins MainPc.endThreads MainPc.closeEnds
  MainPc.setupChildReturned MainPc.parentReturned MainPc.afterChildError
  MainPc.reportingPipeCreated

theorem Handles.setupThreads {a : SetupThreadsAction} (handles : Handles actions s)
    (progress : Progress s) (taken : setupThreads s a = some s') :
    Handles (actions ++ [.setupThreads a]) s' := by
  cases a <;> simp only [Server.setupThreads, require_eq_some] at taken <;>
    obtain ⟨guard, rfl⟩ := taken
  case createChildWait =>
    apply handles.create (t := .childWait) <;> simp [guard]
  case createClientConnection =>
    apply handles.create (t := .clientConnection) <;> simp [guard, or_comm]
  case createAccept =>
    apply handles.create (t := .accept) <;> simp [guard, or_comm]
  case join t rest ret =>
    have distinct : t ∉ rest := by
      have toJoin := progress.toJoin
      simp only [guard, MainPc.toJoin] at toJoin
      exact (List.nodup_cons.mp (toJoin.sublist.nodup (by decide))).1
    have alive := handles.created t (by simp [guard])
    cases rest with
    | nil => apply handles.join (t := t) <;> simp +contextual [guard, alive, Nat.add_comm]
    | cons u rest =>
        apply handles.join (t := t) <;>
          simp_all +contextual [Nat.add_comm]
  all_goals apply handles.frame <;> simp [guard, or_comm]

theorem Handles.setupChild {a : SetupChildAction} (handles : Handles actions s)
    (taken : setupChild s a = some s') : Handles (actions ++ [.setupChild a]) s' := by
  cases a <;> simp only [Server.setupChild, require_eq_some] at taken <;>
    obtain ⟨guard, rfl⟩ := taken
  case close p e rest ret => cases rest <;> apply handles.frame <;> simp [guard]
  case reportingPipe => cases support : s.pipe2Support <;> apply handles.frame <;> simp [guard]
  all_goals apply handles.frame <;> simp [guard]

theorem Handles.parent {a : ParentAction} (handles : Handles actions s)
    (taken : parent s a = some s') : Handles (actions ++ [.parent a]) s' := by
  cases a <;> simp only [Server.parent, require_eq_some] at taken <;>
    obtain ⟨guard, rfl⟩ := taken
  case joinChildWait =>
    have alive := handles.created .childWait (by simp [guard])
    apply handles.join (t := .childWait) <;> simp +contextual [guard, alive]
  case joinAccept =>
    have alive := handles.created .accept (by simp [guard])
    apply handles.join (t := .accept) <;> simp +contextual [guard, alive]
  case readEof | readError | readShort =>
    replace guard := guard.1.1
    apply handles.frame <;> simp [guard]
  case waitpid error | waitpidFailed error =>
    cases error <;> apply handles.frame <;> simp [guard]
  all_goals apply handles.frame <;> simp [guard]

end

theorem Handles.act {a : Action} (handles : Handles actions s) (progress : Progress s)
    (taken : act s a = some s') : Handles (actions ++ [a]) s' := by
  cases a with
  | setupThreads a => exact handles.setupThreads progress taken
  | setupChild a => exact handles.setupChild taken
  | parent a => exact handles.parent taken
  | childWait | accept | clientConnection | child | client =>
      have same := (act_sameMain taken id).main
      apply handles.frame <;> simp [same, Action.creates, Action.joins]

theorem Handles.run {ok : State → Action → Prop} (run : system.RunWhere ok actions s) :
    Handles actions s := by
  refine run.invariant (I := Handles) ?_ ?_
  · rintro _ ⟨config, rfl⟩
    constructor <;> simp [State.start, Created, Usockit.Server.joinc, MainPc.created]
  · exact fun _ _ _ _ before handles _ step =>
      handles.act (.run before) (system_step.mp step).2

/-! ## The two epilogues -/

theorem sawEnd_mono {a : Action} (taken : act s a = some s') (saw : s.main.sawEnd = true) :
    s'.main.sawEnd = true := by
  by_cases ready : s.main.ready = true
  · exact MainPc.sawEnd_of_ready (ready_mono taken ready)
  · have here : s.main = .lock ∨ s.main = .setCondition := by
      unfold MainPc.sawEnd at saw
      split at saw <;> simp_all
    cases a with
    | setupThreads a =>
        cases a <;> simp only [act, setupThreads, require_eq_some] at taken <;>
          obtain ⟨guard, rfl⟩ := taken <;> simp [guard] at here
    | setupChild a =>
        cases a <;> simp only [act, setupChild, require_eq_some] at taken <;>
          obtain ⟨guard, rfl⟩ := taken <;> simp [guard] at here
    | parent a =>
        cases a <;> simp only [act, parent, require_eq_some] at taken <;>
          obtain ⟨guard, rfl⟩ := taken
        case readEof | readError | readShort => simp [guard.1.1] at here
        case lock | setCondition => simp [MainPc.sawEnd, MainPc.ready]
        all_goals simp [guard] at here
    | childWait | accept | clientConnection | child | client =>
        rw [(act_sameMain taken id).main]
        exact saw

theorem sawEnd_of_mem {ok : State → Action → Prop} (run : system.RunWhere ok actions s)
    (member : .parent .readEof ∈ actions) :
    s.main.sawEnd = true ∧ Created actions .accept := by
  induction run with
  | start => simp at member
  | snoc run _ step ih =>
      have taken := (system_step.mp step).2
      rcases List.mem_append.mp member with before | now
      · obtain ⟨saw, created⟩ := ih before
        exact ⟨sawEnd_mono taken saw, created_snoc.mpr (.inl created)⟩
      · obtain rfl := List.mem_singleton.mp now
        simp only [act, parent, require_eq_some] at taken
        obtain ⟨guard, rfl⟩ := taken
        have created := (Handles.run run).created .accept (by simp [guard.1.1, MainPc.created])
        exact ⟨rfl, created_snoc.mpr (.inl created)⟩

/-- Unless usockit_server_parent has succeeded, no thread is joined by two. -/
theorem Handles.inLifetime (handles : Handles actions s) (unsuccessful : s.main.ready = false)
    (here : s.main.handle = some t) : Created actions t ∧ Server.joinc actions t = 0 := by
  have created : t ∈ s.main.created ∧ t ∉ s.main.joinedByParent := by
    cases pc : s.main <;>
      simp_all [MainPc.handle, MainPc.created, MainPc.joinedByParent, Server.joinedByParent,
        MainPc.ready]
  have alive := handles.created t created.1
  exact ⟨alive, by simp [(handles.joinc t).1 alive, MainPc.joinc, created]⟩

theorem handles_used (run : system.Run actions s) :
    (.parent .readEof ∉ actions → HandlesUsed actions s) ∧
      (∀ ret, s.main = .returned ret → HandlesUsed actions s →
        .parent .readEof ∉ actions) := by
  have handles := Handles.run run
  constructor
  · intro noEnd
    have unsuccessful : s.main.ready = false := by
      rw [← Bool.not_eq_true]
      exact fun ready => noEnd ((Stores.run run).sawEnd (MainPc.sawEnd_of_ready ready))
    constructor
    · exact fun t here => handles.inLifetime unsuccessful here
    · intro ret here t alive
      have failed : ret ≠ .success := by simpa [here, MainPc.ready] using unsuccessful
      rw [(handles.joinc t).1 alive]
      simp [here, MainPc.joinc, MainPc.created, MainPc.joinedByParent, Server.joinedByParent,
        failed]
  · intro ret here used saw
    obtain ⟨sawEnd, alive⟩ := sawEnd_of_mem run saw
    have succeeded : ret = .success := by
      simpa [here, MainPc.sawEnd, MainPc.ready] using sawEnd
    have once := used.joined ret here .accept alive
    simp [(handles.joinc .accept).1 alive, here, MainPc.joinc, MainPc.created,
      MainPc.joinedByParent, Server.joinedByParent, succeeded] at once

/-- The connection thread cannot be created, and the child-wait thread is cancelled in its sleep and
joined. -/
def childWaitJoined : List Action :=
  [.setupThreads .createChildWait, .setupThreads .createClientConnectionFailed,
   .childWait (.waitForChildReady .lock .lock),
   .childWait (.waitForChildReady .test .testNotReady),
   .childWait (.waitForChildReady .wait .wait),
   .setupThreads (.cancel .childWait [] .unknown),
   .childWait (.waitForChildReady .asleep .cancel),
   .childWait (.waitForChildReady .cancelled .relockCancelled),
   .setupThreads (.join .childWait [] .unknown)] ++
    (releaseOps.tail.tails.zip releaseOps).map
      (fun (rest, op) => .setupThreads (.release op rest .unknown)) ++
    [.setupThreads (.ret .unknown)]

theorem handles_used_childWaitJoined :
    ∃ s, system.exec (.start .shell) childWaitJoined = some s ∧ s.main = .returned .unknown ∧
      joinc childWaitJoined .childWait = 1 := by
  obtain ⟨s, path, here⟩ :
      ∃ s, system.exec (.start .shell) childWaitJoined = some s ∧ s.main = .returned .unknown :=
    System.exists_exec (by decide +kernel)
  have used := (handles_used (System.run_of_exec ⟨_, rfl⟩ path)).1 (by decide)
  exact ⟨s, path, here, used.joined _ here _ ⟨.setupThreads .createChildWait, by decide, rfl⟩⟩

/-- The child exits, usockit_server_parent has joined the accept thread, and setup_threads is about
to cancel it. -/
def cancelledTwice : List Action :=
  startUp ++ childExits ++ [.accept .cancelAccept] ++ cancelConnection.take 3

theorem handle_used_after_join : ¬ ∀ actions s, system.Run actions s → HandlesUsed actions s := by
  intro claim
  obtain ⟨s, path, here⟩ :
      ∃ s, system.exec (.start .shell) cancelledTwice = some s ∧ s.main.handle = some .accept :=
    System.exists_exec (by decide +kernel)
  have used := claim _ s (System.run_of_exec ⟨_, rfl⟩ path)
  exact absurd (used.inLifetime _ here).2 (by decide)

end Usockit.Server
