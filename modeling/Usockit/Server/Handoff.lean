import Usockit.Server.Ownership

namespace Usockit.Server
open Foundation Kernel

variable {s s' : State} {actions : List Action}

def AcceptPc.unpublished : AcceptPc → Option ClientFd
  | .trylock fd | .store fd | .readSlot fd | .testcancelSpurious fd => some fd
  | .callWriteAll fd | .write fd _ | .cleanupPop fd true => some fd
  | _ => none

/-- The connection thread is inside a session, and the slot still has its descriptor. -/
def ClientConnectionPc.serving : ClientConnectionPc → Bool
  | .load | .read _ | .callWriteAll _ | .write _ | .cleanupLoad _ | .cleanupStore _ _ => true
  | _ => false

/-- The local `client_fd` that was read from the slot while the thread owns the mutex. -/
def ClientConnectionPc.loaded : ClientConnectionPc → Option (Option ClientFd)
  | .read fd | .cleanupStore fd _ => some fd
  | _ => none

/-- The thread owns the mutex and has seen or stored -1. -/
def ClientConnectionPc.sawEmpty : ClientConnectionPc → Bool
  | .wait | .cleanupUnlock _ _ => true
  | _ => false

/-- The local `client_fd` of the cleanup routine when the slot is reset. -/
def ClientConnectionPc.holding : ClientConnectionPc → Option ClientFd
  | .cleanupUnlock fd _ | .cleanupClose fd _ => fd
  | _ => none

abbrev Stored (actions : List Action) (fd : ClientFd) : Prop :=
  Action.accept (.store fd) ∈ actions

abbrev Taken (actions : List Action) (fd : ClientFd) : Prop :=
  Action.clientConnection (.take fd) ∈ actions

abbrev Cleaned (actions : List Action) (fd : ClientFd) : Prop :=
  ∃ cancelled, Action.clientConnection (.cleanupStore (some fd) cancelled) ∈ actions

structure Handoff (actions : List Action) (s : State) : Prop where
  stored : ∀ fd, Stored actions fd → (s.kernel.connections fd.connection).phase = .accepted
  unpublished : ∀ fd, s.accept.unpublished = some fd →
    (s.kernel.connections fd.connection).phase = .accepted ∧
      ∀ d, Stored actions d → d.connection ≠ fd.connection
  slot : ∀ fd, s.clientReady.clientFd = some fd → Stored actions fd ∧ ¬ Cleaned actions fd
  cleaned : ∀ fd, Cleaned actions fd → Stored actions fd
  serving : s.clientConnection.serving = true →
    ∃ fd, s.clientReady.clientFd = some fd ∧ Taken actions fd
  loaded : ∀ fd, s.clientConnection.loaded = some fd → s.clientReady.clientFd = fd
  empty : s.clientConnection.sawEmpty = true → s.clientReady.clientFd = none
  holding : ∀ fd, s.clientConnection.holding = some fd → Cleaned actions fd

attribute [simp] AcceptPc.unpublished.eq_1 AcceptPc.unpublished.eq_2 AcceptPc.unpublished.eq_3
  AcceptPc.unpublished.eq_4 AcceptPc.unpublished.eq_5 AcceptPc.unpublished.eq_6
  AcceptPc.unpublished.eq_7 AcceptPc.unpublished.eq_8

attribute [simp] ClientConnectionPc.serving.eq_1 ClientConnectionPc.serving.eq_2
  ClientConnectionPc.serving.eq_3 ClientConnectionPc.serving.eq_4
  ClientConnectionPc.serving.eq_5 ClientConnectionPc.serving.eq_6 ClientConnectionPc.serving.eq_7

attribute [simp] ClientConnectionPc.loaded.eq_1 ClientConnectionPc.loaded.eq_2
  ClientConnectionPc.loaded.eq_3

attribute [simp] ClientConnectionPc.sawEmpty.eq_1 ClientConnectionPc.sawEmpty.eq_2
  ClientConnectionPc.sawEmpty.eq_3

attribute [simp] ClientConnectionPc.holding.eq_1 ClientConnectionPc.holding.eq_2
  ClientConnectionPc.holding.eq_3

@[simp] theorem AcceptPc.unpublished_afterWait (outcome : WaitOutcome) :
    (AcceptPc.afterWait outcome).unpublished = none := by
  cases outcome <;> rfl

@[simp] theorem AcceptPc.unpublished_signalled (pc : AcceptPc) :
    pc.signalled.unpublished = pc.unpublished := by
  unfold signalled
  split <;> rfl

@[simp] theorem AcceptPc.unpublished_afterWrite (fd : ClientFd) (w : WriteAll) (k : Nat) :
    (AcceptPc.afterWrite fd w k).unpublished = some fd := by
  unfold afterWrite
  split <;> rfl

@[simp] theorem AcceptPc.afterWrite_ne_store (fd d : ClientFd) (w : WriteAll) (k : Nat) :
    AcceptPc.afterWrite fd w k ≠ .store d := by
  unfold afterWrite
  split <;> simp

@[simp] theorem AcceptPc.afterWait_ne_store (outcome : WaitOutcome) (d : ClientFd) :
    AcceptPc.afterWait outcome ≠ .store d := by
  cases outcome <;> simp [afterWait]

@[simp] theorem AcceptPc.signalled_eq_store (pc : AcceptPc) (d : ClientFd) :
    pc.signalled = .store d ↔ pc = .store d := by
  unfold signalled
  split <;> simp

@[simp] theorem ClientConnectionPc.serving_afterWrite (w : WriteAll) (k : Nat) :
    (ClientConnectionPc.afterWrite w k).serving = true := by
  unfold afterWrite
  split <;> rfl

@[simp] theorem ClientConnectionPc.serving_afterCleanup (cancelled : Bool) :
    (ClientConnectionPc.afterCleanup cancelled).serving = false := by
  cases cancelled <;> rfl

@[simp] theorem ClientConnectionPc.serving_signalled (pc : ClientConnectionPc) :
    pc.signalled.serving = pc.serving := by
  cases pc <;> rfl

@[simp] theorem ClientConnectionPc.loaded_afterWrite (w : WriteAll) (k : Nat) :
    (ClientConnectionPc.afterWrite w k).loaded = none := by
  unfold afterWrite
  split <;> rfl

@[simp] theorem ClientConnectionPc.loaded_afterCleanup (cancelled : Bool) :
    (ClientConnectionPc.afterCleanup cancelled).loaded = none := by
  cases cancelled <;> rfl

@[simp] theorem ClientConnectionPc.loaded_signalled (pc : ClientConnectionPc) :
    pc.signalled.loaded = pc.loaded := by
  cases pc <;> rfl

theorem ClientConnectionPc.holds_of_loaded {pc : ClientConnectionPc} {fd : Option ClientFd}
    (loaded : pc.loaded = some fd) : pc.holdsClientReady = true := by
  cases pc <;> simp_all

@[simp] theorem ClientConnectionPc.sawEmpty_afterWrite (w : WriteAll) (k : Nat) :
    (ClientConnectionPc.afterWrite w k).sawEmpty = false := by
  unfold afterWrite
  split <;> rfl

@[simp] theorem ClientConnectionPc.sawEmpty_afterCleanup (cancelled : Bool) :
    (ClientConnectionPc.afterCleanup cancelled).sawEmpty = false := by
  cases cancelled <;> rfl

@[simp] theorem ClientConnectionPc.sawEmpty_signalled (pc : ClientConnectionPc) :
    pc.signalled.sawEmpty = pc.sawEmpty := by
  cases pc <;> rfl

@[simp] theorem ClientConnectionPc.holding_afterWrite (w : WriteAll) (k : Nat) :
    (ClientConnectionPc.afterWrite w k).holding = none := by
  unfold afterWrite
  split <;> rfl

@[simp] theorem ClientConnectionPc.holding_afterCleanup (cancelled : Bool) :
    (ClientConnectionPc.afterCleanup cancelled).holding = none := by
  cases cancelled <;> rfl

@[simp] theorem ClientConnectionPc.holding_signalled (pc : ClientConnectionPc) :
    pc.signalled.holding = pc.holding := by
  cases pc <;> rfl

theorem ClientConnectionPc.holds_of_sawEmpty {pc : ClientConnectionPc}
    (sawEmpty : pc.sawEmpty = true) : pc.holdsClientReady = true := by
  cases pc <;> simp_all

theorem ClientConnectionPc.holds_of_serving {pc : ClientConnectionPc}
    (serving : pc.serving = true) : pc.holdsClientReady = true := by
  cases pc <;> simp_all

theorem Handoff.start (config : Config) : Handoff [] (.start config) := by
  constructor <;> simp [State.start, Stored, Cleaned]

theorem Handoff.frame {a : Action} (handoff : Handoff actions s)
    (noStore : ∀ fd, a ≠ .accept (.store fd))
    (noCleanup : ∀ fd flag, a ≠ .clientConnection (.cleanupStore fd flag))
    (slot : s'.clientReady.clientFd = s.clientReady.clientFd)
    (phases : ∀ c, (s.kernel.connections c).phase = .accepted →
      (s'.kernel.connections c).phase = .accepted)
    (unpublished : ∀ fd, s'.accept.unpublished = some fd → s.accept.unpublished = some fd ∨
      (s'.kernel.connections fd.connection).phase = .accepted ∧
        (s.kernel.connections fd.connection).phase = .pending)
    (serving : s'.clientConnection.serving = true → s.clientConnection.serving = true ∨
      ∃ fd, a = .clientConnection (.take fd) ∧ s.clientReady.clientFd = some fd)
    (loaded : ∀ fd, s'.clientConnection.loaded = some fd →
      s.clientConnection.loaded = some fd ∨ s.clientReady.clientFd = fd)
    (empty : s'.clientConnection.sawEmpty = true →
      s.clientConnection.sawEmpty = true ∨ s.clientReady.clientFd = none)
    (holding : ∀ fd, s'.clientConnection.holding = some fd →
      s.clientConnection.holding = some fd) :
    Handoff (actions ++ [a]) s' := by
  have stored_iff : ∀ fd, Stored (actions ++ [a]) fd ↔ Stored actions fd := by
    intro fd
    simp [Stored, (noStore fd).symm]
  have cleaned_iff : ∀ fd, Cleaned (actions ++ [a]) fd ↔ Cleaned actions fd := by
    intro fd
    simp [Cleaned, fun flag => (noCleanup (some fd) flag).symm]
  constructor
  · intro fd stored
    exact phases _ (handoff.stored fd ((stored_iff fd).mp stored))
  · intro fd here
    simp only [stored_iff]
    rcases unpublished fd here with before | ⟨accepted, pending⟩
    · obtain ⟨accepted, fresh⟩ := handoff.unpublished fd before
      exact ⟨phases _ accepted, fresh⟩
    · refine ⟨accepted, fun d stored same => ?_⟩
      have := handoff.stored d stored
      simp_all
  · intro fd here
    rw [stored_iff, cleaned_iff]
    exact handoff.slot fd (slot ▸ here)
  · intro fd cleaned
    rw [stored_iff]
    exact handoff.cleaned fd ((cleaned_iff fd).mp cleaned)
  · intro now
    rcases serving now with before | ⟨fd, rfl, taken⟩
    · obtain ⟨fd, here, taken⟩ := handoff.serving before
      exact ⟨fd, slot ▸ here, List.mem_append_left _ taken⟩
    · exact ⟨fd, slot ▸ taken, by simp [Taken]⟩
  · intro fd here
    rw [slot]
    exact (loaded fd here).elim (handoff.loaded fd) id
  · intro now
    rw [slot]
    exact (empty now).elim handoff.empty id
  · intro fd here
    rw [cleaned_iff]
    exact handoff.holding fd (holding fd here)

theorem act_accepted {a : Action} {c : ConnId} (taken : act s a = some s')
    (accepted : (s.kernel.connections c).phase = .accepted) :
    (s'.kernel.connections c).phase = .accepted := by
  cases a with
  | setupThreads | setupChild | childWait =>
      rwa [(act_sameStreams taken id).connections]
  | parent a =>
      cases a <;> simp only [act, parent, require_eq_some] at taken <;>
        obtain ⟨-, rfl⟩ := taken <;> simp [accepted]
  | accept a =>
      cases a <;> simp only [act, threadRoutineAccept, require_eq_some,
        Option.ite_none_right_eq_some, Option.map_eq_some_iff] at taken
      case waitForChildReady w a =>
        obtain ⟨-, r, -, rfl⟩ := taken
        exact accepted
      all_goals
        obtain ⟨-, rfl⟩ := taken
        simp [accepted]
      split
      · rfl
      · exact accepted
  | clientConnection a =>
      cases a <;> simp only [act, threadRoutineClientConnection, require_eq_some] at taken <;>
        obtain ⟨-, rfl⟩ := taken <;> simp [accepted]
      split
      · simp_all
      · exact accepted
  | child a =>
      cases a <;> simp only [act, child, Option.map_eq_some_iff, require_eq_some] at taken <;>
        obtain ⟨k, ⟨-, rfl⟩, rfl⟩ := taken <;> simp [accepted]
  | client a =>
      cases a <;> simp only [act, client, Option.map_eq_some_iff, require_eq_some] at taken <;>
        obtain ⟨k, ⟨guard, rfl⟩, rfl⟩ := taken <;> simp only [connections_setConnection] <;>
        split <;> simp_all

theorem Handoff.byAccept {a : AcceptAction} (handoff : Handoff actions s)
    (taken : act s (.accept a) = some s') (noStore : ∀ fd, a ≠ .store fd)
    (slot : s'.clientReady.clientFd = s.clientReady.clientFd)
    (clientConnection : s'.clientConnection = s.clientConnection ∨
      s'.clientConnection = s.clientConnection.signalled)
    (unpublished : ∀ fd, s'.accept.unpublished = some fd → s.accept.unpublished = some fd ∨
      (s'.kernel.connections fd.connection).phase = .accepted ∧
        (s.kernel.connections fd.connection).phase = .pending) :
    Handoff (actions ++ [.accept a]) s' := by
  apply handoff.frame
  · simpa using noStore
  · simp
  · exact slot
  · exact fun c => act_accepted taken
  · exact unpublished
  all_goals
    rcases clientConnection with same | same <;> simp +contextual [same]

theorem Handoff.threadRoutineAccept {a : AcceptAction} (handoff : Handoff actions s)
    (owned : ClientReadyOwned s) (taken : act s (.accept a) = some s') :
    Handoff (actions ++ [.accept a]) s' := by
  have step := handoff.byAccept taken
  cases a <;> simp only [Server.act, Server.threadRoutineAccept, require_eq_some] at taken
  case waitForChildReady w a =>
    simp only [Option.ite_none_right_eq_some, Option.map_eq_some_iff] at taken
    obtain ⟨here, r, waited, rfl⟩ := taken
    exact step (by simp) rfl (.inl rfl) (by simp)
  case accepted c =>
    obtain ⟨⟨here, pending⟩, rfl⟩ := taken
    refine step (by simp) rfl (.inl rfl) ?_
    intro fd new
    obtain rfl := Option.some.inj new
    exact .inr ⟨by simp, pending⟩
  case store fd =>
    obtain ⟨here, rfl⟩ := taken
    obtain ⟨accepted, fresh⟩ := handoff.unpublished fd (by simp [here])
    have idle : s.clientConnection.holdsClientReady ≠ true := by
      intro holds
      have mutex := owned.accept.mpr (by simp [here])
      simp [owned.held holds] at mutex
    have notCleaned : ¬ Cleaned actions fd := fun cleaned =>
      fresh fd (handoff.cleaned fd cleaned) rfl
    constructor
    · intro d stored
      simp only [Stored, List.mem_append, List.mem_singleton, Action.accept.injEq,
        AcceptAction.store.injEq] at stored
      rcases stored with before | rfl
      · exact handoff.stored d before
      · exact accepted
    · simp
    · intro d here
      simp_all
    · intro d cleaned
      simp only [Cleaned, List.mem_append, List.mem_singleton, reduceCtorEq, or_false] at cleaned
      exact List.mem_append_left _ (handoff.cleaned d cleaned)
    · exact fun serving => absurd (ClientConnectionPc.holds_of_serving serving) idle
    · exact fun d loaded => absurd (ClientConnectionPc.holds_of_loaded loaded) idle
    · exact fun sawEmpty => absurd (ClientConnectionPc.holds_of_sawEmpty sawEmpty) idle
    · intro d here
      obtain ⟨flag, cleaned⟩ := handoff.holding d here
      exact ⟨flag, List.mem_append_left _ cleaned⟩
  case signal fd =>
    obtain ⟨guard, rfl⟩ := taken
    exact step (by simp) rfl (.inr rfl) (by simp)
  all_goals
    obtain ⟨guard, rfl⟩ := taken
    exact step (by simp) rfl (.inl rfl) (by simp +contextual [guard])

theorem Handoff.threadRoutineClientConnection {a : ClientConnectionAction}
    (handoff : Handoff actions s) (taken : act s (.clientConnection a) = some s') :
    Handoff (actions ++ [.clientConnection a]) s' := by
  have phases := fun c => act_accepted (c := c) taken
  cases a <;>
    simp only [Server.act, Server.threadRoutineClientConnection, require_eq_some] at taken <;>
    obtain ⟨guard, rfl⟩ := taken
  case cleanupStore fd flag =>
    have slot := handoff.loaded fd (by simp [guard])
    constructor
    · intro d stored
      simp only [Stored, List.mem_append, List.mem_singleton, reduceCtorEq, or_false] at stored
      exact handoff.stored d stored
    · intro d here
      obtain ⟨accepted, fresh⟩ := handoff.unpublished d here
      refine ⟨accepted, fun e stored => ?_⟩
      simp only [Stored, List.mem_append, List.mem_singleton, reduceCtorEq, or_false] at stored
      exact fresh e stored
    · simp
    · intro d cleaned
      simp only [Cleaned, List.mem_append, List.mem_singleton] at cleaned
      obtain ⟨flag', before | new⟩ := cleaned
      · exact List.mem_append_left _ (handoff.cleaned d ⟨flag', before⟩)
      · simp only [Action.clientConnection.injEq, ClientConnectionAction.cleanupStore.injEq] at new
        exact List.mem_append_left _ (handoff.slot d (by rw [slot, ← new.1])).1
    case holding =>
      intro d here
      obtain rfl : fd = some d := by simpa using here
      exact ⟨flag, by simp⟩
    all_goals simp
  all_goals
    refine handoff.frame (by simp) (by simp) rfl phases (fun _ => .inl) ?_ ?_ ?_ ?_ <;>
      simp +contextual [guard]

theorem Handoff.act {a : Action} (handoff : Handoff actions s) (owned : ClientReadyOwned s)
    (taken : act s a = some s') : Handoff (actions ++ [a]) s' := by
  cases a with
  | accept a => exact handoff.threadRoutineAccept owned taken
  | clientConnection a => exact handoff.threadRoutineClientConnection taken
  | setupThreads | setupChild | parent | childWait | child | client =>
      have phases := fun c => act_accepted (c := c) taken
      obtain ⟨slot, accept, clientConnection⟩ := act_sameHandoff taken id
      apply handoff.frame
      · simp
      · simp
      · rw [slot]
      · exact phases
      · rcases accept with same | same | ⟨-, same⟩ <;> simp_all
      · rcases clientConnection with same | ⟨-, same⟩ <;> simp_all
      · rcases clientConnection with same | ⟨-, same⟩ <;> simp_all
      · rcases clientConnection with same | ⟨-, same⟩ <;> simp_all
      · rcases clientConnection with same | ⟨-, same⟩ <;> simp_all

theorem Handoff.run {ok : State → Action → Prop} (run : system.RunWhere ok actions s) :
    Handoff actions s := by
  refine run.invariant ?_ ?_
  · rintro _ ⟨config, rfl⟩
    exact .start config
  · intro _ s a s' before handoff _ step
    exact handoff.act (.run before) (system_step.mp step).2

theorem stored_ready {ok : State → Action → Prop} (run : system.RunWhere ok actions s) :
    ∀ fd, Stored actions fd → s.main.ready = true := by
  induction run with
  | start => simp
  | @snoc actions s a s' run _ step ih =>
      intro fd stored
      have taken := (system_step.mp step).2
      simp only [Stored, List.mem_append, List.mem_singleton] at stored
      rcases stored with before | rfl
      · exact ready_mono taken (ih fd before)
      · have here : s.accept = .store fd := by
          simp only [Server.act, Server.threadRoutineAccept, require_eq_some] at taken
          exact taken.1
        exact ready_mono taken ((Lifecycle.run run).accept (by simp [here]))

/-- accept() returns every connection once, so it is handed over once. -/
theorem stored_unique {ok : State → Action → Prop} (run : system.RunWhere ok actions s) :
    ∀ a b, Stored actions a → Stored actions b → a.connection = b.connection → a = b := by
  induction run with
  | start => simp
  | @snoc actions s e s' run _ step ih =>
      have taken := (system_step.mp step).2
      intro a b storedA storedB same
      have fresh : ∀ fd d, e = .accept (.store fd) → Stored actions d →
          d.connection ≠ fd.connection := by
        rintro fd d rfl stored
        have here : s.accept = .store fd := by
          simp only [Server.act, Server.threadRoutineAccept, require_eq_some] at taken
          exact taken.1
        exact ((Handoff.run run).unpublished fd (by simp [here])).2 d stored
      simp only [Stored, List.mem_append, List.mem_singleton] at storedA storedB
      rcases storedA with beforeA | newA <;> rcases storedB with beforeB | newB
      · exact ih a b beforeA beforeB same
      · exact absurd same (fresh b a newB.symm beforeA)
      · exact absurd same.symm (fresh a b newA.symm beforeB)
      · simpa using newA.trans newB.symm

theorem act_servingSlot {a : Action} (owned : ClientReadyOwned s) (taken : act s a = some s')
    (serving : s.clientConnection.serving = true) (other : ∀ b, a ≠ .clientConnection b) :
    s'.clientReady.clientFd = s.clientReady.clientFd := by
  cases a with
  | clientConnection b => exact absurd rfl (other b)
  | accept a =>
      cases a <;> simp only [act, Server.threadRoutineAccept, require_eq_some,
        Option.ite_none_right_eq_some, Option.map_eq_some_iff] at taken
      case waitForChildReady w a =>
        obtain ⟨-, r, -, rfl⟩ := taken
        rfl
      case store fd =>
        have held := owned.held (ClientConnectionPc.holds_of_serving serving)
        have mutex := owned.accept.mpr (by simp [taken.1])
        simp [held] at mutex
      all_goals
        obtain ⟨-, rfl⟩ := taken
        rfl
  | setupThreads | setupChild | parent | childWait | child | client =>
      rw [(act_sameHandoff taken id).clientReady]

theorem taken_cleaned {ok : State → Action → Prop} (run : system.RunWhere ok actions s) :
    ∀ fd, Taken actions fd → Cleaned actions fd ∨
      s.clientConnection.serving = true ∧ s.clientReady.clientFd = some fd := by
  induction run with
  | start => simp
  | @snoc actions s e s' run meets step ih =>
      have act := (system_step.mp step).2
      clear meets step
      intro fd new
      have before : Taken actions fd ∨ e = .clientConnection (.take fd) := by
        simpa [Taken, eq_comm] using new
      have kept : Cleaned actions fd → Cleaned (actions ++ [e]) fd := fun ⟨flag, cleaned⟩ =>
        ⟨flag, List.mem_append_left _ cleaned⟩
      by_cases own : ∃ b, e = .clientConnection b
      · obtain ⟨b, rfl⟩ := own
        rcases before with before | now
        · rcases ih fd before with cleaned | ⟨serving, slot⟩
          · exact .inl (kept cleaned)
          · have loaded := (Handoff.run run).loaded
            cases b <;> simp only [Server.act, Server.threadRoutineClientConnection,
              require_eq_some] at act <;> obtain ⟨guard, rfl⟩ := act
            case cleanupStore d flag =>
              obtain rfl : some fd = d := slot.symm.trans (loaded d (by simp [guard]))
              exact .inl ⟨flag, by simp⟩
            all_goals simp_all
        · obtain rfl : _ = ClientConnectionAction.take fd := by simpa using now
          simp only [Server.act, Server.threadRoutineClientConnection, require_eq_some] at act
          obtain ⟨⟨-, slot⟩, rfl⟩ := act
          exact .inr ⟨rfl, slot⟩
      · have other := fun b equal => own ⟨b, equal⟩
        have before := before.resolve_right (other _)
        refine (ih fd before).imp kept ?_
        rintro ⟨serving, slot⟩
        rw [act_servingSlot (.run run) act serving other]
        refine ⟨?_, slot⟩
        rcases act_sameClientConnection act other with same | same | ⟨main, -⟩
        · rw [same, serving]
        · rw [same, ClientConnectionPc.serving_signalled, serving]
        · have fresh : s.clientConnection = .notCreated :=
            (Lifecycle.run run).notCreated .clientConnection (by simp [main, MainPc.toCreate])
          simp [fresh] at serving

theorem serving_stdin {ok : State → Action → Prop} (run : system.RunWhere ok actions s)
    (serving : s.clientConnection.serving = true) :
    s.childStdinFdCell = some (s.pipeFds .main .write) := by
  obtain ⟨fd, slot, -⟩ := (Handoff.run run).serving serving
  have ready := (Lifecycle.run run).slot (by simp [slot])
  exact (Progress.run run).stdinStored (by unfold MainPc.stdinStored; split <;> simp [ready])

end Usockit.Server
