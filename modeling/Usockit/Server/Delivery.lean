import Usockit.Server.Rejection

namespace Usockit.Server
open Foundation

variable {s s' : State} {actions : List Action}

/-- The accept thread gets the lock only when the connection thread has taken what was handed over
before, and after a failed attempt it does not see -1 in the slot. -/
def HandsOverInTurn (s : State) : Action → Prop
  | .accept (.trylockAcquired _) => s.clientReady.clientFd = none
  | .accept (.slotEmpty _) => False
  | _ => True

instance (s : State) (a : Action) : Decidable (HandsOverInTurn s a) := by
  cases a with
  | accept b =>
      cases b with
      | trylockAcquired => exact inferInstanceAs (Decidable (_ = none))
      | slotEmpty => exact instDecidableFalse
      | _ => exact instDecidableTrue
  | _ => exact instDecidableTrue

abbrev Rejected (actions : List Action) (fd : ClientFd) : Prop :=
  Action.accept (.callWriteAll fd) ∈ actions

def AcceptPc.rejecting : AcceptPc → Option ClientFd
  | .write fd _ | .cleanupPop fd true => some fd
  | _ => none

def AcceptPc.closing : AcceptPc → Option ClientFd
  | .cleanupPop fd true | .cleanupRoutine fd => some fd
  | _ => none

structure NoConnectionLost (actions : List Action) (s : State) : Prop where
  store : ∀ fd, s.accept = .store fd → s.clientReady.clientFd = none
  closing : ∀ fd, s.accept.closing = some fd → Rejected actions fd
  accepted : ∀ c, Action.accept (.accepted c) ∈ actions → ∃ fd, fd.connection = c ∧
    (s.accept.unpublished = some fd ∨ s.clientReady.clientFd = some fd ∨ Taken actions fd ∨
      Rejected actions fd)

structure Delivery (actions : List Action) (s : State) : Prop where
  store : ∀ fd, s.accept = .store fd → s.clientReady.clientFd = none
  spurious : ∀ fd, s.accept ≠ .testcancelSpurious fd
  rejecting : ∀ fd, s.accept.rejecting = some fd → Rejected actions fd
  accepted : ∀ c, Action.accept (.accepted c) ∈ actions → ∃ fd, fd.connection = c ∧
    (s.accept.unpublished = some fd ∨ s.clientReady.clientFd = some fd ∨ Taken actions fd ∨
      Rejected actions fd)

attribute [simp] AcceptPc.rejecting.eq_1 AcceptPc.rejecting.eq_2 AcceptPc.rejecting.eq_3

@[simp] theorem AcceptPc.rejecting_afterWait (outcome : WaitOutcome) :
    (AcceptPc.afterWait outcome).rejecting = none := by
  cases outcome <;> rfl

@[simp] theorem AcceptPc.rejecting_signalled (pc : AcceptPc) :
    pc.signalled.rejecting = pc.rejecting := by
  unfold signalled
  split <;> rfl

@[simp] theorem AcceptPc.rejecting_afterWrite (fd : ClientFd) (w : WriteAll) (k : Nat) :
    (AcceptPc.afterWrite fd w k).rejecting = some fd := by
  unfold afterWrite
  split <;> rfl

@[simp] theorem AcceptPc.afterWrite_ne_testcancelSpurious (fd d : ClientFd) (w : WriteAll)
    (k : Nat) : AcceptPc.afterWrite fd w k ≠ .testcancelSpurious d := by
  unfold afterWrite
  split <;> simp

@[simp] theorem AcceptPc.afterWait_ne_testcancelSpurious (outcome : WaitOutcome) (d : ClientFd) :
    AcceptPc.afterWait outcome ≠ .testcancelSpurious d := by
  cases outcome <;> simp [afterWait]

@[simp] theorem AcceptPc.signalled_eq_testcancelSpurious (pc : AcceptPc) (d : ClientFd) :
    pc.signalled = .testcancelSpurious d ↔ pc = .testcancelSpurious d := by
  unfold signalled
  split <;> simp

theorem Delivery.start (config : Config) : Delivery [] (.start config) := by
  constructor <;> simp [State.start]

theorem Delivery.frame {a : Action} (delivery : Delivery actions s)
    (noAccept : ∀ c, a ≠ .accept (.accepted c))
    (store : ∀ fd, s'.accept = .store fd → s'.clientReady.clientFd = none)
    (spurious : ∀ fd, s'.accept ≠ .testcancelSpurious fd)
    (rejecting : ∀ fd, s'.accept.rejecting = some fd → s.accept.rejecting = some fd ∨
      a = .accept (.callWriteAll fd))
    (unpublished : ∀ fd, s.accept.unpublished = some fd → s'.accept.unpublished = some fd ∨
      s'.clientReady.clientFd = some fd ∨ Rejected actions fd)
    (slot : ∀ fd, s.clientReady.clientFd = some fd → s'.clientReady.clientFd = some fd ∨
      Taken actions fd) : Delivery (actions ++ [a]) s' := by
  refine ⟨store, spurious, ?_, ?_⟩
  · intro fd here
    rcases rejecting fd here with before | rfl
    · exact List.mem_append_left _ (delivery.rejecting fd before)
    · simp [Rejected]
  · intro c accepted
    have before : Action.accept (.accepted c) ∈ actions := by
      simpa [(noAccept c).symm] using accepted
    obtain ⟨fd, rfl, place⟩ := delivery.accepted c before
    refine ⟨fd, rfl, ?_⟩
    rcases place with here | here | taken | rejected
    · rcases unpublished fd here with still | stored | rejected
      · exact .inl still
      · exact .inr (.inl stored)
      · exact .inr (.inr (.inr (List.mem_append_left _ rejected)))
    · rcases slot fd here with still | taken
      · exact .inr (.inl still)
      · exact .inr (.inr (.inl (List.mem_append_left _ taken)))
    · exact .inr (.inr (.inl (List.mem_append_left _ taken)))
    · exact .inr (.inr (.inr (List.mem_append_left _ rejected)))

theorem Delivery.threadRoutineAccept {a : AcceptAction} (delivery : Delivery actions s)
    (inTurn : HandsOverInTurn s (.accept a)) (taken : threadRoutineAccept s a = some s') :
    Delivery (actions ++ [.accept a]) s' := by
  have store := delivery.store
  have spurious := delivery.spurious
  have rejecting := delivery.rejecting
  cases a <;> simp only [Server.threadRoutineAccept, require_eq_some] at taken
  case waitForChildReady w a =>
    simp only [Option.ite_none_right_eq_some, Option.map_eq_some_iff] at taken
    obtain ⟨here, r, waited, rfl⟩ := taken
    apply delivery.frame <;> simp_all
  case accepted c =>
    obtain ⟨⟨here, pending⟩, rfl⟩ := taken
    refine ⟨by simp, by simp, by simp, fun c' accepted => ?_⟩
    simp only [List.mem_append, List.mem_singleton, Action.accept.injEq,
      AcceptAction.accepted.injEq] at accepted
    rcases accepted with before | rfl
    · obtain ⟨fd, same, place⟩ := delivery.accepted c' before
      refine ⟨fd, same, .inr ?_⟩
      simpa [here, Taken, Rejected] using place
    · exact ⟨_, rfl, .inl rfl⟩
  case slotEmpty fd => exact inTurn.elim
  case cancelPushed fd =>
    obtain ⟨⟨here, -⟩, rfl⟩ := taken
    apply delivery.frame <;> simp_all
    rcases here with here | ⟨w, here⟩ <;> simp_all
  all_goals
    obtain ⟨guard, rfl⟩ := taken
    simp only [HandsOverInTurn] at inTurn
    apply delivery.frame <;> simp_all

theorem Delivery.elsewhere {a : Action} (delivery : Delivery actions s) (life : Lifecycle s)
    (taken : act s a = some s') (other : ∀ b, a ≠ .accept b)
    (slot : ∀ fd, s.clientReady.clientFd = some fd → s'.clientReady.clientFd = some fd ∨
      Taken actions fd) : Delivery (actions ++ [a]) s' := by
  have emptied : s.clientReady.clientFd = none → s'.clientReady.clientFd = none := by
    intro empty
    cases here : s'.clientReady.clientFd with
    | none => rfl
    | some d => simp [slot_of_step taken other here] at empty
  have noAccept (c : ConnId) : a ≠ .accept (.accepted c) := other _
  rcases act_sameAccept taken other with same | same | ⟨main, same⟩
  · exact delivery.frame noAccept (fun fd here => emptied (delivery.store fd (same ▸ here)))
      (same ▸ delivery.spurious) (by rw [same]; exact fun _ => .inl)
      (by rw [same]; exact fun _ => .inl) slot
  · refine delivery.frame noAccept (fun fd here => emptied (delivery.store fd ?_)) ?_
      (by simp +contextual [same]) (by simp +contextual [same]) slot
    · simpa [same] using here
    · simpa [same] using delivery.spurious
  · have fresh : s.accept = .notCreated := life.notCreated .accept (by simp [main, MainPc.toCreate])
    exact delivery.frame noAccept (by simp [same]) (by simp [same]) (by simp [same])
      (by simp [fresh]) slot

theorem Delivery.act {a : Action} (delivery : Delivery actions s) (handoff : Handoff actions s)
    (life : Lifecycle s) (inTurn : HandsOverInTurn s a) (taken : act s a = some s') :
    Delivery (actions ++ [a]) s' := by
  cases a with
  | accept a => exact delivery.threadRoutineAccept inTurn taken
  | clientConnection a =>
      refine delivery.elsewhere life taken (by simp) ?_
      cases a <;> simp only [Server.act, Server.threadRoutineClientConnection,
        require_eq_some] at taken <;> obtain ⟨guard, rfl⟩ := taken
      case cleanupStore fd flag =>
        obtain ⟨d, here, taken⟩ := handoff.serving (by simp [guard])
        intro e occupied
        obtain rfl := Option.some.inj (here.symm.trans occupied)
        exact .inr taken
      all_goals exact fun _ => .inl
  | setupThreads | setupChild | parent | childWait | child | client =>
      refine delivery.elsewhere life taken (by simp) ?_
      rw [(act_sameHandoff taken id).clientReady]
      exact fun _ => .inl

theorem Delivery.run (run : system.RunWhere HandsOverInTurn actions s) : Delivery actions s := by
  refine run.invariant ?_ ?_
  · rintro _ ⟨config, rfl⟩
    exact .start config
  · intro _ s a s' before delivery inTurn step
    exact delivery.act (.run before) (.run before) inTurn (system_step.mp step).2

theorem handoff_lossless (run : system.RunWhere HandsOverInTurn actions s)
    (uncancelled : s.Uncancelled) : NoConnectionLost actions s := by
  have delivery := Delivery.run run
  refine ⟨delivery.store, fun fd closing => ?_, delivery.accepted⟩
  cases here : s.accept with
  | cleanupPop d doCleanup =>
      cases doCleanup
      · simp [here, AcceptPc.closing] at closing
      · exact delivery.rejecting fd (by simpa [here, AcceptPc.closing] using closing)
  | cleanupRoutine d =>
      have requested := (CancelRequested.run run).accept (by simp [here])
      simp [uncancelled _] at requested
  | _ => simp [here, AcceptPc.closing] at closing

def overwrite : List Action :=
  startUp ++ handOver ⟨4, 0⟩ ++
    [.client (.connect 1), .accept (.accepted 1), .accept (.trylockAcquired ⟨7, 1⟩)]

/-- The first client connects while the connection thread has the mutex after a spurious wake-up. -/
def silentClose : List Action :=
  startUp ++
    [.clientConnection .wake, .clientConnection .relock,
     .client (.connect 0), .accept (.accepted 0), .accept (.trylockBusy ⟨4, 0⟩),
     .accept (.slotEmpty ⟨4, 0⟩), .accept (.testcancelSpurious ⟨4, 0⟩)]

theorem handoff_not_lossless :
    (¬ ∀ actions s, system.Run actions s → s.Uncancelled →
      ∀ fd, s.accept = .store fd → s.clientReady.clientFd = none) ∧
    (¬ ∀ actions s, system.Run actions s → s.Uncancelled →
      ∀ fd, s.accept.closing = some fd → Rejected actions fd) := by
  constructor
  · intro claim
    obtain ⟨s, path, uncancelled, storing, occupied⟩ :
        ∃ s, system.exec (.start .shell) overwrite = some s ∧ s.Uncancelled ∧
          s.accept = .store ⟨7, 1⟩ ∧ s.clientReady.clientFd = some ⟨4, 0⟩ :=
      System.exists_exec (by decide +kernel)
    have lost := claim _ s (System.run_of_exec ⟨_, rfl⟩ path) uncancelled _ storing
    simp [occupied] at lost
  · intro claim
    obtain ⟨s, path, uncancelled, closing⟩ :
        ∃ s, system.exec (.start .shell) silentClose = some s ∧ s.Uncancelled ∧
          s.accept.closing = some ⟨4, 0⟩ :=
      System.exists_exec (by decide +kernel)
    exact absurd (claim _ s (System.run_of_exec ⟨_, rfl⟩ path) uncancelled _ closing) (by decide)

def secondRejected : List Action :=
  startUp ++ handOver ⟨4, 0⟩ ++
    [.clientConnection .relock, .clientConnection (.take ⟨4, 0⟩),
     .client (.connect 1), .accept (.accepted 1), .accept (.trylockBusy ⟨7, 1⟩),
     .accept (.slotTaken ⟨7, 1⟩), .accept (.callWriteAll ⟨7, 1⟩)]

theorem handoff_lossless_secondRejected :
    ∃ s, system.exec (.start .shell) secondRejected = some s ∧
      NoConnectionLost secondRejected s := by
  obtain ⟨s, path, uncancelled⟩ :
      ∃ s, system.exec (.start .shell) secondRejected = some s ∧ s.Uncancelled :=
    System.exists_exec (by decide +kernel)
  have run : system.RunWhere HandsOverInTurn secondRejected s :=
    System.runWhere_of_exec ⟨_, rfl⟩ path (by decide +kernel)
  exact ⟨s, path, handoff_lossless run uncancelled⟩

end Usockit.Server
