import Usockit.Server.Handoff

namespace Usockit.Server
open Foundation

variable {s s' u : State} {actions middle : List Action} {d : ClientFd}

theorem slot_of_step {a : Action} (taken : act s a = some s') (other : ∀ b, a ≠ .accept b)
    (occupied : s'.clientReady.clientFd = some d) : s.clientReady.clientFd = some d := by
  cases a with
  | accept b => exact absurd rfl (other b)
  | clientConnection a =>
      cases a <;> simp only [act, threadRoutineClientConnection, require_eq_some] at taken <;>
        obtain ⟨guard, rfl⟩ := taken
      case cleanupStore => simp at occupied
      all_goals exact occupied
  | setupThreads | setupChild | parent | childWait | child | client =>
      rw [← (act_sameHandoff taken id).clientReady]
      exact occupied

theorem owner_of_step {a : Action} (handoff : Handoff actions s) (taken : act s a = some s')
    (other : ∀ b, a ≠ .accept b) (owner : s.clientReady.mutex = some .clientConnection)
    (occupied : s'.clientReady.clientFd = some d) :
    s'.clientReady.mutex = some .clientConnection := by
  cases a with
  | accept b => exact absurd rfl (other b)
  | clientConnection a =>
      have empty := handoff.empty
      cases a <;> simp only [act, threadRoutineClientConnection, require_eq_some] at taken <;>
        obtain ⟨guard, rfl⟩ := taken <;> simp_all
  | setupThreads | setupChild | parent | childWait | child | client =>
      rw [(act_sameHandoff taken id).clientReady]
      exact owner

theorem occupied_path (run : system.Run actions u) (path : system.exec u middle = some s)
    (others : ∀ b, Action.accept b ∉ middle) (occupied : s.clientReady.clientFd = some d) :
    u.clientReady.clientFd = some d ∧ (u.clientReady.mutex = some .clientConnection →
      ∀ first rest v, middle = first ++ rest → system.exec u first = some v →
        v.clientReady.mutex = some .clientConnection) := by
  induction middle generalizing u actions with
  | nil =>
      obtain rfl : u = s := by simpa [System.exec] using path
      refine ⟨occupied, fun owner first rest v split reached => ?_⟩
      obtain ⟨rfl, rfl⟩ := List.append_eq_nil_iff.mp split.symm
      obtain rfl : u = v := by simpa [System.exec] using reached
      exact owner
  | cons a middle ih =>
      obtain ⟨next, step, later⟩ : ∃ next, system.step u a = some next ∧
          system.exec next middle = some s := by
        simpa [System.exec, Option.bind_eq_some_iff] using path
      have taken := (system_step.mp step).2
      have other : ∀ b, a ≠ .accept b := fun b same => others b (by simp [same])
      obtain ⟨occupiedNext, kept⟩ := ih (.snoc run trivial step) later
        (fun b here => others b (List.mem_cons_of_mem _ here))
      refine ⟨slot_of_step taken other occupiedNext, fun owner first rest v split reached => ?_⟩
      have ownerNext := owner_of_step (.run run) taken other owner occupiedNext
      cases first with
      | nil =>
          obtain rfl : u = v := by simpa [System.exec] using reached
          exact owner
      | cons b first =>
          obtain ⟨rfl, tail⟩ : a = b ∧ middle = first ++ rest := by simpa using split
          exact kept ownerNext first rest v tail (by simpa [System.exec, step] using reached)

theorem ClientReadyOwned.of_busy (owned : ClientReadyOwned s)
    (accept : s.accept.holdsClientReady = false) (busy : s.clientReady.mutex ≠ none) :
    s.clientReady.mutex = some .clientConnection := by
  cases owner : s.clientReady.mutex with
  | none => exact absurd owner busy
  | some t =>
      cases t with
      | main => exact absurd owner owned.main
      | childWait => exact absurd owner owned.childWait
      | clientConnection => rfl
      | accept => simp [owned.accept.mp owner] at accept

/-- A connection thread that owns the mutex of an occupied slot takes or serves a connection. -/
theorem Handoff.busy (handoff : Handoff actions s) (owned : ClientReadyOwned s)
    (running : s.clientConnection ≠ .ended)
    (owner : s.clientReady.mutex = some .clientConnection)
    (occupied : s.clientReady.clientFd = some d) :
    s.clientConnection = .test ∨ s.clientConnection.serving = true := by
  have empty := handoff.empty
  have holds := (owned.owner owner).resolve_right running
  cases pc : s.clientConnection <;> simp_all

theorem rejection_sound {before middle : List Action} {s₀ s₁ s s' : State} {fd : ClientFd}
    (run : system.Run before s₀)
    (busy : system.step s₀ (.accept (.trylockBusy fd)) = some s₁)
    (path : system.exec s₁ middle = some s)
    (others : ∀ b, Action.accept b ∉ middle)
    (rejects : system.step s (.accept (.slotTaken fd)) = some s') :
    ∃ d, s.clientReady.clientFd = some d ∧ d.connection ≠ fd.connection ∧ Stored before d ∧
      ¬ Cleaned (before ++ .accept (.trylockBusy fd) :: middle) d ∧
      (s.clientConnection = .test ∨ s.clientConnection.serving = true) ∧
      s₀.clientReady.mutex = some .clientConnection ∧
      ∀ first rest v, middle = first ++ rest → system.exec s₁ first = some v →
        v.clientReady.mutex = some .clientConnection := by
  have busy' : act s₀ (.accept (.trylockBusy fd)) = some s₁ := (system_step.mp busy).2
  simp only [act, threadRoutineAccept, require_eq_some] at busy'
  obtain ⟨⟨trylock, held⟩, rfl⟩ := busy'
  have rejects' : act s (.accept (.slotTaken fd)) = some s' := (system_step.mp rejects).2
  simp only [act, threadRoutineAccept, require_eq_some] at rejects'
  obtain ⟨⟨readSlot, occupied⟩, -⟩ := rejects'
  obtain ⟨d, occupied⟩ := Option.ne_none_iff_exists'.mp occupied
  have tried : system.Run (before ++ [.accept (.trylockBusy fd)]) _ := .snoc run trivial busy
  have reached := System.run_exec tried path
  obtain ⟨before₁, owns⟩ := occupied_path tried path others occupied
  have owner := (ClientReadyOwned.run run).of_busy (by simp [trylock]) held
  have handoff := Handoff.run run
  refine ⟨d, occupied, ?_, (handoff.slot d before₁).1, ?_, ?_, owner, owns owner⟩
  · exact (handoff.unpublished fd (by simp [trylock])).2 d (handoff.slot d before₁).1
  · simpa using ((Handoff.run reached).slot d occupied).2
  · apply (Handoff.run reached).busy (.run reached) _
      (owns owner middle [] s (by simp) path) occupied
    intro ended
    have requested := (CancelRequested.run reached).clientConnection (by simp [ended])
    have gone := (Lifecycle.run reached).accept_gone (.run reached) requested
    simp [State.Gone, State.NotCreated, State.Terminated, readSlot] at gone

def secondClient : List Action :=
  startUp ++ handOver ⟨4, 0⟩ ++
    [.clientConnection .relock, .clientConnection (.take ⟨4, 0⟩),
     .client (.connect 1), .accept (.accepted 1)]

theorem rejection_sound_secondClient :
    ∃ (s : State) (d : ClientFd), s.clientReady.clientFd = some d ∧ d.connection ≠ 1 ∧ Stored secondClient d ∧
      s.clientConnection ≠ .ended := by
  obtain ⟨s', path, -⟩ : ∃ s', system.exec (.start .shell) (secondClient ++
      [.accept (.trylockBusy ⟨7, 1⟩), .clientConnection .load, .accept (.slotTaken ⟨7, 1⟩)]) =
        some s' ∧ True :=
    System.exists_exec (by decide +kernel)
  simp only [System.exec_append, System.exec, Option.bind_eq_some_iff] at path
  obtain ⟨s₀, before, s₁, busy, s, loaded, _, rejects, -⟩ := path
  obtain ⟨d, occupied, other, stored, -, serving, -⟩ :=
    rejection_sound (System.run_of_exec ⟨_, rfl⟩ before) busy (System.exec_singleton loaded)
      (by simp) rejects
  refine ⟨s, d, occupied, other, stored, fun ended => ?_⟩
  simp [ended] at serving

end Usockit.Server
