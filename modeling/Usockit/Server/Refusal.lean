import Usockit.Server.Connections
import Usockit.Server.Stderr

namespace Usockit.Server
open Foundation Kernel

variable {s s' : State} {actions : List Action} {a : Action} {c : ConnId}

abbrev State.received (s : State) (c : ConnId) : List Byte := (s.kernel.connections c).received

/-- The accept thread has found another descriptor in the slot. -/
abbrev Refused (actions : List Action) (fd : ClientFd) : Prop :=
  Action.accept (.slotTaken fd) ∈ actions

def AcceptPc.undecided : AcceptPc → Option ClientFd
  | .trylock fd | .store fd | .readSlot fd | .testcancelSpurious fd => some fd
  | _ => none

attribute [simp] AcceptPc.undecided.eq_1 AcceptPc.undecided.eq_2 AcceptPc.undecided.eq_3
  AcceptPc.undecided.eq_4 AcceptPc.undecided.eq_5

@[simp] theorem AcceptPc.undecided_afterWait (outcome : WaitOutcome) :
    (AcceptPc.afterWait outcome).undecided = none := by
  cases outcome <;> rfl

@[simp] theorem AcceptPc.undecided_signalled (pc : AcceptPc) :
    pc.signalled.undecided = pc.undecided := by
  unfold signalled
  split <;> rfl

@[simp] theorem AcceptPc.undecided_afterWrite (fd : ClientFd) (w : WriteAll) (k : Nat) :
    (AcceptPc.afterWrite fd w k).undecided = none := by
  unfold afterWrite
  split <;> rfl

@[simp] theorem AcceptPc.signalled_eq_callWriteAll (pc : AcceptPc) (fd : ClientFd) :
    pc.signalled = .callWriteAll fd ↔ pc = .callWriteAll fd := by
  unfold signalled
  split <;> simp

@[simp] theorem AcceptPc.afterWait_ne_callWriteAll (outcome : WaitOutcome) (fd : ClientFd) :
    AcceptPc.afterWait outcome ≠ .callWriteAll fd := by
  cases outcome <;> simp [afterWait]

@[simp] theorem AcceptPc.afterWrite_ne_callWriteAll (fd d : ClientFd) (w : WriteAll) (k : Nat) :
    AcceptPc.afterWrite fd w k ≠ .callWriteAll d := by
  unfold afterWrite
  split <;> simp

@[simp] theorem AcceptPc.signalled_eq_write (pc : AcceptPc) (fd : ClientFd) (w : WriteAll) :
    pc.signalled = .write fd w ↔ pc = .write fd w := by
  unfold signalled
  split <;> simp

@[simp] theorem AcceptPc.afterWait_ne_write (outcome : WaitOutcome) (fd : ClientFd)
    (w : WriteAll) : AcceptPc.afterWait outcome ≠ .write fd w := by
  cases outcome <;> simp [afterWait]

/-- The server never takes what it has refused. -/
structure Refusal (actions : List Action) (s : State) : Prop where
  refused : ∀ fd, Refused actions fd → (s.kernel.connections fd.connection).phase = .accepted ∧
    ∀ d, Stored actions d → d.connection ≠ fd.connection
  undecided : ∀ fd, s.accept.undecided = some fd →
    ∀ d, Refused actions d → d.connection ≠ fd.connection
  decided : ∀ fd, s.accept = .callWriteAll fd → Refused actions fd
  writing : ∀ fd w, s.accept = .write fd w → Refused actions fd

/-- The server writes to a client only what it is rejected with. -/
structure RejectsOnly (actions : List Action) (s : State) : Prop where
  undecided : ∀ fd, s.accept.undecided = some fd → s.received fd.connection = []
  decided : ∀ fd, s.accept = .callWriteAll fd → s.received fd.connection = []
  writing : ∀ fd w, s.accept = .write fd w → s.received fd.connection ++ w.offered = rejection
  received : ∀ c, s.received c <+: rejection ∧
    (s.received c ≠ [] → ∃ fd, fd.connection = c ∧ Refused actions fd)

theorem Refusal.start (config : Config) : Refusal [] (.start config) := by
  constructor <;> simp [State.start]

theorem RejectsOnly.start (config : Config) : RejectsOnly [] (.start config) := by
  constructor <;> simp [State.start, State.received]

/-! ## The connections that are refused -/

theorem Refusal.frame (refusal : Refusal actions s)
    (noStore : ∀ fd, a ≠ .accept (.store fd)) (noRefusal : ∀ fd, a ≠ .accept (.slotTaken fd))
    (phases : ∀ c, (s.kernel.connections c).phase = .accepted →
      (s'.kernel.connections c).phase = .accepted)
    (undecided : ∀ fd, s'.accept.undecided = some fd → s.accept.undecided = some fd)
    (decided : ∀ fd, s'.accept = .callWriteAll fd → s.accept = .callWriteAll fd)
    (writing : ∀ fd w, s'.accept = .write fd w →
      (∃ v, s.accept = .write fd v) ∨ s.accept = .callWriteAll fd) :
    Refusal (actions ++ [a]) s' := by
  have stored_iff : ∀ fd, Stored (actions ++ [a]) fd ↔ Stored actions fd := by
    intro fd
    simp [Stored, (noStore fd).symm]
  have refused_iff : ∀ fd, Refused (actions ++ [a]) fd ↔ Refused actions fd := by
    intro fd
    simp [Refused, (noRefusal fd).symm]
  constructor <;> simp only [stored_iff, refused_iff]
  · exact fun fd refused => (refusal.refused fd refused).imp_left (phases _)
  · exact fun fd here => refusal.undecided fd (undecided fd here)
  · exact fun fd here => refusal.decided fd (decided fd here)
  · intro fd w here
    rcases writing fd w here with ⟨v, before⟩ | calling
    · exact refusal.writing fd v before
    · exact refusal.decided fd calling

theorem Refusal.elsewhere (refusal : Refusal actions s) (taken : act s a = some s')
    (other : ∀ b, a ≠ .accept b) : Refusal (actions ++ [a]) s' := by
  refine refusal.frame (fun fd => other _) (fun fd => other _) (fun c => act_accepted taken)
    ?_ ?_ ?_
  all_goals
    rcases act_sameAccept taken other with same | same | ⟨-, same⟩ <;> simp +contextual [same]

theorem Refusal.accepted {c : ConnId} (refusal : Refusal actions s)
    (pending : (s.kernel.connections c).phase = .pending) :
    Refusal (actions ++ [.accept (.accepted c)])
      { s with accept := .trylock ⟨s.kernel.fds.lowestFree, c⟩, kernel := s.kernel.accept c } := by
  have fresh : ∀ d, Refused actions d → d.connection ≠ c := by
    rintro d refused rfl
    simp [(refusal.refused d refused).1] at pending
  have same : ∀ d, Refused (actions ++ [.accept (.accepted c)]) d ↔ Refused actions d := by
    simp [Refused]
  constructor <;> simp only [same]
  · intro d refused
    refine ⟨?_, by simpa [Stored] using (refusal.refused d refused).2⟩
    simp [fresh d refused, (refusal.refused d refused).1]
  · rintro d ⟨⟩
    exact fresh
  · simp
  · simp

theorem Refusal.store {fd : ClientFd} (refusal : Refusal actions s)
    (here : s.accept = .store fd) (info : ClientReadyInfo) :
    Refusal (actions ++ [.accept (.store fd)])
      { s with accept := .unlock fd, clientReady := info } := by
  have fresh := refusal.undecided fd (by simp [here])
  have same : ∀ d, Refused (actions ++ [.accept (.store fd)]) d ↔ Refused actions d := by
    simp [Refused]
  constructor <;> simp only [same]
  · intro d refused
    refine (refusal.refused d refused).imp_right fun others e stored => ?_
    rcases (by simpa [Stored] using stored : Stored actions e ∨ e = fd) with before | rfl
    · exact others e before
    · exact (fresh d refused).symm
  all_goals simp

theorem Refusal.slotTaken {fd : ClientFd} (refusal : Refusal actions s)
    (unpublished : (s.kernel.connections fd.connection).phase = .accepted ∧
      ∀ d, Stored actions d → d.connection ≠ fd.connection) :
    Refusal (actions ++ [.accept (.slotTaken fd)]) { s with accept := .callWriteAll fd } := by
  have same : ∀ d, Refused (actions ++ [.accept (.slotTaken fd)]) d ↔
      Refused actions d ∨ d = fd := by
    simp [Refused]
  constructor <;> simp only [same]
  · rintro d (before | rfl)
    · simpa [Stored] using refusal.refused d before
    · simpa [Stored] using unpublished
  · simp
  · rintro d ⟨⟩
    exact .inr rfl
  · simp

theorem Refusal.threadRoutineAccept {ok : State → Action → Prop} {a : AcceptAction}
    (refusal : Refusal actions s) (run : system.RunWhere ok actions s)
    (taken : act s (.accept a) = some s') : Refusal (actions ++ [.accept a]) s' := by
  have phases : ∀ c, (s.kernel.connections c).phase = .accepted →
      (s'.kernel.connections c).phase = .accepted := fun c => act_accepted taken
  cases a <;> simp only [Server.act, Server.threadRoutineAccept, require_eq_some] at taken
  case waitForChildReady w a =>
    simp only [Option.ite_none_right_eq_some, Option.map_eq_some_iff] at taken
    obtain ⟨here, r, waited, rfl⟩ := taken
    exact refusal.frame (by simp) (by simp) phases (by simp) (by simp) (by simp)
  case accepted c =>
    obtain ⟨⟨-, pending⟩, rfl⟩ := taken
    exact refusal.accepted pending
  case store fd =>
    obtain ⟨here, rfl⟩ := taken
    exact refusal.store here _
  case slotTaken fd =>
    obtain ⟨⟨here, -⟩, rfl⟩ := taken
    exact refusal.slotTaken ((Handoff.run run).unpublished fd (by simp [here]))
  case wrote fd w f k =>
    obtain ⟨⟨here, -⟩, rfl⟩ := taken
    refine refusal.frame (by simp) (by simp) phases (by simp) (by simp) fun d v after => .inl ?_
    simp only [AcceptPc.afterWrite] at after
    split at after
    · obtain ⟨rfl, -⟩ : fd = d ∧ _ = v := by simpa using after
      exact ⟨w, here⟩
    · cases after
  all_goals
    obtain ⟨guard, rfl⟩ := taken
    refine refusal.frame (by simp) (by simp) phases ?_ ?_ ?_ <;> simp +contextual [guard]

theorem Refusal.run {ok : State → Action → Prop} (run : system.RunWhere ok actions s) :
    Refusal actions s := by
  refine run.invariant ?_ ?_
  · rintro _ ⟨config, rfl⟩
    exact .start config
  · intro actions s a s' before refusal _ step
    have taken := (system_step.mp step).2
    by_cases own : ∃ b, a = .accept b
    · obtain ⟨b, rfl⟩ := own
      exact refusal.threadRoutineAccept before taken
    · exact refusal.elsewhere taken fun b equal => own ⟨b, equal⟩

/-! ## The other threads and processes -/

theorem received_deliver {k : Kernel} {f : File} (bytes : List Byte)
    (other : f ≠ .connection c) :
    ((k.deliver f bytes).connections c).received = (k.connections c).received := by
  unfold deliver
  split
  case h_3 d =>
    have different : c ≠ d := by
      rintro rfl
      exact other rfl
    simp [different]
  all_goals rfl

theorem received_writeStderr {k : Kernel} {bytes : List Byte}
    (spares : ∀ f ∈ k.fds.fileAt stderrFileno, f.isPeer = false) (c : ConnId) :
    ((k.writeStderr bytes).connections c).received = (k.connections c).received := by
  obtain same | ⟨f, here, -, same⟩ := writeStderr_cases k bytes <;> rw [same]
  refine received_deliver bytes ?_
  rintro rfl
  simpa [File.isPeer] using spares _ here

theorem act_received {ok : State → Action → Prop} (run : system.RunWhere ok actions s)
    (spares : SparesPeers s a) (taken : act s a = some s') (other : ∀ b, a ≠ .accept b)
    (c : ConnId) : s'.received c = s.received c := by
  cases a with
  | setupThreads | setupChild | childWait =>
      rw [State.received, (act_sameStreams taken id).connections]
  | parent a =>
      cases a <;> simp only [act, parent, require_eq_some] at taken <;> obtain ⟨-, rfl⟩ := taken
      case perror => exact received_writeStderr (spares rfl) c
      all_goals rfl
  | accept b => exact absurd rfl (other b)
  | clientConnection a =>
      cases a <;> simp only [act, threadRoutineClientConnection, require_eq_some] at taken <;>
        obtain ⟨guard, rfl⟩ := taken
      case received fd d k =>
        simp only [State.received, connections_setConnection]
        split <;> simp_all
      case wrote w f k =>
        obtain rfl := clientConnection_file run guard.1 guard.2.1
        exact received_deliver (f := .pipe .main .write) _ (by simp)
      case cleanupClose => simp [State.received]
      all_goals rfl
  | child a =>
      cases a <;> simp only [act, child, Option.map_eq_some_iff, require_eq_some] at taken <;>
        obtain ⟨k, ⟨guard, rfl⟩, rfl⟩ := taken
      case programWrites n f bytes =>
        refine received_deliver _ ?_
        rintro rfl
        exact (Accepted.run run).child c ⟨n, guard.2.1⟩
      all_goals rfl
  | client a =>
      simp only [act, Option.map_eq_some_iff] at taken
      obtain ⟨k, taken, rfl⟩ := taken
      exact received_client taken c

/-! ## What is written to a client -/

theorem RejectsOnly.frame (rejects : RejectsOnly actions s)
    (received : ∀ c, s'.received c = s.received c)
    (undecided : ∀ fd, s'.accept.undecided = some fd → s.accept.undecided = some fd)
    (decided : ∀ fd, s'.accept = .callWriteAll fd →
      s.accept = .callWriteAll fd ∨ s.accept.undecided = some fd)
    (writing : ∀ fd w, s'.accept = .write fd w → s.accept = .write fd w ∨
      s.accept = .callWriteAll fd ∧ w.offered = rejection) :
    RejectsOnly (actions ++ [a]) s' := by
  constructor <;> simp only [received]
  · exact fun fd here => rejects.undecided fd (undecided fd here)
  · exact fun fd here => (decided fd here).elim (rejects.decided fd) (rejects.undecided fd)
  · intro fd w here
    rcases writing fd w here with before | ⟨calling, offered⟩
    · exact rejects.writing fd w before
    · rw [rejects.decided fd calling, offered, List.nil_append]
  · exact fun c => (rejects.received c).imp_right fun written some_byte =>
      (written some_byte).imp fun fd => And.imp_right (List.mem_append_left _)

theorem RejectsOnly.elsewhere {ok : State → Action → Prop} (rejects : RejectsOnly actions s)
    (run : system.RunWhere ok actions s) (spares : SparesPeers s a) (taken : act s a = some s')
    (other : ∀ b, a ≠ .accept b) : RejectsOnly (actions ++ [a]) s' := by
  refine rejects.frame (act_received run spares taken other) ?_ ?_ ?_
  all_goals
    rcases act_sameAccept taken other with same | same | ⟨-, same⟩ <;> simp +contextual [same]

theorem RejectsOnly.wrote {fd : ClientFd} {w : WriteAll} {f : File} {k : Nat}
    (rejects : RejectsOnly actions s) (refused : Refused actions fd)
    (here : s.accept = .write fd w)
    (file : f = .connection fd.connection) (accept : s'.accept = .afterWrite fd w k)
    (kernel : s'.kernel = s.kernel.deliver f (w.offered.take k)) :
    RejectsOnly (actions ++ [.accept (.wrote fd w f k)]) s' := by
  have sum := rejects.writing fd w here
  have written : s'.received fd.connection = s.received fd.connection ++ w.offered.take k := by
    simp [State.received, kernel, file, deliver]
  constructor
  · simp [accept]
  · simp [accept]
  · intro d v after
    simp only [accept, AcceptPc.afterWrite] at after
    split at after
    · next next =>
      obtain ⟨rfl, rfl⟩ : fd = d ∧ _ = v := by simpa using after
      rw [written, List.append_assoc, WriteAll.offered_of_accepted next]
      exact sum
    · cases after
  · intro c
    by_cases same : c = fd.connection
    · subst same
      rw [written, ← sum]
      exact ⟨(List.prefix_append_right_inj _).mpr (List.take_prefix _ _),
        fun _ => ⟨fd, rfl, List.mem_append_left _ refused⟩⟩
    · have kept : s'.received c = s.received c := by
        rw [State.received, kernel]
        exact received_deliver _ (by simpa [file, eq_comm] using same)
      rw [kept]
      exact (rejects.received c).imp_right fun written some_byte =>
        (written some_byte).imp fun fd => And.imp_right (List.mem_append_left _)

theorem RejectsOnly.accepted {c : ConnId} (rejects : RejectsOnly actions s)
    (accepted : Accepted s) (pending : (s.kernel.connections c).phase = .pending) :
    RejectsOnly (actions ++ [.accept (.accepted c)])
      { s with accept := .trylock ⟨s.kernel.fds.lowestFree, c⟩, kernel := s.kernel.accept c } := by
  have received : ∀ d, ((s.kernel.accept c).connections d).received = s.received d := by
    intro d
    rw [connections_accept]
    split <;> simp_all
  constructor <;> simp only [State.received, received]
  · rintro d ⟨⟩
    exact accepted.unheard c (by simp [pending])
  · simp
  · simp
  · exact fun d => (rejects.received d).imp_right fun written some_byte =>
      (written some_byte).imp fun fd => And.imp_right (List.mem_append_left _)

theorem RejectsOnly.threadRoutineAccept {ok : State → Action → Prop} {a : AcceptAction}
    (rejects : RejectsOnly actions s) (run : system.RunWhere ok actions s)
    (spares : SparesPeers s (.accept a)) (taken : act s (.accept a) = some s') :
    RejectsOnly (actions ++ [.accept a]) s' := by
  cases a <;> simp only [Server.act, Server.threadRoutineAccept, require_eq_some] at taken
  case waitForChildReady w a =>
    simp only [Option.ite_none_right_eq_some, Option.map_eq_some_iff] at taken
    obtain ⟨here, r, waited, rfl⟩ := taken
    exact rejects.frame (fun _ => rfl) (by simp) (by simp) (by simp)
  case accepted c =>
    obtain ⟨⟨-, pending⟩, rfl⟩ := taken
    exact rejects.accepted (.run run) pending
  case wrote fd w f k =>
    obtain ⟨⟨here, file, -⟩, rfl⟩ := taken
    have connection := Option.some.inj ((accept_writesTo run here).symm.trans file)
    exact rejects.wrote ((Refusal.run run).writing fd w here) here connection.symm rfl rfl
  case perror =>
    obtain ⟨guard, rfl⟩ := taken
    exact rejects.frame (received_writeStderr (spares rfl)) (by simp) (by simp) (by simp)
  all_goals
    obtain ⟨guard, rfl⟩ := taken
    refine rejects.frame (fun _ => rfl) ?_ ?_ ?_ <;> simp +contextual [guard]

theorem RejectsOnly.run (run : system.RunWhere SparesPeers actions s) : RejectsOnly actions s := by
  refine run.invariant ?_ ?_
  · rintro _ ⟨config, rfl⟩
    exact .start config
  · intro actions s a s' before rejects spares step
    have taken := (system_step.mp step).2
    by_cases own : ∃ b, a = .accept b
    · obtain ⟨b, rfl⟩ := own
      exact rejects.threadRoutineAccept before spares taken
    · exact rejects.elsewhere before spares taken fun b equal => own ⟨b, equal⟩

end Usockit.Server
