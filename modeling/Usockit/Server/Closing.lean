import Usockit.Server.Descriptors

namespace Usockit.Server
open Foundation Kernel

variable {s s' : State} {actions : List Action}

def Action.closes : Action → Option ClientFd
  | .accept (.popClose fd) | .accept (.cleanupClose fd) => some fd
  | .clientConnection (.cleanupClose fd _) => fd
  | _ => none

def closec (actions : List Action) (c : ConnId) : Nat :=
  actions.countP fun a => a.closes.map ClientFd.connection = some c

/-- A thread is about to call read(), write() or close() on the descriptor. -/
def State.InUse (s : State) (fd : ClientFd) : Prop :=
  (∃ w, s.accept = .write fd w) ∨ s.accept = .cleanupPop fd true ∨ s.accept = .cleanupRoutine fd ∨
    s.clientConnection = .read (some fd) ∨
    ∃ cancelled, s.clientConnection = .cleanupClose (some fd) cancelled

structure ClosedOnce (actions : List Action) (s : State) : Prop where
  once : ∀ c, closec actions c ≤ 1
  inUse : ∀ fd, s.InUse fd → closec actions fd.connection = 0 ∧ s.Refers fd
  published : ∀ fd, s.accept = .cleanupRoutine fd → ¬ Stored actions fd
  ended : s.accept = .ended → s.clientConnection = .ended →
    ∀ c, Action.accept (.accepted c) ∈ actions → closec actions c = 1

/-- The accept thread gets the lock only when the slot is -1, it is not cancelled at the
pthread_testcancel after it has published a connection, the connection thread is not cancelled when
it has been woken for one, and no thread is cancelled in close(). -/
def KeepsOneOwner (s : State) : Action → Prop
  | .accept (.trylockAcquired _) => s.clientReady.clientFd = none
  | .accept (.cancelPushed fd) => s.accept ≠ .testcancelPublished fd
  | .clientConnection .cancelWoken => s.clientReady.clientFd = none
  | .accept (.cancelPopClose _) | .clientConnection (.cancelClose _) => False
  | _ => True

instance (s : State) (a : Action) : Decidable (KeepsOneOwner s a) := by
  unfold KeepsOneOwner
  split <;> infer_instance

/-! ## Who has a descriptor -/

/-- The connection that the accept thread has to close or to hand over. -/
def AcceptPc.owned : AcceptPc → Option ClientFd
  | .trylock fd | .store fd | .readSlot fd | .testcancelSpurious fd => some fd
  | .callWriteAll fd | .write fd _ | .cleanupPop fd true | .cleanupRoutine fd => some fd
  | _ => none

def State.Owned (s : State) (fd : ClientFd) : Prop := s.accept.owned = some fd ∨ s.Held fd

def AcceptPc.publishing : AcceptPc → Bool
  | .unlock _ | .testcancelPublished _ | .signal _ => true
  | _ => false

def ClientConnectionPc.leaving : ClientConnectionPc → Bool
  | .cleanupUnlock _ true | .cleanupClose _ true | .cancelled | .ended => true
  | _ => false

structure Custody (actions : List Action) (s : State) : Prop where
  once : ∀ c, closec actions c ≤ 1
  closed : ∀ c, closec actions c ≠ 0 → (s.kernel.connections c).phase = .accepted
  owned : ∀ fd, s.Owned fd →
    (s.kernel.connections fd.connection).phase = .accepted ∧ closec actions fd.connection = 0
  refers : ∀ fd, s.Owned fd → s.Refers fd
  accounted : ∀ c, Action.accept (.accepted c) ∈ actions →
    closec actions c = 1 ∨ ∃ fd, fd.connection = c ∧ s.Owned fd
  unstored : ∀ fd, s.accept.owned = some fd → ∀ d, Stored actions d →
    d.connection ≠ fd.connection
  store : ∀ fd, s.accept = .store fd → s.clientReady.clientFd = none
  asleep : s.clientConnection = .asleep → s.clientReady.clientFd ≠ none →
    s.accept.publishing = true
  leaving : s.clientConnection.leaving = true → s.clientReady.clientFd = none

attribute [simp] AcceptPc.owned.eq_1 AcceptPc.owned.eq_2 AcceptPc.owned.eq_3
  AcceptPc.owned.eq_4 AcceptPc.owned.eq_5 AcceptPc.owned.eq_6 AcceptPc.owned.eq_7
  AcceptPc.owned.eq_8 AcceptPc.owned.eq_9

attribute [simp] AcceptPc.publishing.eq_1 AcceptPc.publishing.eq_2 AcceptPc.publishing.eq_3
  AcceptPc.publishing.eq_4

attribute [simp] ClientConnectionPc.leaving.eq_3 ClientConnectionPc.leaving.eq_4
  ClientConnectionPc.leaving.eq_5

@[simp] theorem AcceptPc.owned_afterWait (outcome : WaitOutcome) :
    (AcceptPc.afterWait outcome).owned = none := by
  cases outcome <;> rfl

@[simp] theorem AcceptPc.owned_signalled (pc : AcceptPc) : pc.signalled.owned = pc.owned := by
  unfold signalled
  split <;> rfl

@[simp] theorem AcceptPc.owned_afterWrite (fd : ClientFd) (w : WriteAll) (k : Nat) :
    (AcceptPc.afterWrite fd w k).owned = some fd := by
  unfold afterWrite
  split <;> rfl

@[simp] theorem AcceptPc.publishing_afterWrite (fd : ClientFd) (w : WriteAll) (k : Nat) :
    (AcceptPc.afterWrite fd w k).publishing = false := by
  unfold afterWrite
  split <;> rfl

@[simp] theorem AcceptPc.publishing_signalled (pc : AcceptPc) :
    pc.signalled.publishing = pc.publishing := by
  unfold signalled
  split <;> rfl

@[simp] theorem ClientConnectionPc.leaving_cleanupUnlock (fd : Option ClientFd)
    (cancelled : Bool) : (ClientConnectionPc.cleanupUnlock fd cancelled).leaving = cancelled := by
  cases cancelled <;> rfl

@[simp] theorem ClientConnectionPc.leaving_cleanupClose (fd : Option ClientFd)
    (cancelled : Bool) : (ClientConnectionPc.cleanupClose fd cancelled).leaving = cancelled := by
  cases cancelled <;> rfl

@[simp] theorem ClientConnectionPc.leaving_signalled (pc : ClientConnectionPc) :
    pc.signalled.leaving = pc.leaving := by
  cases pc <;> rfl

@[simp] theorem ClientConnectionPc.leaving_afterWrite (w : WriteAll) (k : Nat) :
    (ClientConnectionPc.afterWrite w k).leaving = false := by
  unfold afterWrite
  split <;> rfl

@[simp] theorem ClientConnectionPc.leaving_afterCleanup (cancelled : Bool) :
    (ClientConnectionPc.afterCleanup cancelled).leaving = cancelled := by
  cases cancelled <;> rfl

theorem ClientConnectionPc.isCancelled_of_leaving {pc : ClientConnectionPc}
    (leaving : pc.leaving = true) : pc.isCancelled = true := by
  cases pc <;> simp_all

theorem closec_snoc (a : Action) (c : ConnId) : closec (actions ++ [a]) c =
    closec actions c + if a.closes.map ClientFd.connection = some c then 1 else 0 := by
  simp [closec, List.countP_append, List.countP_singleton]

theorem closec_snoc_none {a : Action} (none : a.closes = none) (c : ConnId) :
    closec (actions ++ [a]) c = closec actions c := by
  simp [closec_snoc, none]

/-- A number leads to its file, if that is no pipe, until somebody closes it. -/
theorem act_fileAt {a : Action} {n : Nat} {f : File} (desc : Descriptors s)
    (taken : act s a = some s') (noPipe : ∀ p e, f ≠ .pipe p e)
    (noClose : ∀ d, a.closes = some d → d.number ≠ n) (here : s.kernel.fds.fileAt n = some f) :
    s'.kernel.fds.fileAt n = some f := by
  have ends : ∀ p e, s.main.hasOpen p e = true → n ≠ s.pipeFds p e := by
    intro p e isOpen same
    have file := (desc.pipes _ p e).mpr ⟨isOpen, same⟩
    rw [here, Option.some.injEq] at file
    exact noPipe p e file
  have used := DescriptorTable.ne_lowestFree here
  cases a with
  | setupThreads a =>
      cases a <;> simp only [act, setupThreads, require_eq_some] at taken <;>
        obtain ⟨-, rfl⟩ := taken <;> exact here
  | setupChild a =>
      cases a <;> simp only [act, setupChild, require_eq_some] at taken <;>
        obtain ⟨guard, rfl⟩ := taken
      case pipe | reportingPipe =>
        have other : ∀ p flag, n ≠ s.kernel.nextWriteFd p flag := by
          intro p flag same
          rw [same, fileAt_nextWriteFd] at here
          cases here
        simpa [fileAt_openPipe, used, other] using here
      case fcntl => simpa using here
      case closeReportingWrite =>
        have other := ends .reporting .write (by simp [guard, MainPc.hasOpen])
        simpa [other] using here
      case closeMainRead =>
        have other := ends .main .read (by simp [guard, MainPc.hasOpen])
        simpa [other] using here
      case close p e rest ret =>
        have other := ends p e (by simp [guard, MainPc.hasOpen])
        simpa [other] using here
      all_goals exact here
  | parent a =>
      cases a <;> simp only [act, parent, require_eq_some] at taken <;>
        obtain ⟨-, rfl⟩ := taken <;> simpa using here
  | childWait a =>
      cases a <;> simp only [act, threadRoutineChildWait, require_eq_some,
        Option.ite_none_right_eq_some, Option.map_eq_some_iff] at taken
      case waitForChildReady w a =>
        obtain ⟨-, r, -, rfl⟩ := taken
        exact here
      all_goals
        obtain ⟨-, rfl⟩ := taken
        exact here
  | accept a =>
      cases a <;> simp only [act, threadRoutineAccept, require_eq_some,
        Option.ite_none_right_eq_some, Option.map_eq_some_iff] at taken
      case waitForChildReady w a =>
        obtain ⟨-, r, -, rfl⟩ := taken
        exact here
      case popClose d | cleanupClose d =>
        obtain ⟨-, rfl⟩ := taken
        simpa [(noClose d rfl).symm] using here
      all_goals
        obtain ⟨-, rfl⟩ := taken
        simpa [used] using here
  | clientConnection a =>
      cases a <;> simp only [act, threadRoutineClientConnection, require_eq_some] at taken <;>
        obtain ⟨-, rfl⟩ := taken
      case cleanupClose fd flag =>
        cases fd with
        | none => exact here
        | some d => simpa [(noClose d rfl).symm] using here
      all_goals simpa using here
  | child a =>
      cases a <;> simp only [act, child, Option.map_eq_some_iff, require_eq_some] at taken <;>
        obtain ⟨k, ⟨-, rfl⟩, rfl⟩ := taken <;> simpa using here
  | client a =>
      cases a <;> simp only [act, client, Option.map_eq_some_iff, require_eq_some] at taken <;>
        obtain ⟨k, ⟨-, rfl⟩, rfl⟩ := taken <;> exact here

theorem act_refers {a : Action} {d : ClientFd} (desc : Descriptors s) (taken : act s a = some s')
    (noClose : a.closes = none) (refers : s.Refers d) : s'.Refers d :=
  act_fileAt desc taken nofun (by simp [noClose]) refers

theorem Custody.start (config : Config) : Custody [] (.start config) := by
  constructor <;> simp [State.start, closec, State.Owned, State.Held]

theorem Custody.frame {a : Action} (custody : Custody actions s) (desc : Descriptors s)
    (taken : act s a = some s') (noClose : a.closes = none)
    (noAccept : ∀ c, a ≠ .accept (.accepted c))
    (owned : ∀ fd, s'.Owned fd ↔ s.Owned fd)
    (unstored : ∀ fd, s'.accept.owned = some fd → s.accept.owned = some fd ∧
      ∀ d, a ≠ .accept (.store d))
    (store : ∀ fd, s'.accept = .store fd → s'.clientReady.clientFd = none)
    (asleep : s'.clientConnection = .asleep → s'.clientReady.clientFd ≠ none →
      s'.accept.publishing = true)
    (leaving : s'.clientConnection.leaving = true → s'.clientReady.clientFd = none) :
    Custody (actions ++ [a]) s' := by
  constructor
  · intro c
    rw [closec_snoc_none noClose]
    exact custody.once c
  · intro c
    rw [closec_snoc_none noClose]
    exact fun closed => act_accepted taken (custody.closed c closed)
  · intro fd here
    rw [closec_snoc_none noClose]
    exact (custody.owned fd ((owned fd).mp here)).imp_left (act_accepted taken)
  · exact fun fd here => act_refers desc taken noClose (custody.refers fd ((owned fd).mp here))
  · intro c accepted
    have before : Action.accept (.accepted c) ∈ actions := by
      simpa [(noAccept c).symm] using accepted
    rw [closec_snoc_none noClose]
    exact (custody.accounted c before).imp_right fun ⟨fd, same, here⟩ =>
      ⟨fd, same, (owned fd).mpr here⟩
  · intro fd here d stored
    obtain ⟨before, noStore⟩ := unstored fd here
    refine custody.unstored fd before d ?_
    simpa [Stored, (noStore d).symm] using stored
  · exact store
  · exact asleep
  · exact leaving

theorem Custody.unique {fd u : ClientFd} (custody : Custody actions s)
    (handoff : Handoff actions s)
    (unique : ∀ a b, Stored actions a → Stored actions b → a.connection = b.connection → a = b)
    (mine : s.Owned fd) (yours : s.Owned u) (same : u.connection = fd.connection) : u = fd := by
  rcases mine with own | held <;> rcases yours with own' | held'
  · exact Option.some.inj (own'.symm.trans own)
  · exact absurd same (custody.unstored fd own u (handoff.held_stored held'))
  · exact absurd same.symm (custody.unstored u own' fd (handoff.held_stored held))
  · exact unique u fd (handoff.held_stored held') (handoff.held_stored held) same

theorem Custody.released {fd : ClientFd} (custody : Custody actions s)
    (handoff : Handoff actions s) (own : s.accept.owned = some fd)
    (released : s'.accept.owned = none) (held : ∀ u, s'.Held u ↔ s.Held u) (u : ClientFd) :
    s'.Owned u ↔ s.Owned u ∧ u ≠ fd := by
  have others : s'.Owned u ↔ s.Held u := by simp [State.Owned, released, held]
  rw [others]
  constructor
  · intro held
    refine ⟨.inr held, ?_⟩
    rintro rfl
    exact custody.unstored u own u (handoff.held_stored held) rfl
  · rintro ⟨own' | held, other⟩
    · exact absurd (Option.some.inj (own'.symm.trans own)) other
    · exact held

theorem Custody.cleanedUp {fd : ClientFd} (custody : Custody actions s)
    (handoff : Handoff actions s) (holding : s.clientConnection.holding = some fd)
    (accept : s'.accept = s.accept) (slot : s'.clientReady = s.clientReady)
    (released : s'.clientConnection.holding = none) (u : ClientFd) :
    s'.Owned u ↔ s.Owned u ∧ u ≠ fd := by
  have cleaned := handoff.holding fd holding
  have others : s'.Owned u ↔ s.accept.owned = some u ∨ s.clientReady.clientFd = some u := by
    simp [State.Owned, State.Held, accept, slot, released]
  rw [others]
  constructor
  · rintro (own | occupied)
    · refine ⟨.inl own, ?_⟩
      rintro rfl
      exact custody.unstored u own u (handoff.cleaned u cleaned) rfl
    · refine ⟨.inr (.inl occupied), ?_⟩
      rintro rfl
      exact (handoff.slot u occupied).2 cleaned
  · rintro ⟨own | occupied | holding', other⟩
    · exact .inl own
    · exact .inr occupied
    · exact absurd (Option.some.inj (holding'.symm.trans holding)) other

theorem Custody.close {a : Action} {fd : ClientFd} (custody : Custody actions s)
    (handoff : Handoff actions s)
    (unique : ∀ a b, Stored actions a → Stored actions b → a.connection = b.connection → a = b)
    (closes : a.closes = some fd) (mine : s.Owned fd)
    (kernel : s'.kernel = s.kernel.close fd.number)
    (owned : ∀ u, s'.Owned u ↔ s.Owned u ∧ u ≠ fd)
    (unstored : ∀ u, s'.accept.owned = some u → s.accept.owned = some u)
    (store : ∀ u, s'.accept = .store u → s'.clientReady.clientFd = none)
    (asleep : s'.clientConnection = .asleep → s'.clientReady.clientFd ≠ none →
      s'.accept.publishing = true)
    (leaving : s'.clientConnection.leaving = true → s'.clientReady.clientFd = none) :
    Custody (actions ++ [a]) s' := by
  have count : ∀ c, closec (actions ++ [a]) c =
      closec actions c + if fd.connection = c then 1 else 0 := by
    intro c
    simp [closec_snoc, closes]
  have connections : s'.kernel.connections = s.kernel.connections := by rw [kernel]; rfl
  obtain ⟨accepted, unclosed⟩ := custody.owned fd mine
  constructor
  · intro c
    rw [count]
    split
    · next same =>
      subst same
      simp [unclosed]
    · exact custody.once c
  · intro c closed
    rw [connections]
    by_cases same : fd.connection = c
    · exact same ▸ accepted
    · rw [count, if_neg same] at closed
      exact custody.closed c closed
  · intro u here
    obtain ⟨before, other⟩ := (owned u).mp here
    have apart : fd.connection ≠ u.connection := fun same =>
      other (custody.unique handoff unique mine before same.symm)
    rw [connections, count, if_neg apart]
    exact custody.owned u before
  · intro u here
    obtain ⟨before, other⟩ := (owned u).mp here
    have refers := custody.refers u before
    have apart : u.number ≠ fd.number := fun same =>
      other (refers.eq (custody.refers fd mine) same)
    rw [State.Refers, kernel, fds_close, DescriptorTable.fileAt_close, if_neg apart]
    exact refers
  · intro c accepted
    have before : Action.accept (.accepted c) ∈ actions := by
      rcases List.mem_append.mp accepted with before | new
      · exact before
      · obtain rfl := List.mem_singleton.mp new
        simp [Action.closes] at closes
    rw [count]
    by_cases same : fd.connection = c
    · rw [if_pos same, ← same, unclosed]
      exact .inl rfl
    · rw [if_neg same]
      refine (custody.accounted c before).imp_right ?_
      rintro ⟨u, here, isOwned⟩
      refine ⟨u, here, ?_⟩
      exact (owned u).mpr ⟨isOwned, fun equal => same (equal ▸ here)⟩
  · intro u here d stored
    refine custody.unstored u (unstored u here) d ?_
    rcases List.mem_append.mp stored with before | new
    · exact before
    · rw [← List.mem_singleton.mp new] at closes
      simp [Action.closes] at closes
  · exact store
  · exact asleep
  · exact leaving

theorem Custody.accepted {c : ConnId} (custody : Custody actions s) (handoff : Handoff actions s)
    (here : s.accept = .accept) (pending : (s.kernel.connections c).phase = .pending) :
    Custody (actions ++ [.accept (.accepted c)])
      { s with accept := .trylock ⟨s.kernel.fds.lowestFree, c⟩, kernel := s.kernel.accept c } := by
  have count : ∀ d, closec (actions ++ [.accept (.accepted c)]) d = closec actions d :=
    closec_snoc_none rfl
  have fresh : closec actions c = 0 := by
    by_contra closed
    simp [custody.closed c closed] at pending
  have phases : ∀ d, (s.kernel.connections d).phase = .accepted →
      ((s.kernel.accept c).connections d).phase = .accepted := by
    intro d accepted
    rw [connections_accept]
    split
    · rfl
    · exact accepted
  constructor
  · exact fun d => count d ▸ custody.once d
  · exact fun d closed => phases d (custody.closed d (count d ▸ closed))
  · intro fd owned
    rw [count]
    rcases owned with new | held
    · obtain rfl := Option.some.inj new
      simp [fresh]
    · exact (custody.owned fd (.inr held)).imp_left (phases _)
  · intro fd owned
    rw [State.Refers, fds_accept, DescriptorTable.fileAt_install]
    rcases owned with new | held
    · obtain rfl := Option.some.inj new
      simp
    · have refers := custody.refers fd (.inr held)
      rw [if_neg (DescriptorTable.ne_lowestFree refers)]
      exact refers
  · intro d accepted
    rw [count]
    rcases List.mem_append.mp accepted with before | new
    · refine (custody.accounted d before).imp_right ?_
      rintro ⟨fd, same, own | held⟩
      · simp [here] at own
      · exact ⟨fd, same, .inr held⟩
    · obtain rfl : d = c := by simpa using new
      exact .inr ⟨_, rfl, .inl rfl⟩
  · intro fd new d stored
    obtain rfl := Option.some.inj new
    have before : Stored actions d := by simpa [Stored] using stored
    rintro rfl
    simp [handoff.stored d before] at pending
  · simp
  · intro asleep occupied
    have publishing := custody.asleep asleep occupied
    simp [here] at publishing
  · exact custody.leaving

theorem Custody.threadRoutineAccept {a : AcceptAction} (custody : Custody actions s)
    (handoff : Handoff actions s) (desc : Descriptors s)
    (unique : ∀ a b, Stored actions a → Stored actions b → a.connection = b.connection → a = b)
    (stays : s.clientConnection.leaving = false) (keeps : KeepsOneOwner s (.accept a))
    (taken : act s (.accept a) = some s') : Custody (actions ++ [.accept a]) s' := by
  have act := taken
  have awake := custody.asleep
  cases a <;> simp only [Server.act, Server.threadRoutineAccept, require_eq_some,
    Option.ite_none_right_eq_some, Option.map_eq_some_iff] at taken
  case waitForChildReady w a =>
    obtain ⟨here, r, -, rfl⟩ := taken
    refine custody.frame desc act rfl (by simp) ?_ (by simp) (by simp) ?_ (by simp [stays]) <;>
      simp_all [State.Owned, State.Held]
  case accepted c =>
    obtain ⟨⟨here, pending⟩, rfl⟩ := taken
    exact custody.accepted handoff here pending
  case store fd =>
    obtain ⟨here, rfl⟩ := taken
    have empty := custody.store fd here
    refine custody.frame desc act rfl (by simp) ?_ (by simp) (by simp) (by simp) (by simp [stays])
    simp [State.Owned, State.Held, here, empty]
  case popClose fd | cleanupClose fd =>
    obtain ⟨here, rfl⟩ := taken
    have own : s.accept.owned = some fd := by simp [here]
    refine custody.close handoff unique rfl (.inl own) rfl
      (custody.released handoff own rfl fun _ => .rfl) (by simp) (by simp) ?_ (by simp [stays])
    simpa [here] using awake
  case cancelPopClose => exact keeps.elim
  case cancelPushed fd =>
    obtain ⟨⟨here, -⟩, rfl⟩ := taken
    rcases AcceptPc.cancellationPoint_eq_some.mp here with here | here | ⟨w, here⟩
    · exact absurd here keeps
    all_goals
      refine custody.frame desc act rfl (by simp) ?_ ?_ (by simp) ?_ (by simp [stays])
      · simp [State.Owned, State.Held, here]
      · simp [here]
      · simpa [here] using awake
  case unlock | testcancelPublished | signal =>
    obtain ⟨here, rfl⟩ := taken
    refine custody.frame desc act rfl (by simp) ?_ (by simp) (by simp) (by simp) (by simp [stays])
    simp [State.Owned, State.Held, here]
  case slotEmpty fd =>
    obtain ⟨⟨here, empty⟩, rfl⟩ := taken
    refine custody.frame desc act rfl (by simp) ?_ (by simp [here]) (by simp) (by simp [empty])
      (by simp [stays])
    simp [State.Owned, State.Held, here]
  case trylockAcquired fd =>
    obtain ⟨⟨here, -⟩, rfl⟩ := taken
    refine custody.frame desc act rfl (by simp) ?_ ?_ ?_ ?_ (by simp [stays])
    · simp [State.Owned, State.Held, here]
    · simp [here]
    · exact fun _ _ => keeps
    · simpa [here] using awake
  all_goals
    obtain ⟨here, rfl⟩ := taken
    refine custody.frame desc act rfl (by simp) ?_ ?_ (by simp [here]) ?_ (by simp [stays])
    · simp [State.Owned, State.Held, here]
    · simp [here]
    · simpa [here] using awake

theorem Custody.threadRoutineClientConnection {a : ClientConnectionAction}
    (custody : Custody actions s) (handoff : Handoff actions s) (desc : Descriptors s)
    (unique : ∀ a b, Stored actions a → Stored actions b → a.connection = b.connection → a = b)
    (gone : s.cancelRequested .clientConnection = true → s.Gone .accept)
    (keeps : KeepsOneOwner s (.clientConnection a))
    (taken : act s (.clientConnection a) = some s') :
    Custody (actions ++ [.clientConnection a]) s' := by
  have act := taken
  have left := custody.leaving
  cases a <;>
    simp only [Server.act, Server.threadRoutineClientConnection, require_eq_some] at taken <;>
    obtain ⟨guard, rfl⟩ := taken
  case cleanupClose fd flag =>
    have leaving : flag = true → s.clientReady.clientFd = none := by
      rintro rfl
      exact left (by simp [guard])
    cases fd with
    | none =>
        refine custody.frame desc act rfl (by simp) ?_ (by simp) custody.store (by simp)
          (by simpa using leaving)
        simp [State.Owned, State.Held, guard]
    | some fd =>
        have holding : s.clientConnection.holding = some fd := by simp [guard]
        refine custody.close handoff unique rfl (.inr (.inr holding)) rfl ?owned (by simp)
          custody.store (by simp) (by simpa using leaving)
        exact custody.cleanedUp handoff holding rfl rfl (by simp)
  case cancelWait =>
    have quiet : s.clientReady.clientFd = none := by
      by_contra occupied
      have publishing := custody.asleep guard.1 occupied
      rcases gone guard.2 with ended | ended <;>
        simp_all [State.NotCreated, State.Terminated]
    refine custody.frame desc act rfl (by simp) ?_ (by simp) custody.store (by simp)
      (fun _ => quiet)
    simp [State.Owned, State.Held, guard]
  case cancelWoken =>
    refine custody.frame desc act rfl (by simp) ?_ (by simp) custody.store (by simp)
      (fun _ => keeps)
    simp [State.Owned, State.Held, guard]
  case cancelClose => exact keeps.elim
  case cleanupStore fd flag =>
    have slot := handoff.loaded fd (by simp [guard])
    refine custody.frame desc act rfl (by simp) ?_ (by simp) (by simp) (by simp) (by simp)
    simp [State.Owned, State.Held, guard, slot]
  case wait =>
    have empty := handoff.empty (by simp [guard])
    refine custody.frame desc act rfl (by simp) ?_ (by simp) custody.store (by simp [empty])
      (by simp)
    simp [State.Owned, State.Held, guard]
  case relockCancelled | cleanupUnlock =>
    refine custody.frame desc act rfl (by simp) ?_ (by simp) custody.store (by simp) ?_
    · simp [State.Owned, State.Held, guard]
    · simpa [guard] using left
  all_goals
    refine custody.frame desc act rfl (by simp) ?_ (by simp) custody.store (by simp [guard])
      (by simp [guard])
    simp [State.Owned, State.Held, guard]

theorem Custody.act {a : Action} (custody : Custody actions s)
    (run : system.RunWhere KeepsOneOwner actions s) (keeps : KeepsOneOwner s a)
    (taken : act s a = some s') : Custody (actions ++ [a]) s' := by
  have handoff := Handoff.run run
  have life := Lifecycle.run run
  have gone := life.accept_gone (.run run)
  cases a with
  | accept a =>
      refine custody.threadRoutineAccept handoff (.run run) (stored_unique run) ?_ keeps taken
      by_contra leaving
      have cancelled := ClientConnectionPc.isCancelled_of_leaving (by simpa using leaving)
      have stepOf := threadRoutineAccept_stepOf taken
      exact (gone ((CancelRequested.run run).clientConnection cancelled)).elim
        stepOf.created stepOf.running
  | clientConnection a =>
      exact custody.threadRoutineClientConnection handoff (.run run) (stored_unique run) gone
        keeps taken
  | setupThreads | setupChild | parent | childWait | child | client =>
      obtain ⟨slot, accept, clientConnection⟩ := act_sameHandoff taken id
      have own : s'.accept.owned = s.accept.owned ∧
          s'.accept.publishing = s.accept.publishing := by
        rcases accept with same | same | ⟨main, same⟩
        · simp [same]
        · simp [same]
        · have fresh := life.notCreated .accept (by simp [main, MainPc.toCreate])
          simp [same, show s.accept = .notCreated from fresh]
      have held : s'.clientConnection.holding = s.clientConnection.holding ∧
          s'.clientConnection.leaving = s.clientConnection.leaving := by
        rcases clientConnection with same | ⟨main, same⟩
        · simp [same]
        · have fresh := life.notCreated .clientConnection (by simp [main, MainPc.toCreate])
          simp [same, show s.clientConnection = .notCreated from fresh]
      refine custody.frame (.run run) taken rfl (by simp) ?_ ?_ ?_ ?_ ?_
      · simp [State.Owned, State.Held, own, held, slot]
      · simp [own]
      · intro fd storing
        rw [slot]
        rcases accept with same | same | ⟨-, same⟩
        · exact custody.store fd (same ▸ storing)
        · exact custody.store fd (by simpa [same] using storing)
        · simp [same] at storing
      · intro asleep
        rw [slot, own.2]
        rcases clientConnection with same | ⟨-, same⟩
        · exact custody.asleep (same ▸ asleep)
        · simp [same] at asleep
      · rw [held.2, slot]
        exact custody.leaving

theorem Custody.run (run : system.RunWhere KeepsOneOwner actions s) : Custody actions s := by
  refine run.invariant ?_ ?_
  · rintro _ ⟨config, rfl⟩
    exact .start config
  · intro _ s a s' before custody keeps step
    exact custody.act before keeps (system_step.mp step).2

theorem accepted_closed_once (run : system.RunWhere KeepsOneOwner actions s) :
    ClosedOnce actions s := by
  have custody := Custody.run run
  refine ⟨custody.once, ?_, ?_, ?_⟩
  · intro fd inUse
    have owned : s.Owned fd := by
      rcases inUse with ⟨w, here⟩ | here | here | here | ⟨flag, here⟩
      · exact .inl (by simp [here])
      · exact .inl (by simp [here])
      · exact .inl (by simp [here])
      · exact .inr (.inl ((Handoff.run run).loaded _ (by simp [here])))
      · exact .inr (.inr (by simp [here]))
    exact ⟨(custody.owned fd owned).2, custody.refers fd owned⟩
  · intro fd here stored
    exact custody.unstored fd (by simp [here]) fd stored rfl
  · intro accept clientConnection c accepted
    refine (custody.accounted c accepted).resolve_right ?_
    rintro ⟨fd, -, own | slot | holding⟩
    · simp [accept] at own
    · simp [custody.leaving (by simp [clientConnection])] at slot
    · simp [clientConnection] at holding

def sessionEnds (fd : ClientFd) : List Action :=
  [.client (.shutdown fd.connection), .clientConnection (.readEof fd fd.connection),
   .clientConnection (.cleanupLoad false), .clientConnection (.cleanupStore (some fd) false),
   .clientConnection (.cleanupUnlock (some fd) false),
   .clientConnection (.cleanupClose (some fd) false),
   .clientConnection .lock, .clientConnection .slotEmpty, .clientConnection .wait]

def servedToEnd : List Action :=
  startUp ++ handOver ⟨4, 0⟩ ++
    [.clientConnection .relock, .clientConnection (.take ⟨4, 0⟩), .clientConnection .load] ++
  sessionEnds ⟨4, 0⟩ ++ childExits ++ [.accept .cancelAccept] ++ cancelConnection

theorem accepted_closed_once_servedToEnd : closec servedToEnd 0 = 1 := by
  obtain ⟨s, path, accept, clientConnection⟩ :
      ∃ s, system.exec (.start .shell) servedToEnd = some s ∧ s.accept = .ended ∧
        s.clientConnection = .ended :=
    System.exists_exec (by decide +kernel)
  have run : system.RunWhere KeepsOneOwner servedToEnd s :=
    System.runWhere_of_exec ⟨_, rfl⟩ path (by decide +kernel)
  exact (accepted_closed_once run).ended accept clientConnection 0 (by decide)

def overwritten : List Action :=
  startUp ++ handOver ⟨4, 0⟩ ++ handOver ⟨7, 1⟩ ++
    [.clientConnection .relock, .clientConnection (.take ⟨7, 1⟩), .clientConnection .load] ++
  sessionEnds ⟨7, 1⟩ ++ childExits ++ [.accept .cancelAccept] ++ cancelConnection

/-- The accept thread is cancelled at the pthread_testcancel after it has published the connection,
and the connection thread, after a spurious wake-up, takes the closed descriptor. -/
def closedTwice : List Action :=
  startUp ++
    [.client (.connect 0), .accept (.accepted 0), .accept (.trylockAcquired ⟨4, 0⟩),
     .accept (.store ⟨4, 0⟩), .accept (.unlock ⟨4, 0⟩)] ++ childExits ++
    [.accept (.cancelPushed ⟨4, 0⟩), .accept (.cleanupClose ⟨4, 0⟩),
     .clientConnection .wake, .clientConnection .relock, .clientConnection (.take ⟨4, 0⟩),
     .clientConnection .load, .clientConnection (.readFailed (some ⟨4, 0⟩)),
     .clientConnection (.cleanupLoad false), .clientConnection (.cleanupStore (some ⟨4, 0⟩) false),
     .clientConnection (.cleanupUnlock (some ⟨4, 0⟩) false),
     .clientConnection (.cleanupClose (some ⟨4, 0⟩) false),
     .clientConnection .lock, .clientConnection .slotEmpty, .clientConnection .wait] ++
    cancelConnection

/-- The connection thread has been woken for the connection, but is cancelled before it has the
mutex back. -/
def neverTaken : List Action :=
  startUp ++ handOver ⟨4, 0⟩ ++ childExits ++ [.accept .cancelAccept] ++ cancelRequest ++
    [.clientConnection .cancelWoken, .clientConnection .relockCancelled]

theorem accepted_not_closed_once :
    (¬ ∀ actions s, system.Run actions s → s.accept = .ended → s.clientConnection = .ended →
      ∀ c, Action.accept (.accepted c) ∈ actions → 1 ≤ closec actions c) ∧
    (¬ ∀ actions s, system.Run actions s → s.accept = .ended → s.clientConnection = .ended →
      ∀ c, Action.accept (.accepted c) ∈ actions → closec actions c ≤ 1) ∧
    ∃ s, system.exec (.start .shell) neverTaken = some s ∧ s.accept = .ended ∧
      s.clientConnection = .ended ∧ closec neverTaken 0 = 0 := by
  refine ⟨?_, ?_, System.exists_exec (by decide +kernel)⟩
  · intro claim
    obtain ⟨s, path, accept, clientConnection⟩ :
        ∃ s, system.exec (.start .shell) overwritten = some s ∧ s.accept = .ended ∧
          s.clientConnection = .ended :=
      System.exists_exec (by decide +kernel)
    exact absurd (claim _ s (System.run_of_exec ⟨_, rfl⟩ path) accept clientConnection 0
      (by decide)) (by decide)
  · intro claim
    obtain ⟨s, path, accept, clientConnection⟩ :
        ∃ s, system.exec (.start .shell) closedTwice = some s ∧ s.accept = .ended ∧
          s.clientConnection = .ended :=
      System.exists_exec (by decide +kernel)
    exact absurd (claim _ s (System.run_of_exec ⟨_, rfl⟩ path) accept clientConnection 0
      (by decide)) (by decide)

end Usockit.Server
