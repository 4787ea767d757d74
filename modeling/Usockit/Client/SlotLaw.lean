import Mathlib.Data.List.Perm.Subperm
import Usockit.Client.RejectionReturn

namespace Usockit.Client
open Foundation

variable {s s' t : State} {actions : List Action}

/-! ## The law -/

/-- The result that takes effect: the thread stores it or leaves the slot as it is. -/
def Action.posts : Action → Option ThreadsResult
  | .sendingThread (.dispatchResult r _ .store) | .sendingThread (.dispatchResult r _ .testKeep) =>
      some r.toThreadsResult
  | .receivingThread (.post r _ .store) | .receivingThread (.post r _ .testKeep) =>
      some r.toThreadsResult
  | _ => none

def posts (actions : List Action) : List ThreadsResult := actions.filterMap Action.posts

def ThreadsResult.isFuckOff : ThreadsResult → Bool
  | ⟨.receiving, .receiving r⟩ => r.type = .fuckOff
  | _ => false

/-- EPIPE from write() is replaced by the rejection, and nothing else is replaced. -/
def ThreadsResult.yieldsTo (first later : ThreadsResult) : Bool :=
  first = epipeResult.toThreadsResult ∧ later.isFuckOff = true

/-- What the slot holds after these results have been posted in this order. -/
def slotOf : List ThreadsResult → ThreadsResult
  | [] => .unset
  | [first] => first
  | first :: second :: _ => if first.yieldsTo second then second else first

/-- The member of the union that was written last is the one that the origin names. -/
def ThreadsResult.Tagged (r : ThreadsResult) : Prop :=
  match r.origin with
  | .none => r.threadUnion = .uninitialized
  | .sending => ∃ sending, r.threadUnion = .sending sending
  | .receiving => ∃ receiving, r.threadUnion = .receiving receiving

theorem ThreadsResult.Posted.tagged {r : ThreadsResult} (posted : r.Posted) : r.Tagged := by
  rcases posted with ⟨sending, rfl⟩ | ⟨receiving, rfl⟩
  · exact ⟨sending, rfl⟩
  · exact ⟨receiving, rfl⟩

theorem posts_snoc (a : Action) : posts (actions ++ [a]) = posts actions ++ a.posts.toList := by
  cases h : a.posts <;> simp [posts, h]

theorem posted_of_mem_posts {r : ThreadsResult} (member : r ∈ posts actions) : r.Posted := by
  obtain ⟨a, -, posts⟩ := List.mem_filterMap.mp member
  unfold Action.posts at posts
  split at posts <;> cases posts
  · exact .inl ⟨_, rfl⟩
  · exact .inl ⟨_, rfl⟩
  · exact .inr ⟨_, rfl⟩
  · exact .inr ⟨_, rfl⟩

theorem ReceivingThreadResult.replaces_eq (r : ReceivingThreadResult) (slot : ThreadsResult) :
    r.replaces slot = true ↔ slot.origin = .none ∨ slot.yieldsTo r.toThreadsResult = true := by
  have epipe : slot = epipeResult.toThreadsResult ↔
      slot.origin = .sending ∧ slot.threadUnion = .sending ⟨Client.epipe, .write⟩ :=
    ⟨by rintro rfl; exact ⟨rfl, rfl⟩, fun ⟨origin, member⟩ => ThreadsResult.eq_epipe origin member⟩
  simp only [replaces, ThreadsResult.yieldsTo, ThreadsResult.isFuckOff, toThreadsResult, epipe,
    decide_eq_true_eq]
  tauto

theorem ThreadsResult.not_yieldsTo_sending (slot : ThreadsResult) (r : SendingThreadResult) :
    slot.yieldsTo r.toThreadsResult = false := by
  simp [yieldsTo, isFuckOff, SendingThreadResult.toThreadsResult]

theorem length_le_two {results : List ThreadsResult} (posted : ∀ r ∈ results, r.Posted)
    (once : (results.map ThreadsResult.origin).Nodup) : results.length ≤ 2 := by
  have origins : results.map ThreadsResult.origin ⊆ [.sending, .receiving] := by
    intro origin member
    obtain ⟨r, mem, rfl⟩ := List.mem_map.mp member
    rcases posted r mem with ⟨sending, rfl⟩ | ⟨receiving, rfl⟩
    · exact List.mem_cons_self
    · exact List.mem_cons_of_mem _ List.mem_cons_self
  simpa using (once.subperm origins).length_le

theorem slotOf_snoc {earlier : List ThreadsResult} {r : ThreadsResult}
    (posted : ∀ first ∈ earlier ++ [r], first.Posted)
    (once : ((earlier ++ [r]).map ThreadsResult.origin).Nodup) :
    slotOf (earlier ++ [r]) =
      if (slotOf earlier).origin = .none ∨ (slotOf earlier).yieldsTo r then r
      else slotOf earlier := by
  match earlier with
  | [] => simp [slotOf, ThreadsResult.unset]
  | [first] =>
      have set := (posted first (by simp)).origin
      simp [slotOf, set]
  | first :: second :: rest =>
      have two := length_le_two posted once
      simp at two

theorem slotOf_mem {results : List ThreadsResult} (some_result : results ≠ []) :
    slotOf results ∈ results := by
  match results with
  | [] => exact absurd rfl some_result
  | [first] => exact List.mem_singleton_self first
  | first :: second :: rest =>
      cases yields : first.yieldsTo second <;> simp [slotOf, yields]

theorem slotOf_unset {results : List ThreadsResult} (posted : ∀ r ∈ results, r.Posted) :
    (slotOf results).origin = .none ↔ results = [] := by
  constructor
  · intro unset
    by_contra some_result
    exact (posted _ (slotOf_mem some_result)).origin unset
  · rintro rfl
    rfl

theorem slotOf_first {first : ThreadsResult} {later : List ThreadsResult}
    (stays : first ≠ epipeResult.toThreadsResult ∨ ∀ r ∈ later, r.isFuckOff = false) :
    slotOf (first :: later) = first := by
  cases later with
  | nil => rfl
  | cons second rest =>
      have kept : first.yieldsTo second = false := by
        rcases stays with other | others
        · simp [ThreadsResult.yieldsTo, other]
        · simp [ThreadsResult.yieldsTo, others second]
      simp [slotOf, kept]

theorem slotOf_fuckOff {results : List ThreadsResult} {readErrno : Nat}
    (few : results.length ≤ 2) (epipe : epipeResult.toThreadsResult ∈ results)
    (fuckOff : ReceivingThreadResult.toThreadsResult ⟨.fuckOff, readErrno⟩ ∈ results) :
    slotOf results = ReceivingThreadResult.toThreadsResult ⟨.fuckOff, readErrno⟩ := by
  have apart : epipeResult.toThreadsResult ≠
      ReceivingThreadResult.toThreadsResult ⟨.fuckOff, readErrno⟩ := nofun
  match results with
  | [] => exact absurd epipe List.not_mem_nil
  | [first] =>
      rw [List.mem_singleton] at epipe fuckOff
      exact absurd (epipe.trans fuckOff.symm) apart
  | [first, second] =>
      simp only [List.mem_cons, List.not_mem_nil, or_false] at epipe fuckOff
      rcases epipe with rfl | rfl <;> rcases fuckOff with same | same
      · exact absurd same.symm apart
      · subst same
        rfl
      · subst same
        rfl
      · exact absurd same.symm apart
  | first :: second :: third :: rest => simp at few

theorem slotOf_append {earlier later : List ThreadsResult} (some_result : earlier ≠ []) :
    slotOf (earlier ++ later) = slotOf earlier ∨
      (slotOf earlier).yieldsTo (slotOf (earlier ++ later)) = true := by
  match earlier, later with
  | [], _ => exact absurd rfl some_result
  | [first], [] => exact .inl rfl
  | first :: second :: rest, _ => exact .inl rfl
  | [first], second :: rest =>
      cases yields : first.yieldsTo second with
      | true => exact .inr (by simp [slotOf, yields])
      | false => exact .inl (by simp [slotOf, yields])

/-! ## What a step does to the slot -/

def SendingThreadPc.passed : SendingThreadPc → Bool
  | .dispatchResult _ p => p.signals
  | .ended => true
  | _ => false

attribute [simp] SendingThreadPc.passed.eq_1 SendingThreadPc.passed.eq_2

/-- The thread with the origin `origin` does not touch the slot, or it posts `r`. -/
inductive Posts (origin : ThreadsResultOrigin) (a : Action) (before after : Bool)
    (slot slot' : ThreadsResult) : Prop
  | aside (silent : a.posts = none) (passed : after = false → before = false)
      (same : slot' = slot)
  | post (r : ThreadsResult) (posts : a.posts = some r) (named : r.origin = origin)
      (unpassed : before = false) (passed : after = true)
      (admitted : slot' = if slot.origin = .none ∨ slot.yieldsTo r then r else slot)

theorem sendingThreadRoutine_posts {a : SendingThreadAction} (slot : Slot s)
    (taken : sendingThreadRoutine s a = some s') :
    Posts .sending (.sendingThread a) s.sendingThread.passed s'.sendingThread.passed
      s.threadsResultDest.result s'.threadsResultDest.result := by
  obtain ⟨-, -, ⟨aside, working, -⟩ | ⟨r, p, b, next, rfl, here, posted, rfl⟩ |
    ⟨r, rfl, here, rfl⟩⟩ := sendingThreadRoutine_cases taken
  · have silent : (Action.sendingThread a).posts = none := by
      cases a with
      | dispatchResult r p b =>
          simp only [sendingThreadRoutine, Option.ite_none_right_eq_some] at taken
          simp [taken.1] at working
      | _ => rfl
    refine .aside silent (fun _ => ?_) (by rw [aside.threadsResultDest])
    cases here : s.sendingThread <;> simp_all [SendingThreadPc.passed]
  · cases b <;> simp only [threadsDispatchResult, post, require_eq_some] at posted <;>
      obtain ⟨guard, rfl⟩ := posted
    case store =>
      have empty := slot.sendingStore r (by simp [here, guard])
      exact .post r.toThreadsResult rfl rfl (by simp [here, guard]) (by simp) (by simp [empty])
    case testKeep =>
      refine .post r.toThreadsResult rfl rfl (by simp [here, guard]) (by simp) ?_
      have set : s.threadsResultDest.result.origin ≠ .none := by simpa using guard.2
      simp [set, ThreadsResult.not_yieldsTo_sending]
    all_goals exact .aside rfl (by simp [here, guard]) rfl
  · exact .aside rfl (by simp) rfl

theorem receivingThreadRoutine_posts {a : ReceivingThreadAction} (slot : Slot s)
    (taken : receivingThreadRoutine s a = some s') :
    Posts .receiving (.receivingThread a) s.receivingThread.passed s'.receivingThread.passed
      s.threadsResultDest.result s'.threadsResultDest.result := by
  obtain ⟨-, -, ⟨aside, working, -⟩ | ⟨r, p, b, next, rfl, here, posted, rfl⟩ |
    ⟨r, rfl, here, rfl⟩⟩ := receivingThreadRoutine_cases taken
  · have silent : (Action.receivingThread a).posts = none := by
      cases a with
      | post r p b =>
          simp only [receivingThreadRoutine, Option.ite_none_right_eq_some] at taken
          simp [taken.1] at working
      | _ => rfl
    exact .aside silent (fun _ => (ReceivingThreadPc.not_posting working).2.2)
      (by rw [aside.threadsResultDest])
  · cases b <;> simp only [post, require_eq_some] at posted <;> obtain ⟨guard, rfl⟩ := posted
    case store =>
      have replaces := r.replaces_eq _ |>.mp (slot.receivingStore r (by simp [here, guard]))
      exact .post r.toThreadsResult rfl rfl (by simp [here, guard]) (by simp)
        (by simp only [if_pos replaces])
    case testKeep =>
      have keeps := mt (r.replaces_eq s.threadsResultDest.result).mpr (by simp [guard.2])
      exact .post r.toThreadsResult rfl rfl (by simp [here, guard]) (by simp)
        (by simp only [if_neg keeps])
    all_goals exact .aside rfl (by simp [here, guard]) rfl
  · exact .aside rfl (by simp) rfl

/-! ## The law along a run -/

structure Law (actions : List Action) (s : State) : Prop where
  slot : s.threadsResultDest.result = slotOf (posts actions)
  sending : s.sendingThread.passed = false → .sending ∉ (posts actions).map ThreadsResult.origin
  receiving : s.receivingThread.passed = false →
    .receiving ∉ (posts actions).map ThreadsResult.origin
  once : ((posts actions).map ThreadsResult.origin).Nodup
  copied : ∀ ops r, s.main = .exit ops (some r) → r ∈ posts actions
  ending : ∀ ret, s.main = .closeSocket ret ∨ s.main = .returned ret →
    ret = .unknown ∨ ∃ r ∈ posts actions, r.retStatus = some ret

theorem Law.aside {a : Action} (law : Law actions s) (silent : a.posts = none)
    (slot : s'.threadsResultDest.result = s.threadsResultDest.result)
    (main : s'.main = s.main ∨ s'.main = s.main.signalled)
    (sending : s'.sendingThread.passed = false → s.sendingThread.passed = false)
    (receiving : s'.receivingThread.passed = false → s.receivingThread.passed = false) :
    Law (actions ++ [a]) s' := by
  have same : posts (actions ++ [a]) = posts actions := by simp [posts_snoc, silent]
  constructor <;> rw [same]
  · rw [slot, law.slot]
  · exact fun unpassed => law.sending (sending unpassed)
  · exact fun unpassed => law.receiving (receiving unpassed)
  · exact law.once
  · exact fun ops r here => law.copied ops r (MainPc.eq_of_signalled main nofun here)
  · intro ret here
    exact law.ending ret (here.imp (MainPc.eq_of_signalled main nofun)
      (MainPc.eq_of_signalled main nofun))

theorem Law.post {a : Action} {r : ThreadsResult} (law : Law actions s) (posts : a.posts = some r)
    (fresh : r.origin ∉ (Client.posts actions).map ThreadsResult.origin)
    (admitted : s'.threadsResultDest.result =
      if s.threadsResultDest.result.origin = .none ∨ s.threadsResultDest.result.yieldsTo r then r
      else s.threadsResultDest.result)
    (main : s'.main = s.main ∨ s'.main = s.main.signalled)
    (sending : s'.sendingThread.passed = false → s.sendingThread.passed = false ∧ r.origin ≠ .sending)
    (receiving : s'.receivingThread.passed = false →
      s.receivingThread.passed = false ∧ r.origin ≠ .receiving) : Law (actions ++ [a]) s' := by
  have snoc : Client.posts (actions ++ [a]) = Client.posts actions ++ [r] := by
    simp [posts_snoc, posts]
  have once : ((Client.posts actions ++ [r]).map ThreadsResult.origin).Nodup := by
    rw [List.map_append, List.nodup_append]
    refine ⟨law.once, by simp, ?_⟩
    rintro origin member _ named rfl
    exact fresh (List.mem_singleton.mp named ▸ member)
  have posted : ∀ first ∈ Client.posts actions ++ [r], first.Posted :=
    fun first member => posted_of_mem_posts (snoc ▸ member)
  constructor <;> rw [snoc]
  · rw [admitted, slotOf_snoc posted once, law.slot]
  · intro unpassed
    obtain ⟨before, other⟩ := sending unpassed
    rw [List.map_append, List.mem_append, not_or]
    exact ⟨law.sending before, by simpa using other.symm⟩
  · intro unpassed
    obtain ⟨before, other⟩ := receiving unpassed
    rw [List.map_append, List.mem_append, not_or]
    exact ⟨law.receiving before, by simpa using other.symm⟩
  · exact once
  · exact fun ops r' here => List.mem_append_left _
      (law.copied ops r' (MainPc.eq_of_signalled main nofun here))
  · intro ret here
    refine (law.ending ret (here.imp (MainPc.eq_of_signalled main nofun)
      (MainPc.eq_of_signalled main nofun))).imp_right fun ⟨r', member, status⟩ => ?_
    exact ⟨r', List.mem_append_left _ member, status⟩

theorem Law.sendingThreadRoutine {a : SendingThreadAction} (law : Law actions s) (slot : Slot s)
    (taken : sendingThreadRoutine s a = some s') : Law (actions ++ [.sendingThread a]) s' := by
  have main := sendingThreadRoutine_main taken
  have receiving := (sendingThreadRoutine_cases taken).2.1
  rcases sendingThreadRoutine_posts slot taken with
    ⟨silent, passed, same⟩ | ⟨r, posts, named, unpassed, passed, admitted⟩
  · exact law.aside silent same main passed (by simp [receiving])
  · exact law.post posts (named ▸ law.sending unpassed) admitted main (by simp [passed])
      (by simp +contextual [receiving, named])

theorem Law.receivingThreadRoutine {a : ReceivingThreadAction} (law : Law actions s)
    (slot : Slot s) (taken : receivingThreadRoutine s a = some s') :
    Law (actions ++ [.receivingThread a]) s' := by
  have main := receivingThreadRoutine_main taken
  have sending := (receivingThreadRoutine_cases taken).2.1
  rcases receivingThreadRoutine_posts slot taken with
    ⟨silent, passed, same⟩ | ⟨r, posts, named, unpassed, passed, admitted⟩
  · exact law.aside silent same main (by simp [sending]) passed
  · exact law.post posts (named ▸ law.receiving unpassed) admitted main
      (by simp +contextual [sending, named]) (by simp [passed])

attribute [local simp] MainPc.createsReceivingThread MainPc.createsSendingThread

theorem Law.usockitClient {a : MainAction} (law : Law actions s) (inv : Invariants s)
    (taken : usockitClient s a = some s') : Law (actions ++ [.main a]) s' := by
  obtain ⟨-, -, slot, receiving, sending⟩ := usockitClient_frame inv.life taken
  have same : posts (actions ++ [.main a]) = posts actions := by simp [posts_snoc, Action.posts]
  have sendingKept : s'.sendingThread.passed = false → s.sendingThread.passed = false := by
    rcases sending with kept | ⟨fresh, -⟩
    · simp [kept]
    · simp [fresh, SendingThreadPc.passed]
  have receivingKept : s'.receivingThread.passed = false → s.receivingThread.passed = false := by
    rcases receiving with kept | ⟨fresh, -⟩
    · simp [kept]
    · simp [fresh, ReceivingThreadPc.passed]
  suffices left : (∀ ops r, s'.main = .exit ops (some r) → r ∈ posts actions) ∧
      ∀ ret, s'.main = .closeSocket ret ∨ s'.main = .returned ret →
        ret = .unknown ∨ ∃ r ∈ posts actions, r.retStatus = some ret by
    constructor <;> rw [same]
    · rw [slot, law.slot]
    · exact fun unpassed => law.sending (sendingKept unpassed)
    · exact fun unpassed => law.receiving (receivingKept unpassed)
    · exact law.once
    · exact left.1
    · exact left.2
  cases a <;> simp only [Client.usockitClient, require_eq_some, Option.ite_none_right_eq_some,
    Option.map_eq_some_iff] at taken
  case exit op rest copied =>
    obtain ⟨here, next, -, rfl⟩ := taken
    refine ⟨?_, by simp⟩
    rintro ops r ⟨⟩
    exact law.copied _ r here
  case copy =>
    obtain ⟨here, rfl⟩ := taken
    refine ⟨?_, by simp⟩
    rintro ops r ⟨⟩
    have set := inv.slot.copy here
    rw [law.slot] at set ⊢
    exact slotOf_mem fun empty => set (by rw [empty]; rfl)
  case ret copied =>
    obtain ⟨here, rfl⟩ := taken
    refine ⟨by simp, ?_⟩
    intro ret ending
    cases copied with
    | none =>
        obtain rfl : RetStatus.unknown = ret := by simpa [MainPc.afterExit] using ending
        exact .inl rfl
    | some r =>
        obtain ⟨status, known⟩ := (inv.slot.copied _ r here).retStatus
        obtain rfl : status = ret := by simpa [MainPc.afterExit, known] using ending
        exact .inr ⟨r, law.copied _ r here, known⟩
  case closeSocket ret =>
    obtain ⟨here, rfl⟩ := taken
    refine ⟨by simp, ?_⟩
    rintro ret' (⟨⟨⟩⟩ | ⟨⟨⟩⟩)
    exact law.ending ret (.inl here)
  case socketFailed =>
    obtain ⟨-, rfl⟩ := taken
    exact ⟨by simp, by simp⟩
  all_goals
    obtain ⟨-, rfl⟩ := taken
    exact ⟨by simp, by simp⟩

theorem Law.run {ok : State → Action → Prop} (run : system.RunWhere ok actions s) :
    Law actions s := by
  refine run.invariant (I := Law) ?_ ?_
  · rintro s ⟨stdin, rfl⟩
    constructor <;> simp [State.start, posts, slotOf]
  · intro actions s a s' before law _ step
    have inv := Invariants.run before
    have taken := (system_step.mp step).2
    cases a with
    | main a => exact law.usockitClient inv taken
    | receivingThread a => exact law.receivingThreadRoutine inv.slot taken
    | sendingThread a => exact law.sendingThreadRoutine inv.slot taken
    | server a =>
        simp only [act, Option.map_eq_some_iff] at taken
        obtain ⟨socket, -, rfl⟩ := taken
        exact law.aside rfl rfl (.inl rfl) id id

/-! ## The signals -/

/-- Who has stored a result with this origin has its signal still ahead. -/
def State.posterSignals (s : State) : ThreadsResultOrigin → Bool
  | .none => true
  | .sending => s.sendingThread.signals
  | .receiving => s.receivingThread.signals

def Signalling (s : State) : Prop :=
  s.main = .asleep → s.posterSignals s.threadsResultDest.result.origin = true

theorem Signalling.keep (signalling : Signalling s)
    (main : s'.main = .asleep → s.main = .asleep)
    (origin : s'.threadsResultDest.result.origin = s.threadsResultDest.result.origin)
    (receiving : s.receivingThread.signals = true → s'.receivingThread.signals = true)
    (sending : s.sendingThread.signals = true → s'.sendingThread.signals = true) :
    Signalling s' := by
  intro asleep
  have signals := signalling (main asleep)
  rw [origin]
  cases posted : s.threadsResultDest.result.origin <;> rw [posted] at signals
  · rfl
  · exact sending signals
  · exact receiving signals

theorem Signalling.sendingThreadRoutine {a : SendingThreadAction} (signalling : Signalling s)
    (taken : sendingThreadRoutine s a = some s') : Signalling s' := by
  obtain ⟨-, same, ⟨aside, working, -⟩ | ⟨r, p, b, next, -, here, posted, rfl⟩ |
    ⟨r, -, here, rfl⟩⟩ := sendingThreadRoutine_cases taken
  · have silent := (SendingThreadPc.not_posting working).2
    exact signalling.keep (by simp [aside.main]) (by rw [aside.threadsResultDest])
      (by simp [same]) (by simp [silent])
  · cases b <;> simp only [threadsDispatchResult, post, require_eq_some] at posted <;>
      obtain ⟨guard, rfl⟩ := posted
    case store => exact fun _ => rfl
    all_goals exact signalling.keep id rfl id (by simp [here, guard])
  · intro asleep
    simp at asleep

theorem Signalling.receivingThreadRoutine {a : ReceivingThreadAction} (signalling : Signalling s)
    (taken : receivingThreadRoutine s a = some s') : Signalling s' := by
  obtain ⟨-, same, ⟨aside, working, -⟩ | ⟨r, p, b, next, -, here, posted, rfl⟩ |
    ⟨r, -, here, rfl⟩⟩ := receivingThreadRoutine_cases taken
  · obtain ⟨-, silent, -⟩ := ReceivingThreadPc.not_posting working
    exact signalling.keep (by simp [aside.main]) (by rw [aside.threadsResultDest])
      (by simp [silent]) (by simp [same])
  · cases b <;> simp only [post, require_eq_some] at posted <;> obtain ⟨guard, rfl⟩ := posted
    case store => exact fun _ => rfl
    all_goals exact signalling.keep id rfl (by simp [here, guard]) id
  · intro asleep
    simp at asleep

theorem Signalling.usockitClient {a : MainAction} (slot : Slot s)
    (taken : usockitClient s a = some s') : Signalling s' := by
  intro asleep
  cases a <;> simp only [Client.usockitClient, require_eq_some, Option.ite_none_right_eq_some,
    Option.map_eq_some_iff] at taken
  case wait =>
    obtain ⟨here, rfl⟩ := taken
    simp [slot.wait here, State.posterSignals]
  case exit op rest copied =>
    obtain ⟨-, next, -, rfl⟩ := taken
    simp at asleep
  case ret copied =>
    obtain ⟨here, rfl⟩ := taken
    obtain ⟨ret, after⟩ := MainPc.afterExit_posted fun r same => slot.copied [] r (same ▸ here)
    simp [after] at asleep
  all_goals
    obtain ⟨-, rfl⟩ := taken
    simp at asleep

theorem Signalling.run (run : system.Run actions s) : Signalling s := by
  refine run.stateInvariant (I := Signalling) ?_ ?_
  · rintro s ⟨stdin, rfl⟩
    simp [Signalling, State.start]
  · intro actions s a s' before signalling _ step
    have slot := (Invariants.run before).slot
    have taken := (system_step.mp step).2
    cases a with
    | main a => exact Signalling.usockitClient slot taken
    | receivingThread a => exact signalling.receivingThreadRoutine taken
    | sendingThread a => exact signalling.sendingThreadRoutine taken
    | server a =>
        simp only [act, Option.map_eq_some_iff] at taken
        obtain ⟨socket, -, rfl⟩ := taken
        exact signalling.keep id rfl id id

/-- A thread that has called pthread_cond_signal() has ended. -/
structure Signalled (actions : List Action) (s : State) : Prop where
  sending : ∀ r, .sendingThread (.signal r) ∈ actions → s.sendingThread = .ended
  receiving : ∀ r, .receivingThread (.signal r) ∈ actions → s.receivingThread = .ended

theorem sendingThreadRoutine_unended {a : SendingThreadAction}
    (taken : sendingThreadRoutine s a = some s') : s.sendingThread ≠ .ended := by
  intro ended
  cases a <;> simp [sendingThreadRoutine, require, ended] at taken

theorem receivingThreadRoutine_unended {a : ReceivingThreadAction}
    (taken : receivingThreadRoutine s a = some s') : s.receivingThread ≠ .ended := by
  intro ended
  cases a <;> simp [receivingThreadRoutine, require, ended] at taken

theorem act_ended {a : Action} (life : Lifecycle s) (taken : act s a = some s') :
    (s.sendingThread = .ended → s'.sendingThread = .ended) ∧
      (s.receivingThread = .ended → s'.receivingThread = .ended) := by
  cases a with
  | main a =>
      obtain ⟨-, -, -, receiving, sending⟩ := usockitClient_frame life taken
      constructor <;> intro ended
      · exact (sending.resolve_right (by simp [ended])).trans ended
      · exact (receiving.resolve_right (by simp [ended])).trans ended
  | receivingThread a =>
      have same := (receivingThreadRoutine_cases taken).2.1
      exact ⟨by simp [same], fun ended => absurd ended (receivingThreadRoutine_unended taken)⟩
  | sendingThread a =>
      have same := (sendingThreadRoutine_cases taken).2.1
      exact ⟨fun ended => absurd ended (sendingThreadRoutine_unended taken), by simp [same]⟩
  | server a =>
      simp only [act, Option.map_eq_some_iff] at taken
      obtain ⟨socket, -, rfl⟩ := taken
      exact ⟨id, id⟩

theorem Signalled.run (run : system.Run actions s) : Signalled actions s := by
  refine run.invariant (I := Signalled) (fun _ _ => ⟨by simp, by simp⟩) ?_
  intro actions s a s' before signalled _ step
  have taken := (system_step.mp step).2
  obtain ⟨sending, receiving⟩ := act_ended (Invariants.run before).life taken
  constructor <;> intro r member <;> rcases List.mem_append.mp member with earlier | now
  · exact sending (signalled.sending r earlier)
  · obtain rfl := List.mem_singleton.mp now
    obtain ⟨-, rfl⟩ := require_eq_some.mp taken
    rfl
  · exact receiving (signalled.receiving r earlier)
  · obtain rfl := List.mem_singleton.mp now
    obtain ⟨-, rfl⟩ := require_eq_some.mp taken
    rfl

/-! ## The result slot -/

/-- main leaves with the result it has copied, or returns what the switch makes of it. -/
def MainPc.LeavesWith (r : ThreadsResult) : MainPc → Prop
  | .exit _ copied => copied = some r
  | .closeSocket ret | .returned ret => r.retStatus = some ret
  | _ => False

attribute [local simp] MainPc.LeavesWith

theorem act_leavesWith {a : Action} {r : ThreadsResult} (posted : r.Posted)
    (leaves : s.main.LeavesWith r) (taken : act s a = some s') : s'.main.LeavesWith r := by
  have signalled : s.main.signalled.LeavesWith r := by
    cases here : s.main <;> simp_all [MainPc.signalled]
  cases a with
  | receivingThread a =>
      rcases receivingThreadRoutine_main taken with main | main <;> rwa [main]
  | sendingThread a => rcases sendingThreadRoutine_main taken with main | main <;> rwa [main]
  | server a =>
      simp only [act, Option.map_eq_some_iff] at taken
      obtain ⟨socket, -, rfl⟩ := taken
      exact leaves
  | main a =>
      cases a <;> simp only [act, usockitClient, require_eq_some, Option.ite_none_right_eq_some,
        Option.map_eq_some_iff] at taken
      case exit op rest copied =>
        obtain ⟨here, next, -, rfl⟩ := taken
        simpa [here] using leaves
      case ret copied =>
        obtain ⟨here, rfl⟩ := taken
        obtain rfl : copied = some r := by simpa [here] using leaves
        obtain ⟨ret, status⟩ := posted.retStatus
        simp [MainPc.afterExit, status]
      case closeSocket ret =>
        obtain ⟨here, rfl⟩ := taken
        simpa [here] using leaves
      all_goals
        obtain ⟨here, -⟩ := taken
        simp [here] at leaves

/-- What holds of the slot and of what main makes of it, now and `later`. -/
structure SlotLaw (actions : List Action) (s : State) : Prop where
  law : s.threadsResultDest.result = slotOf (posts actions)
  -- Each thread posts once at most.
  once : ((posts actions).map ThreadsResult.origin).Nodup
  unset : s.threadsResultDest.result.origin = .none ↔ posts actions = []
  tagged : s.threadsResultDest.result.Tagged
  fuckOff : ∀ readErrno, epipeResult.toThreadsResult ∈ posts actions →
    ReceivingThreadResult.toThreadsResult ⟨.fuckOff, readErrno⟩ ∈ posts actions →
    s.threadsResultDest.result = ReceivingThreadResult.toThreadsResult ⟨.fuckOff, readErrno⟩
  first : ∀ first later, posts actions = first :: later →
    first ≠ epipeResult.toThreadsResult ∨ (∀ r ∈ later, r.isFuckOff = false) →
    s.threadsResultDest.result = first
  copied : ∀ ops r, s.main = .exit ops (some r) → r ∈ posts actions ∧ r.Tagged
  pending : s.main = .asleep →
    (s.threadsResultDest.result.origin = .sending →
      s.sendingThread.signals = true ∧ ∀ r, .sendingThread (.signal r) ∉ actions) ∧
    (s.threadsResultDest.result.origin = .receiving →
      s.receivingThread.signals = true ∧ ∀ r, .receivingThread (.signal r) ∉ actions)
  later : ∀ more t, system.exec s more = some t →
    (s.threadsResultDest.result.origin ≠ .none → t.threadsResultDest.result.origin ≠ .none ∧
      (t.threadsResultDest.result = s.threadsResultDest.result ∨
        s.threadsResultDest.result.yieldsTo t.threadsResultDest.result = true)) ∧
    ∀ ops r, s.main = .exit ops (some r) → t.main.LeavesWith r

theorem slot_law (run : system.Run actions s) : SlotLaw actions s := by
  have law := Law.run run
  have signalled := Signalled.run run
  have posted : ∀ r ∈ posts actions, r.Posted := fun r => posted_of_mem_posts
  have unset : s.threadsResultDest.result.origin = .none ↔ posts actions = [] := by
    rw [law.slot]
    exact slotOf_unset posted
  constructor
  case law => exact law.slot
  case once => exact law.once
  case unset => exact unset
  case tagged =>
    rw [law.slot]
    by_cases empty : posts actions = []
    · rw [empty]
      rfl
    · exact (posted _ (slotOf_mem empty)).tagged
  case fuckOff =>
    intro readErrno epipe fuckOff
    rw [law.slot]
    exact slotOf_fuckOff (length_le_two posted law.once) epipe fuckOff
  case first =>
    intro first later results stays
    rw [law.slot, results]
    exact slotOf_first stays
  case copied =>
    intro ops r here
    have member := law.copied ops r here
    exact ⟨member, (posted r member).tagged⟩
  case pending =>
    intro asleep
    have signals := Signalling.run run asleep
    constructor <;> intro origin <;> rw [origin] at signals
    · refine ⟨signals, fun r done => ?_⟩
      simp [State.posterSignals, signalled.sending r done] at signals
    · refine ⟨signals, fun r done => ?_⟩
      simp [State.posterSignals, signalled.receiving r done] at signals
  case later =>
    intro more t path
    have after := Law.run (System.run_exec run path)
    have results : posts (actions ++ more) = posts actions ++ posts more := List.filterMap_append
    refine ⟨fun set => ?_, fun ops r here => ?_⟩
    · have some_result : posts actions ≠ [] := mt unset.mpr set
      constructor
      · rw [after.slot, ne_eq, slotOf_unset fun r => posted_of_mem_posts, results]
        simp [some_result]
      · rw [after.slot, results, law.slot]
        exact slotOf_append some_result
    · have copied := posted r (law.copied ops r here)
      have leaves : s.main.LeavesWith r := by simp [here]
      exact System.exec_keeps (I := fun s => s.main.LeavesWith r)
        (fun s a s' leaves step => act_leavesWith copied leaves (system_step.mp step).2) leaves path

theorem slot_law_replacedInTime :
    ∃ s, system.Run replacedInTime s ∧
      posts replacedInTime = [epipeResult.toThreadsResult, fuckOffResult.toThreadsResult] ∧
      s.threadsResultDest.result = fuckOffResult.toThreadsResult := by
  obtain ⟨s, path, -⟩ :
      ∃ s, system.exec (.start [104, 105]) replacedInTime = some s ∧ s.fate = .running :=
    System.exists_exec (by decide +kernel)
  have run : system.Run replacedInTime s := System.run_of_exec ⟨_, rfl⟩ path
  have posted : posts replacedInTime =
      [epipeResult.toThreadsResult, fuckOffResult.toThreadsResult] := by decide
  refine ⟨s, run, posted, (slot_law run).fuckOff 0 ?_ ?_⟩
  · simp [posted]
  · simp [posted, fuckOffResult]

end Usockit.Client
