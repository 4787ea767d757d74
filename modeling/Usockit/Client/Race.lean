import Usockit.Client.Teardown
import Usockit.Foundation.Race

namespace Usockit.Client
open Foundation

variable {s s' : State} {actions : List Action} {t : Thread}

/-! ## The objects that the threads share -/

/-- `result` is what `threads_result_dest` has besides its mutex and its condition variable. -/
inductive Object
  | receivingThreadRoutineArg | sendingThreadRoutineArg
  | mutex | cond | result
  deriving DecidableEq

def PostPc.accesses : PostPc → List (Access Object)
  | .lock | .unlock => [⟨.mutex, .sync⟩]
  | .test => [⟨.result, .read⟩]
  | .store => [⟨.result, .write⟩]
  | .signal => [⟨.cond, .sync⟩]

def SendingThreadPc.accesses : SendingThreadPc → List (Access Object)
  | .freeArg => [⟨.sendingThreadRoutineArg, .write⟩]
  | .dispatchResult _ p => p.accesses
  | .notCreated | .sigmask | .read | .write _ | .ended => []

def ReceivingThreadPc.accesses : ReceivingThreadPc → List (Access Object)
  | .freeArg => [⟨.receivingThreadRoutineArg, .write⟩]
  | .post _ p => p.accesses
  | .notCreated | .read | .abort | .ended => []

def ExitOp.accesses : ExitOp → List (Access Object)
  | .freeReceivingThreadRoutineArg => [⟨.receivingThreadRoutineArg, .write⟩]
  | .freeSendingThreadRoutineArg => [⟨.sendingThreadRoutineArg, .write⟩]
  | .unlock => [⟨.mutex, .sync⟩]
  | .destroyCond => [⟨.cond, .write⟩]
  | .destroyMutex => [⟨.mutex, .write⟩]
  | .freeThreadsResultDest => [⟨.mutex, .write⟩, ⟨.cond, .write⟩, ⟨.result, .write⟩]
  | .cancel _ | .join _ => []

/-- A thread that is asleep in pthread_cond_wait still uses the condition variable. -/
def MainPc.accesses : MainPc → List (Access Object)
  | .mutexInit => [⟨.mutex, .write⟩]
  | .condInit => [⟨.cond, .write⟩]
  | .connect => [⟨.result, .write⟩]
  | .callocReceivingThreadRoutineArg => [⟨.receivingThreadRoutineArg, .write⟩]
  | .callocSendingThreadRoutineArg => [⟨.sendingThreadRoutineArg, .write⟩]
  | .lock | .woken => [⟨.mutex, .sync⟩]
  | .test | .copy => [⟨.result, .read⟩]
  | .wait => [⟨.mutex, .sync⟩, ⟨.cond, .sync⟩]
  | .asleep => [⟨.cond, .sync⟩]
  | .exit (op :: _) _ => op.accesses
  | .socket | .calloc | .createReceivingThread | .createSendingThread => []
  | .exit [] _ | .closeSocket _ | .returned _ | .unreachable => []

def State.accesses (s : State) : Thread → List (Access Object)
  | .main => s.main.accesses
  | .receiving => s.receivingThread.accesses
  | .sending => s.sendingThread.accesses

/-- The step of a thread changes what it is about to access, and no more. -/
structure Accessed (s : State) (a : Action) (s' : State) : Prop where
  mutex : s'.threadsResultDest.mutex = s.threadsResultDest.mutex ∨
    ∃ t, a.thread = some t ∧ ⟨.mutex, .sync⟩ ∈ s.accesses t
  result : s'.threadsResultDest.result = s.threadsResultDest.result ∨
    ∃ t, a.thread = some t ∧ ⟨.result, .write⟩ ∈ s.accesses t

section
attribute [local simp] State.accesses MainPc.accesses ReceivingThreadPc.accesses
  SendingThreadPc.accesses PostPc.accesses ExitOp.accesses

theorem post_accessed {result : ThreadsResult} {replaces : ThreadsResult → Bool}
    {dest : ThreadsResultDest} {p : PostPc} {a : PostAction} {next : PostPc × ThreadsResultDest}
    (taken : post t result replaces dest p a = some next) :
    (next.2.mutex = dest.mutex ∨ ⟨.mutex, .sync⟩ ∈ p.accesses) ∧
      (next.2.result = dest.result ∨ ⟨.result, .write⟩ ∈ p.accesses) := by
  cases a <;> simp only [post, require_eq_some] at taken <;> obtain ⟨guard, rfl⟩ := taken <;>
    simp [guard]

theorem act_accessed {a : Action} (taken : act s a = some s') : Accessed s a s' := by
  cases a with
  | main a =>
      cases a <;> simp only [act, usockitClient, require_eq_some, Option.ite_none_right_eq_some,
        Option.map_eq_some_iff] at taken
      case exit op rest copied =>
        obtain ⟨here, next, exited, rfl⟩ := taken
        cases op <;> simp only [exitOp, Option.some.injEq, require_eq_some] at exited
        case unlock =>
          subst exited
          exact ⟨.inr ⟨.main, rfl, by simp [here]⟩, .inl rfl⟩
        case join =>
          obtain ⟨-, rfl⟩ := exited
          exact ⟨.inl rfl, .inl rfl⟩
        all_goals
          subst exited
          exact ⟨.inl rfl, .inl rfl⟩
      case lock | wait | relock =>
        obtain ⟨guard, rfl⟩ := taken
        exact ⟨.inr ⟨.main, rfl, by simp [guard]⟩, .inl rfl⟩
      all_goals
        obtain ⟨-, rfl⟩ := taken
        exact ⟨.inl rfl, .inl rfl⟩
  | receivingThread a =>
      cases a <;> simp only [act, receivingThreadRoutine, require_eq_some,
        Option.ite_none_right_eq_some, Option.map_eq_some_iff] at taken
      case post r p a =>
        obtain ⟨here, next, posted, rfl⟩ := taken
        obtain ⟨mutex, result⟩ := post_accessed posted
        exact ⟨mutex.imp_right fun own => ⟨.receiving, rfl, by simpa [here] using own⟩,
          result.imp_right fun own => ⟨.receiving, rfl, by simpa [here] using own⟩⟩
      all_goals
        obtain ⟨-, rfl⟩ := taken
        exact ⟨.inl rfl, .inl rfl⟩
  | sendingThread a =>
      cases a <;> simp only [act, sendingThreadRoutine, require_eq_some,
        Option.ite_none_right_eq_some, Option.map_eq_some_iff] at taken
      case dispatchResult r p a =>
        obtain ⟨here, next, posted, rfl⟩ := taken
        obtain ⟨mutex, result⟩ := post_accessed posted
        exact ⟨mutex.imp_right fun own => ⟨.sending, rfl, by simpa [here] using own⟩,
          result.imp_right fun own => ⟨.sending, rfl, by simpa [here] using own⟩⟩
      case writeFailed w errno =>
        obtain ⟨-, rfl⟩ := taken
        unfold State.writeFailed
        split <;> exact ⟨.inl rfl, .inl rfl⟩
      all_goals
        obtain ⟨-, rfl⟩ := taken
        exact ⟨.inl rfl, .inl rfl⟩
  | server a =>
      obtain ⟨socket, -, rfl⟩ := Option.map_eq_some_iff.mp taken
      exact ⟨.inl rfl, .inl rfl⟩

end

/-! ## The argument block that main frees -/

/-- usockit_client_receiving_thread_create frees the block of a thread that it could not create. -/
def ArgUnused (s : State) : Prop :=
  ∀ ops copied, s.main = .exit ops copied → .freeReceivingThreadRoutineArg ∈ ops →
    s.receivingThread = .notCreated

theorem ArgUnused.usockitClient {a : MainAction} (unused : ArgUnused s) (life : Lifecycle s)
    (taken : usockitClient s a = some s') : ArgUnused s' := by
  intro ops copied there member
  cases a <;> simp only [Client.usockitClient, require_eq_some, Option.ite_none_right_eq_some,
    Option.map_eq_some_iff] at taken
  case exit op rest copied' =>
    obtain ⟨here, next, exited, rfl⟩ := taken
    obtain ⟨rfl, rfl⟩ := by simpa using there
    have before := unused _ _ here (List.mem_cons_of_mem _ member)
    rw [← before]
    exact (exitOp_frame exited).1
  case createReceivingThreadFailed =>
    obtain ⟨here, rfl⟩ := taken
    exact life.receivingNotCreated (by simp [here, MainPc.createsReceivingThread])
  case ret copied' =>
    obtain ⟨-, rfl⟩ := taken
    exact absurd there MainPc.afterExit_ne_exit
  all_goals
    obtain ⟨-, rfl⟩ := taken
    replace there := there.symm
    simp_all [releaseOps, endReceivingThreadOps, endThreadsOps]

theorem ArgUnused.frame (unused : ArgUnused s)
    (main : s'.main = s.main ∨ s'.main = s.main.signalled)
    (fresh : s.receivingThread = .notCreated → s'.receivingThread = .notCreated) :
    ArgUnused s' :=
  fun ops copied there member => fresh (unused ops copied (exit_of_signalled main there) member)

theorem ArgUnused.act {a : Action} (unused : ArgUnused s) (life : Lifecycle s)
    (taken : act s a = some s') : ArgUnused s' := by
  cases a with
  | main a => exact unused.usockitClient life taken
  | receivingThread a =>
      have created := (receivingThreadRoutine_cases taken).1
      exact unused.frame (receivingThreadRoutine_main taken) fun fresh => absurd fresh created
  | sendingThread a =>
      have same := (sendingThreadRoutine_cases taken).2.1
      exact unused.frame (sendingThreadRoutine_main taken) fun fresh => same.trans fresh
  | server a =>
      obtain ⟨socket, -, rfl⟩ := Option.map_eq_some_iff.mp taken
      exact unused

theorem ArgUnused.run {ok : State → Action → Prop} (run : system.RunWhere ok actions s) :
    ArgUnused s := by
  refine run.stateInvariant ?_ ?_
  · rintro _ ⟨stdin, rfl⟩ ops copied here
    simp [State.start] at here
  · exact fun _ _ _ _ run unused _ step =>
      unused.act (Invariants.run run).life (system_step.mp step).2

/-! ## The permissions -/

/-- Only main is left. -/
def State.Alone (s : State) : Prop := ¬ s.Alive .receiving ∧ ¬ s.Alive .sending

open Classical in
/-- main owns everything while it is alone, and else the result with the mutex in its hands. -/
noncomputable def State.permission (s : State) : Object → Permission Thread
  | .receivingThreadRoutineArg => .owned (if s.Alive .receiving then .receiving else .main)
  | .sendingThreadRoutineArg => .owned (if s.Alive .sending then .sending else .main)
  | .mutex | .cond => if s.Alone then .owned .main else .synchronized
  | .result => if s.Alone then .owned .main else .guarded s.threadsResultDest.mutex

theorem alone_of_creates (life : Lifecycle s) (creates : s.main.createsReceivingThread = true) :
    s.Alone := by
  have receiving := life.receivingNotCreated creates
  have sending := life.sendingNotCreated (by
    cases here : s.main <;> simp_all [MainPc.createsReceivingThread, MainPc.createsSendingThread])
  constructor <;> simp [State.Alive, State.NotCreated, receiving, sending]

section
attribute [local simp] MainPc.accesses ReceivingThreadPc.accesses SendingThreadPc.accesses
  PostPc.accesses ExitOp.accesses State.permission

theorem main_permitted (run : system.Run actions s) :
    ∀ a ∈ s.main.accesses, (s.permission a.object).Allows .main a.kind := by
  have inv := Invariants.run run
  have exits := Exits.run run
  have mutex : s.main.holds = true → s.threadsResultDest.mutex = some .main := inv.owned.main.mpr
  cases here : s.main with
  | mutexInit | condInit | connect | callocReceivingThreadRoutineArg =>
      have alone := alone_of_creates inv.life (by simp [here, MainPc.createsReceivingThread])
      have receiving := alone.1
      simp [alone, receiving]
  | callocSendingThreadRoutineArg =>
      have fresh := inv.life.sendingNotCreated (by simp [here, MainPc.createsSendingThread])
      simp [State.Alive, State.NotCreated, fresh]
  | lock | woken | wait | asleep => by_cases alone : s.Alone <;> simp [alone]
  | test | copy =>
      have held := mutex (by simp [here])
      by_cases alone : s.Alone <;> simp [alone, held]
  | exit ops copied =>
      cases ops with
      | nil => simp
      | cons op rest =>
          cases op with
          | freeReceivingThreadRoutineArg =>
              have fresh := (ArgUnused.run run) _ _ here (by simp)
              simp [State.Alive, State.NotCreated, fresh]
          | freeSendingThreadRoutineArg =>
              have fresh : s.sendingThread = .notCreated := by
                cases copied with
                | none =>
                    exact inv.life.sendingNotCreated (by simp [here, MainPc.createsSendingThread])
                | some r =>
                    have listed := (inv.life.exit _ _ here).subset (List.mem_cons_self ..)
                    simp [endThreadsOps, releaseOps] at listed
              simp [State.Alive, State.NotCreated, fresh]
          | unlock => by_cases alone : s.Alone <;> simp [alone]
          | destroyCond | destroyMutex | freeThreadsResultDest =>
              have alone : s.Alone := ⟨exits.dead here (by simp [releaseOps]) (by simp),
                exits.dead here (by simp [releaseOps]) (by simp)⟩
              simp [alone]
          | cancel t | join t => simp
  | _ => simp

theorem receivingThread_permitted (run : system.Run actions s) :
    ∀ a ∈ s.receivingThread.accesses, (s.permission a.object).Allows .receiving a.kind := by
  have owned := (Invariants.run run).owned
  by_cases alive : s.Alive .receiving
  · have accompanied : ¬ s.Alone := fun alone => alone.1 alive
    cases here : s.receivingThread with
    | post r p =>
        have held : p.holds = true → s.threadsResultDest.mutex = some .receiving :=
          fun holds => owned.receiving.mpr (by simpa [here] using holds)
        cases p <;> simp_all
    | _ => simp [alive]
  · have gone : s.receivingThread = .notCreated ∨ s.receivingThread = .ended := by
      simpa [State.Alive, State.NotCreated, State.Terminated, imp_iff_not_or] using alive
    rcases gone with gone | gone <;> simp [gone]

theorem sendingThread_permitted (run : system.Run actions s) :
    ∀ a ∈ s.sendingThread.accesses, (s.permission a.object).Allows .sending a.kind := by
  have owned := (Invariants.run run).owned
  by_cases alive : s.Alive .sending
  · have accompanied : ¬ s.Alone := fun alone => alone.2 alive
    cases here : s.sendingThread with
    | dispatchResult r p =>
        have held : p.holds = true → s.threadsResultDest.mutex = some .sending :=
          fun holds => owned.sending.mpr (by simpa [here] using holds)
        cases p <;> simp_all
    | _ => simp [alive]
  · have gone : s.sendingThread = .notCreated ∨ s.sendingThread = .ended := by
      simpa [State.Alive, State.NotCreated, State.Terminated, imp_iff_not_or] using alive
    rcases gone with gone | gone <;> simp [gone]

end

structure RaceFree (s : State) : Prop where
  accessed : ∀ a s', system.step s a = some s' → Accessed s a s'
  races : ¬ Races s.accesses

theorem client_race_free (run : system.Run actions s) : RaceFree s := by
  refine ⟨fun a s' step => act_accessed (system_step.mp step).2, not_races s.permission ?_⟩
  intro t
  cases t with
  | main => exact main_permitted run
  | receiving => exact receivingThread_permitted run
  | sending => exact sendingThread_permitted run

/-- The sending thread is about to store its result when the receiving thread comes with its own. -/
def resultsMeet : List Action :=
  startUp ++
    [.sendingThread .readEof, .sendingThread (.dispatchResult ⟨0, .read⟩ .lock .lock),
     .sendingThread (.dispatchResult ⟨0, .read⟩ .test .testStore),
     .server (.send fuckOffString), .receivingThread (.received fuckOffString)]

theorem client_race_free_resultsMeet :
    ∃ s, system.exec (.start []) resultsMeet = some s ∧
      s.receivingThread = .post ⟨.fuckOff, 0⟩ .lock ∧
      s.sendingThread = .dispatchResult ⟨0, .read⟩ .store ∧ ¬ Races s.accesses := by
  obtain ⟨s, path, receiving, sending⟩ :
      ∃ s, system.exec (.start []) resultsMeet = some s ∧
        s.receivingThread = .post ⟨.fuckOff, 0⟩ .lock ∧
        s.sendingThread = .dispatchResult ⟨0, .read⟩ .store :=
    System.exists_exec (by decide +kernel)
  exact ⟨s, path, receiving, sending,
    (client_race_free (System.run_of_exec ⟨_, rfl⟩ path)).races⟩

end Usockit.Client
