import Usockit.Client.Progress
import Usockit.Client.RejectionReport
import Usockit.Client.Survival

namespace Usockit.Client
open Foundation

variable {s s' : State} {actions : List Action}

/-! ## A rank that falls until main returns -/

def MainPc.stepsToReturn (unset : Bool) : MainPc → Nat
  | .callocSendingThreadRoutineArg => 32
  | .createSendingThread => 31
  | .lock => 30
  | .test => if unset then 29 else 22
  | .wait => 28
  | .asleep => 27
  | .woken => 26
  | .copy => 21
  | .exit ops _ => ops.length + 3
  | .closeSocket _ => 2
  | _ => 0

def State.unset (s : State) : Bool := s.threadsResultDest.result.origin = .none

def State.rank (s : State) : Nat :=
  s.receivingThread.stepsToEnd + 20 * s.main.stepsToReturn s.unset + s.sendingThread.stepsToEnd

theorem MainPc.stepsToReturn_le {pc pc' : MainPc} {unset unset' : Bool}
    (main : pc' = pc ∨ pc' = pc.signalled) (later : unset' = true → unset = true) :
    pc'.stepsToReturn unset' ≤ pc.stepsToReturn unset := by
  rcases main with main | main <;> rw [main] <;> cases pc <;> cases unset <;> cases unset' <;>
    simp_all [signalled, stepsToReturn]

theorem receivingThreadRoutine_rank {a : ReceivingThreadAction}
    (taken : receivingThreadRoutine s a = some s')
    (closer : s'.receivingThread.stepsToEnd < s.receivingThread.stepsToEnd) : s'.rank < s.rank := by
  have main : s'.main.stepsToReturn s'.unset ≤ s.main.stepsToReturn s.unset := by
    obtain ⟨-, -, ⟨aside, -⟩ | ⟨r, p, b, next, -, here, posted, rfl⟩ | ⟨r, -, -, rfl⟩⟩ :=
      receivingThreadRoutine_cases taken
    · exact MainPc.stepsToReturn_le (.inl aside.main) (by simp [State.unset, aside.threadsResultDest])
    · refine MainPc.stepsToReturn_le (.inl rfl) ?_
      cases b <;> simp only [post, require_eq_some] at posted <;> obtain ⟨-, rfl⟩ := posted <;>
        simp [State.unset, ReceivingThreadResult.toThreadsResult]
    · exact MainPc.stepsToReturn_le (.inr rfl) id
  have same := (receivingThreadRoutine_cases taken).2.1
  simp only [State.rank, same]
  omega

theorem sendingThreadRoutine_rank {a : SendingThreadAction}
    (taken : sendingThreadRoutine s a = some s')
    (closer : s'.sendingThread.stepsToEnd < s.sendingThread.stepsToEnd) : s'.rank < s.rank := by
  have main : s'.main.stepsToReturn s'.unset ≤ s.main.stepsToReturn s.unset := by
    obtain ⟨-, -, ⟨aside, -⟩ | ⟨r, p, b, next, -, here, posted, rfl⟩ | ⟨r, -, -, rfl⟩⟩ :=
      sendingThreadRoutine_cases taken
    · exact MainPc.stepsToReturn_le (.inl aside.main) (by simp [State.unset, aside.threadsResultDest])
    · refine MainPc.stepsToReturn_le (.inl rfl) ?_
      cases b <;> simp only [threadsDispatchResult, post, require_eq_some] at posted <;>
        obtain ⟨-, rfl⟩ := posted <;> simp [State.unset, SendingThreadResult.toThreadsResult]
    · exact MainPc.stepsToReturn_le (.inr rfl) id
  have same := (sendingThreadRoutine_cases taken).2.1
  simp only [State.rank, same]
  omega

/-! ## Progress after the rejection has been read -/

/-- A step towards the return of main that meets the condition and needs no spurious wake-up. -/
def State.Advances (s : State) : Prop :=
  ∃ a s', a ≠ .main .wake ∧ RejectionPostedFirst s a ∧ act s a = some s' ∧ s'.rank < s.rank

theorem advances_receiving {a : ReceivingThreadAction} (taken : receivingThreadRoutine s a = some s')
    (closer : s'.receivingThread.stepsToEnd < s.receivingThread.stepsToEnd) : s.Advances :=
  ⟨.receivingThread a, s', nofun, trivial, taken, receivingThreadRoutine_rank taken closer⟩

theorem advances_sending {a : SendingThreadAction} (taken : sendingThreadRoutine s a = some s')
    (closer : s'.sendingThread.stepsToEnd < s.sendingThread.stepsToEnd)
    (meets : RejectionPostedFirst s (.sendingThread a)) : s.Advances :=
  ⟨.sendingThread a, s', nofun, meets, taken, sendingThreadRoutine_rank taken closer⟩

theorem advances_posting {r : SendingThreadResult} {p : PostPc}
    (here : s.sendingThread = .dispatchResult r p) (past : p ≠ .lock) : s.Advances := by
  obtain ⟨a, s', taken, closer, lock⟩ := sendingThread_posts here fun locks => absurd locks past
  refine advances_sending taken closer ?_
  cases a with
  | dispatchResult r q b =>
      cases b with
      | lock => exact absurd (lock r q rfl) past
      | _ => trivial
  | _ => trivial

theorem advances_of_sending_holds (holds : s.sendingThread.holds = true) : s.Advances := by
  cases here : s.sendingThread with
  | dispatchResult r p =>
      refine advances_posting here ?_
      rintro rfl
      simp [here] at holds
  | _ => simp [here] at holds

theorem advances_main (a : MainAction) (s' : State) (wake : a ≠ .wake)
    (meets : RejectionPostedFirst s (.main a)) (taken : usockitClient s a = some s')
    (receiving : s'.receivingThread = s.receivingThread)
    (closer : 20 * s'.main.stepsToReturn s'.unset + s'.sendingThread.stepsToEnd <
      20 * s.main.stepsToReturn s.unset + s.sendingThread.stepsToEnd) : s.Advances := by
  refine ⟨.main a, s', by simpa using wake, meets, taken, ?_⟩
  simp only [State.rank, receiving]
  omega

theorem advances_unended {r : ReceivingThreadResult} {p : PostPc} (orderly : Orderly s)
    (inv : Invariants s) (here : s.receivingThread = .post r p) : s.Advances := by
  by_cases free : p = .lock → s.threadsResultDest.mutex = none
  · obtain ⟨a, s', taken, closer⟩ := receivingThread_posts here free
    exact advances_receiving taken closer
  · obtain ⟨rfl, owned⟩ := Classical.not_imp.mp free
    obtain ⟨owner, mutex⟩ := Option.ne_none_iff_exists'.mp owned
    have unposted : s.receivingThread.passed ≠ true := by simp [here]
    cases owner with
    | sending => exact advances_of_sending_holds (inv.owned.sending.mp mutex)
    | receiving => simpa [here] using inv.owned.receiving.mp mutex
    | main =>
        have holds := inv.owned.main.mp mutex
        cases main : s.main with
        | test =>
            have unset : s.threadsResultDest.result.origin = .none := by
              by_contra set
              exact unposted (orderly.leaves (.inl main) set)
            refine advances_main .originNone { s with main := .wait } (by simp) trivial
              (by simp [usockitClient, main, unset]) rfl ?_
            simp [main, State.unset, unset, MainPc.stepsToReturn]
        | wait =>
            refine advances_main .wait { s with
              main := .asleep
              threadsResultDest := { s.threadsResultDest with mutex := none } } (by simp) trivial
              (by simp [usockitClient, main]) rfl ?_
            simp [main, MainPc.stepsToReturn]
        | copy => exact absurd (orderly.leaves (.inr main) (inv.slot.copy main)) unposted
        | exit ops copied =>
            cases copied with
            | none => simp [main, inv.life.failed ops main] at holds
            | some r => exact absurd (orderly.copied ops r main).1 unposted
        | _ => simp [main] at holds

theorem mutex_free_or_advances (inv : Invariants s) (ended : s.receivingThread = .ended)
    (main : s.main.holds = false) : s.threadsResultDest.mutex = none ∨ s.Advances := by
  cases mutex : s.threadsResultDest.mutex with
  | none => exact .inl rfl
  | some owner =>
      cases owner with
      | main => simp [inv.owned.main.mp mutex] at main
      | receiving => simpa [ended] using inv.owned.receiving.mp mutex
      | sending => exact .inr (advances_of_sending_holds (inv.owned.sending.mp mutex))

theorem exitOp_enabled {op : ExitOp} (joined : ∀ t, op = .join t → s.Terminated t) :
    ∃ s', exitOp s op = some s' := by
  cases op <;> simp_all [exitOp, require]

theorem advances_exit {op : ExitOp} {rest : List ExitOp} {copied : Option ThreadsResult}
    (here : s.main = .exit (op :: rest) copied)
    (joined : ∀ t, op = .join t → s.Terminated t) : s.Advances := by
  obtain ⟨next, exited⟩ := exitOp_enabled joined
  obtain ⟨receiving, sending, -⟩ := exitOp_frame exited
  refine advances_main (.exit op rest copied) { next with main := .exit rest copied } nofun trivial
    (by simp [usockitClient, here, exited]) receiving ?_
  simp [here, MainPc.stepsToReturn, sending]

theorem unlocked_of_join {t : Thread} {rest : List ExitOp} {r : ThreadsResult}
    (life : Lifecycle s) (here : s.main = .exit (.join t :: rest) (some r)) :
    t ≠ .main ∧ s.main.holds = false ∧ .cancel t ∉ rest := by
  have suffix := life.exit _ _ here
  simp only [endThreadsOps, releaseOps, List.cons_append, List.nil_append,
    List.suffix_cons_iff, List.cons.injEq, reduceCtorEq, false_and, false_or,
    List.suffix_nil, or_false] at suffix
  rcases suffix with ⟨same, rfl⟩ | ⟨same, rfl⟩ <;> cases same <;> simp [here]

theorem advances_join {rest : List ExitOp} {r : ThreadsResult} (inv : Invariants s)
    (created : Created s) (here : s.main = .exit (.join .sending :: rest) (some r))
    (ended : s.receivingThread = .ended) (set : s.threadsResultDest.result.origin ≠ .none) :
    s.Advances := by
  by_cases terminated : s.sendingThread = .ended
  · refine advances_exit here ?_
    rintro t ⟨⟩
    exact terminated
  · obtain ⟨-, unlocked, uncancelled⟩ := unlocked_of_join inv.life here
    have requested := inv.life.requested _ _ here .sending nofun (by simpa using uncancelled)
    rcases mutex_free_or_advances inv ended unlocked with free | advances
    · obtain ⟨a, s', taken, closer⟩ := sendingThread_advances requested (.inl free)
        (created.sending (by simp [here, MainPc.sendingThreadCreated])) terminated
      refine advances_sending taken closer ?_
      cases a with
      | dispatchResult r q b => cases b <;> first | trivial | exact fun unset => absurd unset set
      | _ => trivial
    · exact advances

theorem advances_ended (orderly : Orderly s) (inv : Invariants s) (created : Created s)
    (ended : s.receivingThread = .ended) (set : s.threadsResultDest.result.origin ≠ .none)
    (returned : ∀ ret, s.main ≠ .returned ret) : s.Advances := by
  have later : s.main.createsReceivingThread = false := by
    rw [← Bool.not_eq_true]
    intro creates
    simp [inv.life.receivingNotCreated creates] at ended
  cases here : s.main with
  | callocSendingThreadRoutineArg =>
      refine advances_main .callocSendingThreadRoutineArg { s with main := .createSendingThread }
        (by simp) trivial (by simp [usockitClient, here]) rfl ?_
      simp [here, MainPc.stepsToReturn]
  | createSendingThread =>
      refine advances_main .createSendingThread
        { s with main := .lock, sendingThread := .freeArg }
        (by simp) trivial (by simp [usockitClient, here]) rfl ?_
      simp only [here, MainPc.stepsToReturn, SendingThreadPc.stepsToEnd.eq_1]
      omega
  | lock =>
      rcases mutex_free_or_advances inv ended (by simp [here]) with free | advances
      · refine advances_main .lock { s with
          main := .test
          threadsResultDest := { s.threadsResultDest with mutex := some .main } }
          (by simp) (.inr (by simp [ended])) (by simp [usockitClient, here, free]) rfl ?_
        simp [here, State.unset, set, MainPc.stepsToReturn]
      · exact advances
  | woken =>
      rcases mutex_free_or_advances inv ended (by simp [here]) with free | advances
      · refine advances_main .relock { s with
          main := .test
          threadsResultDest := { s.threadsResultDest with mutex := some .main } }
          (by simp) (.inr (by simp [ended])) (by simp [usockitClient, here, free]) rfl ?_
        simp [here, State.unset, set, MainPc.stepsToReturn]
      · exact advances
  | test =>
      refine advances_main .originSet { s with main := .copy } (by simp) trivial
        (by simp [usockitClient, here, set]) rfl ?_
      simp [here, State.unset, set, MainPc.stepsToReturn]
  | wait => exact absurd (inv.slot.wait here) set
  | asleep =>
      have pending := inv.slot.pending here set
      cases sending : s.sendingThread with
      | dispatchResult r p =>
          refine advances_posting sending ?_
          rintro rfl
          simp [ended, sending] at pending
      | _ => simp [ended, sending] at pending
  | copy =>
      refine advances_main .copy
        { s with main := .exit (endThreadsOps ++ releaseOps) (some s.threadsResultDest.result) }
        (by simp) trivial (by simp [usockitClient, here]) rfl ?_
      simp [here, endThreadsOps, releaseOps, MainPc.stepsToReturn]
  | exit ops copied =>
      cases copied with
      | none => simp [orderly.failed ops here] at ended
      | some r =>
          cases ops with
          | nil =>
              obtain ⟨ret, after⟩ := MainPc.afterExit_posted
                fun r' same => inv.slot.copied [] r' (same ▸ here)
              refine advances_main (.ret (some r)) { s with main := .afterExit (some r) }
                (by simp) trivial (by simp [usockitClient, here]) rfl ?_
              simp [here, after, MainPc.stepsToReturn]
          | cons op rest =>
              by_cases joins : op = .join .sending
              · exact advances_join inv created (joins ▸ here) ended set
              · refine advances_exit here ?_
                rintro t rfl
                cases t with
                | main => exact absurd rfl (unlocked_of_join inv.life here).1
                | receiving => exact ended
                | sending => exact absurd rfl joins
  | closeSocket ret =>
      refine advances_main (.closeSocket ret) { s with main := .returned ret } (by simp) trivial
        (by simp [usockitClient, here]) rfl ?_
      simp [here, MainPc.stepsToReturn]
  | returned ret => exact absurd here (returned ret)
  | unreachable => exact absurd here inv.slot.reachable
  | _ => simp [here, MainPc.createsReceivingThread] at later

/-! ## The status of a rejected client -/

theorem rejected_advances (run : system.RunWhere RejectionPostedFirst actions s)
    (read : readsRejection ∈ actions) (unreturned : ¬ ∃ ret, s.main = .returned ret) :
    s.Advances := by
  have inv := Invariants.run run
  rcases rejected_of_read run read with ⟨p, here, -⟩ | ⟨ended, stored⟩
  · exact advances_unended (Orderly.run run) inv here
  · exact advances_ended (Orderly.run run) inv (Created.run run) ended (by rw [stored]; nofun)
      fun ret returned => unreturned ⟨ret, returned⟩

theorem rejected_returns (run : system.RunWhere RejectionPostedFirst actions s)
    (read : readsRejection ∈ actions) :
    ∃ more t, system.exec s more = some t ∧ .main .wake ∉ more ∧
      t.main = .returned .successFuckOff := by
  have reached := System.exists_exec_of_rank (M := system) (p := (· ≠ .main .wake))
    (I := fun actions s => system.RunWhere RejectionPostedFirst actions s ∧
      readsRejection ∈ actions) (g := fun s => ∃ ret, s.main = .returned ret) State.rank ?_
    ⟨run, read⟩
  · obtain ⟨more, t, path, awake, ⟨run, read⟩, ret, returned⟩ := reached
    refine ⟨more, t, path, fun wakes => awake _ wakes rfl, ?_⟩
    rw [returned, (rejection_returned_iff run.run read returned).mpr run]
  · rintro actions s ⟨run, read⟩ unreturned
    obtain ⟨a, s', wake, meets, taken, closer⟩ := rejected_advances run read unreturned
    have step := system_step.mpr
      ⟨running_of_not_abort run (rejected_of_read run read).not_abort, taken⟩
    exact ⟨a, s', wake, step, ⟨.snoc run meets step, List.mem_append_left _ read⟩, closer⟩

theorem rejection_reported (run : system.Run actions s) (read : readsRejection ∈ actions) :
    (∀ ret, s.main = .returned ret →
      (ret = .successFuckOff ↔ system.RunWhere RejectionPostedFirst actions s)) ∧
    (system.RunWhere RejectionPostedFirst actions s →
      ∃ more t, system.exec s more = some t ∧ .main .wake ∉ more ∧
        t.main = .returned .successFuckOff) :=
  ⟨fun _ => rejection_returned_iff run read, fun orderly => rejected_returns orderly read⟩

def rejects : List Action := [.server (.send fuckOffString), .server .close]

/-- The receiving thread reads the rejection and finds the slot as `b` says. -/
def postRejection (b : PostAction) : List Action :=
  [readsRejection, .receivingThread (.post fuckOffResult .lock .lock),
   .receivingThread (.post fuckOffResult .test b)]

/-- The sending thread gets EPIPE, and the receiving thread replaces it before main wakes up. -/
def replacedInTime : List Action :=
  startUp ++ [.sendingThread (.received [104, 105])] ++ rejects ++
    [.sendingThread (.writeFailed (.call 3 [104, 105]) epipe)] ++ dispatch epipeResult ++
    postRejection .testStore ++
    [.receivingThread (.post fuckOffResult .store .store),
     .receivingThread (.post fuckOffResult .unlock .unlock), .receivingThread (.signal fuckOffResult),
     .main .relock, .main .originSet, .main .copy] ++
    exitThrough (some fuckOffResult.toThreadsResult) (endThreadsOps ++ releaseOps) ++
    [.main (.closeSocket .successFuckOff)]

theorem rejection_reported_replacedInTime :
    ∃ s, system.exec (.start [104, 105]) replacedInTime = some s ∧
      s.main = .returned .successFuckOff ∧
      system.RunWhere RejectionPostedFirst replacedInTime s := by
  obtain ⟨s, path, returned⟩ :
      ∃ s, system.exec (.start [104, 105]) replacedInTime = some s ∧
        s.main = .returned .successFuckOff :=
    System.exists_exec (by decide +kernel)
  exact ⟨s, path, returned,
    ((rejection_reported (System.run_of_exec ⟨_, rfl⟩ path) (by decide)).1 _ returned).mp rfl⟩

def emptyStdin : List Action :=
  startUp ++ [.sendingThread .readEof] ++ rejects ++ dispatch ⟨0, .read⟩ ++
    postRejection .testKeep ++
    [.receivingThread (.post fuckOffResult .unlock .unlock), .receivingThread (.signal fuckOffResult),
     .main .relock, .main .originSet, .main .copy] ++
    exitThrough (some (SendingThreadResult.toThreadsResult ⟨0, .read⟩))
      (endThreadsOps ++ releaseOps) ++
    [.main (.closeSocket .successEof)]

/-- The sending thread gets EPIPE, and main copies it before the receiving thread posts. -/
def copiedTooSoon : List Action :=
  startUp ++ [.sendingThread (.received [104, 105])] ++ rejects ++
    [.sendingThread (.writeFailed (.call 3 [104, 105]) epipe)] ++ dispatch epipeResult ++
    [readsRejection, .main .relock, .main .originSet, .main .copy] ++
    [.main (.exit (.cancel .receiving) (endThreadsOps.tail ++ releaseOps)
       (some epipeResult.toThreadsResult)),
     .main (.exit (.cancel .sending) ([.unlock, .join .receiving, .join .sending] ++ releaseOps)
       (some epipeResult.toThreadsResult)),
     .main (.exit .unlock ([.join .receiving, .join .sending] ++ releaseOps)
       (some epipeResult.toThreadsResult)),
     .receivingThread (.post fuckOffResult .lock .lock),
     .receivingThread (.post fuckOffResult .test .testStore),
     .receivingThread (.post fuckOffResult .store .store),
     .receivingThread (.post fuckOffResult .unlock .unlock),
     .receivingThread (.signal fuckOffResult)] ++
    exitThrough (some epipeResult.toThreadsResult)
      ([.join .receiving, .join .sending] ++ releaseOps) ++
    [.main (.closeSocket .unknown)]

theorem rejection_not_reported :
    (∃ s, system.Run emptyStdin s ∧ readsRejection ∈ emptyStdin ∧
      s.socket.fromServer.bytes = fuckOffString ∧ s.socket.serverClosed = true ∧
      s.main = .returned .successEof) ∧
    ∃ s, system.Run copiedTooSoon s ∧ readsRejection ∈ copiedTooSoon ∧
      s.socket.fromServer.bytes = fuckOffString ∧ s.socket.serverClosed = true ∧
      s.main = .returned .unknown := by
  constructor
  · obtain ⟨s, path, rejected⟩ :
        ∃ s, system.exec (.start []) emptyStdin = some s ∧
          s.socket.fromServer.bytes = fuckOffString ∧ s.socket.serverClosed = true ∧
          s.main = .returned .successEof :=
      System.exists_exec (by decide +kernel)
    exact ⟨s, System.run_of_exec ⟨_, rfl⟩ path, by decide, rejected⟩
  · obtain ⟨s, path, rejected⟩ :
        ∃ s, system.exec (.start [104, 105]) copiedTooSoon = some s ∧
          s.socket.fromServer.bytes = fuckOffString ∧ s.socket.serverClosed = true ∧
          s.main = .returned .unknown :=
      System.exists_exec (by decide +kernel)
    exact ⟨s, System.run_of_exec ⟨_, rfl⟩ path, by decide, rejected⟩

end Usockit.Client
