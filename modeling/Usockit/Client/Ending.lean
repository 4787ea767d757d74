import Usockit.Client.Teardown
import Usockit.Client.Recognition
import Usockit.Client.Forwarding

namespace Usockit.Client
open Foundation

variable {s s' : State} {actions : List Action} {a : Action}

/-! ## Nobody is left when the socket is closed -/

def MainPc.leaving : MainPc → Bool
  | .closeSocket _ | .returned _ => true
  | _ => false

@[simp] theorem MainPc.leaving_signalled (pc : MainPc) : pc.signalled.leaving = pc.leaving := by
  cases pc <;> rfl

theorem alive_of_sendingThread {b : SendingThreadAction}
    (taken : sendingThreadRoutine s b = some s') : s.Alive .sending :=
  ⟨(sendingThreadRoutine_cases taken).1, sendingThreadRoutine_unended taken⟩

theorem alive_of_receivingThread {b : ReceivingThreadAction}
    (taken : receivingThreadRoutine s b = some s') : s.Alive .receiving :=
  ⟨(receivingThreadRoutine_cases taken).1, receivingThreadRoutine_unended taken⟩

theorem gone_of_usockitClient {b : MainAction} (exits : Exits s) (life : Lifecycle s)
    (before : s.main.leaving = true → ∀ t ≠ .main, ¬ s.Alive t)
    (taken : usockitClient s b = some s') (leaving : s'.main.leaving = true) :
    ∀ t ≠ .main, ¬ s'.Alive t := by
  cases b <;> simp only [usockitClient, require_eq_some, Option.ite_none_right_eq_some,
    Option.map_eq_some_iff] at taken
  case exit op rest copied =>
    obtain ⟨-, t, -, rfl⟩ := taken
    simp [MainPc.leaving] at leaving
  case ret copied =>
    obtain ⟨here, rfl⟩ := taken
    intro t other
    exact exits.ended [] copied here t other (by simp)
  case closeSocket ret =>
    obtain ⟨here, rfl⟩ := taken
    exact before (by simp [here, MainPc.leaving])
  case socketFailed =>
    obtain ⟨here, rfl⟩ := taken
    intro t other alive
    have receiving := life.receivingNotCreated (by simp [here, MainPc.createsReceivingThread])
    have sending := life.sendingNotCreated (by simp [here, MainPc.createsSendingThread])
    cases t with
    | main => exact other rfl
    | receiving => exact alive.1 receiving
    | sending => exact alive.1 sending
  all_goals
    obtain ⟨-, rfl⟩ := taken
    simp [MainPc.leaving] at leaving

theorem gone_of_leaving {ok : State → Action → Prop} (run : system.RunWhere ok actions s) :
    s.main.leaving = true → ∀ t ≠ .main, ¬ s.Alive t := by
  refine run.stateInvariant
    (I := fun s => s.main.leaving = true → ∀ t ≠ .main, ¬ s.Alive t) ?_ ?_
  · rintro _ ⟨stdin, rfl⟩
    simp [State.start, MainPc.leaving]
  · intro _ s a s' run before _ step leaving
    have taken := (system_step.mp step).2
    cases a with
    | main b =>
        exact gone_of_usockitClient (.run run) (Invariants.run run).life before taken leaving
    | sendingThread b =>
        have main := sendingThreadRoutine_main taken
        have was : s.main.leaving = true := by
          rcases main with same | same <;> simpa [same] using leaving
        exact absurd (alive_of_sendingThread taken) (before was .sending (by simp))
    | receivingThread b =>
        have main := receivingThreadRoutine_main taken
        have was : s.main.leaving = true := by
          rcases main with same | same <;> simpa [same] using leaving
        exact absurd (alive_of_receivingThread taken) (before was .receiving (by simp))
    | server b =>
        simp only [act, Option.map_eq_some_iff] at taken
        obtain ⟨socket, -, rfl⟩ := taken
        intro t other
        cases t with
        | main => exact absurd rfl other
        | receiving => exact before leaving .receiving other
        | sending => exact before leaving .sending other

/-! ## What main has learned when it returns -/

theorem sent_of_successEof (run : system.Run actions s)
    (returned : s.main = .returned .successEof) : s.socket.toServer = s.stdin.bytes := by
  obtain ⟨⟨⟩⟩ | ⟨r, member, status⟩ := (Law.run run).ending _ (.inr returned)
  obtain ⟨sending, zero, posting⟩ := posting_of_successEof member status
  have forwarding := Forwarding.run run
  exact forwarding.eof ((forwarding.posted sending posting).eof.mp zero)

/-- The receiving thread posts the rejection only when it has read it. -/
theorem readsRejection_of_post (run : system.Run actions s) :
    ∀ readErrno p b, .receivingThread (.post ⟨.fuckOff, readErrno⟩ p b) ∈ actions →
      fuckOffString ∈ readResults actions := by
  induction run with
  | start => simp
  | @snoc actions s a s' run _ step ih =>
      intro readErrno p b posted
      rw [readResults_snoc]
      refine List.mem_append_left _ ?_
      rcases List.mem_append.mp posted with before | now
      · exact ih readErrno p b before
      · obtain rfl := List.mem_singleton.mp now
        have taken := (system_step.mp step).2
        simp only [act, receivingThreadRoutine, Option.ite_none_right_eq_some] at taken
        obtain ⟨earlier, reads, -⟩ := (ReadLoop.run run).fuckOff readErrno p taken.1
        simp [reads]

theorem readsRejection_of_successFuckOff (run : system.Run actions s)
    (returned : s.main = .returned .successFuckOff) : fuckOffString ∈ readResults actions := by
  obtain ⟨⟨⟩⟩ | ⟨r, member, status⟩ := (Law.run run).ending _ (.inr returned)
  obtain ⟨a, here, posts⟩ := List.mem_filterMap.mp member
  rcases posted_of_mem_posts member with ⟨sending, rfl⟩ | ⟨⟨type, readErrno⟩, rfl⟩
  · exact absurd status (ThreadsResult.retStatus_sending rfl)
  · cases type with
    | readFailure => cases status
    | fuckOff =>
        unfold Action.posts at posts
        split at posts <;> cases posts <;> exact readsRejection_of_post run _ _ _ here

theorem received_of_reads (run : system.Run actions s)
    (read : fuckOffString ∈ readResults actions) : s.socket.fromServer.bytes ≠ [] := by
  intro nothing
  have stream := (ReadStream.run run).bytes
  rw [nothing, List.append_eq_nil_iff, List.flatten_eq_nil_iff] at stream
  exact absurd (stream.1 _ read) (by decide)

/-- What the client takes for a rejection has come from the server. -/
theorem received_of_successFuckOff (run : system.Run actions s)
    (returned : s.main = .returned .successFuckOff) : s.socket.fromServer.bytes ≠ [] :=
  received_of_reads run (readsRejection_of_successFuckOff run returned)

end Usockit.Client
