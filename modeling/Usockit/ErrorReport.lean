import Usockit.Client.ErrorReport
import Usockit.Server.ErrorReport

namespace Usockit

/-- A call whose failure is reported with perror(). -/
inductive FailingCall
  | client (call : Client.SetupCall)
  | clientThread (call : Client.ThreadCall)
  | server (call : Server.SetupCall)
  | child (func : Server.ChildErrorFunc)
  deriving DecidableEq

/-- The call fails with `e`, and errno is `seen` in the thread that calls perror() for it. -/
def FailingCall.PerrorSees (e seen : Nat) : FailingCall → Prop
  | .client call => call.PerrorSees e seen
  | .clientThread call => call.PerrorSees e seen
  | .server call => call.PerrorSees e seen
  | .child func => func.PerrorSees e seen

def FailingCall.keepsErrno : FailingCall → Bool
  | .client call => call.keepsErrno
  | .clientThread call => call.keepsErrno
  | .server _ | .child _ => true

/-- `ECONNREFUSED` as on Linux. -/
def econnrefused : Nat := 111

/-- `EINVAL` as on Linux. -/
def einval : Nat := 22

theorem not_errno_reported_connect :
    ¬ ∀ (call : FailingCall) (e seen : Nat), e ≠ 0 → call.PerrorSees e seen → seen = e := by
  intro reported
  have refused : Client.SetupCall.connect.PerrorSees econnrefused einval :=
    Client.SetupCall.perrorSees_of_lost rfl (by decide) econnrefused
  exact absurd (reported (.client .connect) econnrefused einval (by decide) refused) (by decide)

theorem errno_reported_iff (call : FailingCall) {e : Nat} (nonzero : e ≠ 0) :
    (∀ seen, call.PerrorSees e seen → seen = e) ↔ call.keepsErrno = true := by
  constructor
  · intro reported
    by_contra lost
    rw [Bool.not_eq_true] at lost
    refine nonzero (reported 0 ?_).symm
    match call with
    | .client call => exact call.perrorSees_of_lost lost (fun _ => rfl) e
    | .clientThread .receivingRead => exact Client.ThreadCall.receivingRead_perrorSees nonzero 0
    | .clientThread (.sending _) | .server _ | .child _ => cases lost
  · intro keeps seen sees
    cases call with
    | client call => exact call.seen_eq keeps sees
    | clientThread call => exact call.seen_eq keeps sees
    | server call => exact Server.SetupCall.perrorSees_iff.mp sees
    | child func => exact func.seen_eq sees

theorem errno_reported_connect :
    ¬ ∀ seen, (FailingCall.client .connect).PerrorSees econnrefused seen → seen = econnrefused := by
  rw [errno_reported_iff (.client .connect) (by decide)]
  decide

end Usockit
