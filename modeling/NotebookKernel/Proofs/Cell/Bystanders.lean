import NotebookKernel.Proofs.Cell.Requests

/-!
The parts of a cell run that have nothing to do with its relay.

Announcing a request, expanding a cell, executing code and publishing queued messages neither take
captured output nor touch the relay, whatever the debugger answers: nothing of the kinds that they
ask for is about the relay.
-/

namespace NotebookKernel

/-- The request takes captured output, or it is about the relay. -/
def Host.Request.aboutRelay : Host.Request → Bool
  | .debugger (.takeOutput _) | .debugger .unreadOutput => true
  | .startPolling | .stopPolling | .takeGuard | .releaseGuard _ => true
  | _ => false

/-- The program leaves captured output and the relay alone. -/
def Program.Bystands {α : Type} (p : Act α) : Prop :=
  p.Asks fun r : Host.Request => r.aboutRelay = false

namespace Host.Request

variable {r : Host.Request}

theorem Submits.bystands (submits : r.Submits) : r.aboutRelay = false := by
  cases r with
  | debugger r => cases r <;> first | rfl | cases submits
  | _ => first | rfl | cases submits

theorem Expands.bystands (expands : r.Expands) : r.aboutRelay = false := by
  cases r with
  | debugger r => cases expands
  | _ => first | rfl | cases expands

theorem Inspects.bystands (inspects : r.Inspects) : r.aboutRelay = false := by
  cases r with
  | debugger r => cases r <;> first | rfl | cases inspects
  | _ => first | rfl | cases inspects

theorem Forwards.bystands (forwards : r.Forwards) : r.aboutRelay = false := by
  cases r with
  | debugger r => cases forwards
  | _ => first | rfl | cases forwards

end Host.Request

namespace Kernel

theorem execute_bystands (k : Kernel) (code : String) : (k.execute code).run.Bystands :=
  (execute_asks k code).mono fun _ submits => submits.bystands

theorem announceRequest_bystands (k : Kernel) (parent : Json) :
    (k.announceRequest parent).run.Bystands :=
  (announceRequest_asks k parent).mono fun _ submits => submits.bystands

theorem expand_bystands (source : String) (k : Kernel) :
    (Kernel.expand source k : Act _).Bystands :=
  (expand_asks source k).mono fun _ expands => expands.bystands

end Kernel

theorem QueuedMessage.publish_bystands (k : Kernel) : (publish k).Bystands :=
  publish_asks (fun _ submits => submits.bystands) (fun _ inspects => inspects.bystands)
    (fun _ forwards => forwards.bystands) k

end NotebookKernel
