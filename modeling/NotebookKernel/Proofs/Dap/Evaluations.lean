import NotebookKernel.Dap.Client
import NotebookKernel.Proofs.Program.Progress

/-!
Where evaluate requests come from.

Of all that the client does for the kernel, only an evaluation writes an evaluate request, and its
arguments are those of the code and the options that were given. `Client.answer_evaluates` says so
of every moment at which the client writes, whatever the connection has answered.
-/

namespace NotebookKernel.Dap

/-- An evaluate request that is written has arguments that are allowed. -/
def Link.Request.Evaluates (allowed : Json → Prop) : Link.Request → Prop
  | .write r => r.command = "evaluate" → allowed r.arguments
  | _ => True

namespace Client

open Link.Request

variable {allowed : Json → Prop} {command : String} {arguments : Json}

/-! ## Requests -/

theorem send_asks (fits : command = "evaluate" → allowed arguments) :
    (send command arguments).Asks (Evaluates allowed) := by
  refine ⟨trivial, fun seq => ⟨trivial, fun _ => ⟨fits, fun written => ?_⟩⟩⟩
  cases written with
  | ok _ => trivial
  | error e => exact ⟨trivial, fun _ => trivial⟩

theorem request_asks (fits : command = "evaluate" → allowed arguments) :
    (request command arguments).Asks (Evaluates allowed) := by
  apply (send_asks fits).bind
  intro result
  cases result with
  | error e => trivial
  | ok seq =>
    refine ⟨trivial, fun response => ?_⟩
    cases response <;> trivial

/-- A request with another command is no evaluate request. -/
theorem requestBody_asks (other : command ≠ "evaluate") :
    (requestBody command arguments).Asks (Evaluates allowed) := by
  apply (request_asks fun same => absurd same other).bind
  intro result
  cases result <;> trivial

/-! ## What is done without the client's memory -/

theorem innermostFrame_asks (thread : ThreadId) :
    (innermostFrame thread).Asks (Evaluates allowed) := by
  apply (requestBody_asks (by decide)).bind
  intro result
  cases result with
  | error e => trivial
  | ok body =>
    dsimp only
    split <;> trivial

theorem memoryAt_asks (address length : Nat) :
    (memoryAt address length).Asks (Evaluates allowed) := by
  apply (requestBody_asks (by decide)).bind
  intro result
  cases result <;> trivial

theorem frames_asks (thread : ThreadId) : (frames thread).Asks (Evaluates allowed) := by
  apply (requestBody_asks (by decide)).bind
  intro result
  cases result <;> trivial

theorem interrupt_asks (c : Client) : c.interrupt.Asks (Evaluates allowed) := by
  refine ⟨trivial, fun process => ?_⟩
  cases process with
  | some process =>
    refine ⟨trivial, fun sent => ?_⟩
    cases sent <;> trivial
  | none =>
    dsimp only
    cases c.launchedThread with
    | error e => trivial
    | ok thread =>
      apply (send_asks fun same => absurd same (by decide)).bind
      intro result
      cases result <;> trivial

theorem complete_asks (c : Client) (code : String) :
    (c.complete code).Asks (Evaluates allowed) := by
  unfold complete
  cases c.launchedThread with
  | error e => trivial
  | ok thread =>
    apply (innermostFrame_asks thread).bind
    intro frame
    cases frame with
    | error e => trivial
    | ok frame =>
      apply (requestBody_asks (by decide)).bind
      intro result
      cases result <;> trivial

theorem terminate_asks : terminate.Asks (Evaluates allowed) := by
  apply (requestBody_asks (by decide)).bind
  intro result
  cases result with
  | error e => exact ⟨trivial, fun _ => ⟨trivial, fun _ => trivial⟩⟩
  | ok body => exact ⟨trivial, fun _ => trivial⟩

theorem awaitNamed_asks (name : String) : (awaitNamed name).Asks (Evaluates allowed) := by
  refine ⟨trivial, fun event => ?_⟩
  cases event with
  | timedOut | closed => trivial
  | arrived e =>
    change Program.Asks _ (if e.name = name then _ else _)
    split <;> trivial

theorem setEntryBreakpoint_asks (entry : String) :
    (setEntryBreakpoint entry).Asks (Evaluates allowed) := by
  apply (requestBody_asks (by decide)).bind
  intro result
  cases result with
  | error e => trivial
  | ok body =>
    dsimp only
    cases isVerified body with
    | true => trivial
    | false => exact ⟨trivial, fun _ => trivial⟩

theorem finishLaunch_asks (seq : Nat) : (finishLaunch seq).Asks (Evaluates allowed) := by
  refine ⟨trivial, fun response => ?_⟩
  cases response <;> trivial

/-! ## What is done with it -/

/-- All evaluate requests of an action have arguments that are allowed. -/
def Confined {α : Type} (allowed : Json → Prop) (action : ClientAction α) : Prop :=
  ∀ c, (action.run.run c).Asks (Evaluates allowed)

section Confined

variable {α β : Type}

theorem Confined.bind {action : ClientAction α} {f : α → ClientAction β}
    (confined : Confined allowed action) (later : ∀ a, Confined allowed (f a)) :
    Confined allowed (action >>= f) :=
  fun c => Layers.asks_bind (confined c) later

theorem Confined.linked {act : LinkAct (Except Error α)} (asks : act.Asks (Evaluates allowed)) :
    Confined allowed (linked act) :=
  fun _ => asks.bind fun _ => trivial

theorem confined_liftExcept (result : Except Error α) : Confined allowed (liftExcept result) := by
  intro c
  cases result <;> trivial

end Confined

theorem confined_lookup (value : Handle) : Confined allowed (lookup value) :=
  Confined.bind (fun _ => trivial) fun c => confined_liftExcept (c.values.find value)

/-- An evaluation writes one evaluate request, with the code and the options that were given. -/
theorem confined_evaluate {code : String} {options : RunOptions}
    (fits : ∀ frame, allowed (evaluateArguments code options frame)) :
    Confined allowed (evaluate code options) := by
  refine Confined.bind (fun _ => trivial) fun _ => ?_
  refine Confined.bind (fun _ => trivial) fun c => ?_
  apply (confined_liftExcept c.launchedThread).bind
  intro thread
  apply (Confined.linked (innermostFrame_asks thread)).bind
  intro frame
  apply (Confined.linked (request_asks fun _ => fits frame)).bind
  intro response
  cases meaningOf response <;> exact fun _ => trivial

theorem confined_describe (value : Handle) : Confined allowed (describe value) :=
  (confined_lookup value).bind fun _ _ => trivial

theorem confined_children (value : Handle) : Confined allowed (children value) := by
  apply (confined_lookup value).bind
  intro entry
  split
  · exact fun _ => trivial
  · exact (Confined.linked (requestBody_asks (by decide))).bind fun _ _ => trivial

theorem confined_member (value : Handle) (name : String) :
    Confined allowed (member value name) := by
  apply (confined_children value).bind
  intro refs
  refine Confined.bind (fun _ => trivial) fun c => ?_
  exact confined_liftExcept (firstNamed c.values name refs)

theorem confined_storage (value : Handle) : Confined allowed (storage value) := by
  apply (confined_lookup value).bind
  intro entry
  cases scalarOf? entry <;> exact fun _ => trivial

theorem confined_handshake (plan : LaunchPlan) : Confined allowed (handshake plan) := by
  refine (Confined.linked (requestBody_asks (by decide))).bind fun capabilities => ?_
  refine Confined.bind (fun _ => trivial) fun _ => ?_
  refine (Confined.linked (send_asks fun same => absurd same (by decide))).bind fun launched => ?_
  refine (Confined.linked (awaitNamed_asks _)).bind fun _ => ?_
  -- the two steps that only a launch with an entry breakpoint makes
  extract_lets named configured
  have named_asks : Confined allowed (named ()) := by
    refine (Confined.linked (requestBody_asks (by decide))).bind fun threads => ?_
    exact confined_liftExcept (firstThread threads)
  have configured_asks : Confined allowed (configured ()) := by
    refine (Confined.linked (requestBody_asks (by decide))).bind fun _ => ?_
    refine (Confined.linked (finishLaunch_asks launched)).bind fun _ => ?_
    cases plan.entryBreakpoint with
    | none => exact named_asks
    | some entry => exact (Confined.linked (awaitNamed_asks _)).bind fun _ => named_asks
  cases plan.entryBreakpoint with
  | none => exact configured_asks
  | some entry =>
    exact (Confined.linked (setEntryBreakpoint_asks entry)).bind fun _ => configured_asks

theorem confined_launch (plan : LaunchPlan) : Confined allowed (launch plan) := by
  refine Confined.bind (fun _ => ⟨trivial, fun _ => trivial⟩) fun _ => ?_
  refine Confined.bind (fun c => (confined_handshake plan c).bind fun _ => trivial) fun result => ?_
  refine Confined.bind (fun _ => ⟨trivial, fun _ => trivial⟩) fun _ => ?_
  refine (confined_liftExcept result).bind fun thread => ?_
  exact fun _ => trivial

/-- What an evaluation may write in an evaluate request; nothing else may write one. -/
def Writes : Debugger.Request → Json → Prop
  | .evaluate code options, arguments => ∃ frame, arguments = evaluateArguments code options frame
  | _, _ => False

theorem answer_asks (task : Debugger.Request) (c : Client) :
    ((answer task).run c).Asks (Evaluates (Writes task)) := by
  have kept : ∀ {α : Type} {allowed : Json → Prop} {act : Client → LinkAct α},
      (act c).Asks (Evaluates allowed) → ((keep act).run c).Asks (Evaluates allowed) :=
    fun asks => asks.bind fun _ => trivial
  cases task with
  | launch plan => exact confined_launch plan c
  | evaluate code options => exact confined_evaluate (fun frame => ⟨frame, rfl⟩) c
  | describe value => exact confined_describe value c
  | children value => exact confined_children value c
  | member value name => exact confined_member value name c
  | storage value => exact confined_storage value c
  | memoryAt address length => exact kept (memoryAt_asks address length)
  | takeOutput limit => exact kept ⟨trivial, fun _ => trivial⟩
  | unreadOutput => exact kept ⟨trivial, fun _ => trivial⟩
  | frames thread => exact kept (frames_asks thread)
  | interrupt => exact kept (interrupt_asks c)
  | canComplete => trivial
  | complete language code => exact kept (complete_asks c code)
  | terminate => exact kept terminate_asks

/-- The client writes evaluate requests for evaluations alone, with what was to be evaluated. -/
theorem answer_evaluates {task : Debugger.Request} {c : Client} {log : List (Exchange Link)}
    {r : Request} {rest : Except Error Unit → LinkAct (Debugger.Answer task × Client)}
    (writes : ((answer task).run c).Comes log (.ask (.write r) rest))
    (evaluates : r.command = "evaluate") :
    ∃ code options frame, task = .evaluate code options ∧
      r.arguments = evaluateArguments code options frame := by
  have fits : Writes task r.arguments := (writes.asks (answer_asks task c)).1 evaluates
  cases task with
  | evaluate code options =>
    obtain ⟨frame, same⟩ := fits
    exact ⟨code, options, frame, rfl, same⟩
  | _ => exact fits.elim

end Client
end NotebookKernel.Dap
