import NotebookKernel.Proofs.Cell.Replies
import NotebookKernel.Proofs.Cell.Starting
import NotebookKernel.Proofs.Program.Progress
import NotebookKernel.Proofs.Serve.Answers

/-!
The options of evaluations.

A kernel gets the options for its evaluations when it is started, and whatever it serves, it
evaluates with these and keeps them. `Kernel.Steady` is this as a promise of one step, and
`Kernel.life_options` follows it from the start of a kernel to its end.
-/

namespace NotebookKernel

namespace Host.Request

variable {o : RunOptions} {r : Host.Request}

/-- If it is an evaluation, it has these options. -/
def Within (o : RunOptions) : Host.Request → Prop
  | .debugger (.evaluate _ options) => options = o
  | _ => True

theorem SubmitsTo.within {s : Session} (submits : r.SubmitsTo s) : r.Within s.options := by
  cases r with
  | debugger task =>
    cases task with
    | evaluate code options => exact submits
    | _ => trivial
  | _ => trivial

/-- Requests of a kind without evaluations need no further care. -/
theorem within_of_kind {kind : Host.Request → Prop}
    (none : ∀ code options, ¬ kind (.debugger (.evaluate code options))) (asks : kind r) :
    r.Within o := by
  cases r with
  | debugger task =>
    cases task with
    | evaluate code options => exact absurd asks (none code options)
    | _ => trivial
  | _ => trivial

end Host.Request

open Host.Request

/-- The promise to evaluate with some options. -/
def RunOptions.rules (o : RunOptions) : Conduct Host Unit where
  allows _ exchange := exchange.request.Within o
  after _ _ := ()

theorem Program.Asks.within {α : Type} {o : RunOptions} {p : Act α} (asks : p.Asks (Within o)) :
    p.Keeps o.rules () fun _ _ => True := by
  apply (asks.keeps _).imp
  · exact fun _ _ _ => trivial
  · exact fun r fits _ => ⟨fits, rfl⟩

namespace Kernel

variable {o : RunOptions} {α β : Type}

/-- A step that evaluates with the options of the kernel, and leaves a kernel with the same. -/
def Steady (o : RunOptions) (action : KernelAction α) : Prop :=
  ∀ k, k.session.options = o →
    (action.run.run k).Keeps o.rules () fun _ ending => ending.2.session.options = o

theorem Steady.bind {action : KernelAction α} {f : α → KernelAction β}
    (steady : Steady o action) (later : ∀ a, Steady o (f a)) : Steady o (action >>= f) := by
  intro k has
  apply Layers.keeps_bind (steady k has)
  · exact fun _ a k has => later a k has
  · exact fun _ _ _ has => has

theorem steady_pure (a : α) : Steady o (pure a) :=
  fun _ has => has

theorem steady_throw (e : Error) : Steady o (throw e : KernelAction α) :=
  fun _ has => has

theorem steady_get : Steady o get :=
  fun _ has => has

/-- A step that only looks at the kernel need only ask for nothing else. -/
theorem steady_reading {action : Kernel → Action α}
    (asks : ∀ k, k.session.options = o → (action k).run.Asks (Within o)) :
    Steady o (KernelAction.reading action) :=
  fun k has => (asks k has).within.bind fun _ _ _ => has

/-! ## Snippets and cells -/

theorem execute_within {k : Kernel} (has : k.session.options = o) (code : String) :
    (k.execute code).run.Asks (Within o) :=
  (execute_submits k code).mono fun _ submits => has ▸ submits.within

/-- Expansion changes the state of completion alone. -/
theorem steady_expand (source : String) :
    Steady o (liftM (expand source) : KernelAction (Except ExpansionError String)) := by
  intro k has
  have expands : ((k.expander.run source k.cellName).run.run k.completion).Asks Expands :=
    Expander.run_asks source
  have kept : (expand source k).Keeps o.rules () fun _ ending => ending.2.session.options = o :=
    (expands.mono fun _ => within_of_kind fun _ _ => id).within.bind fun _ _ _ => has
  exact kept.bind fun _ _ has => has

theorem steady_expandAndSubmit (source : String) : Steady o (expandAndSubmit source) := by
  apply (steady_expand source).bind
  intro expanded
  cases expanded with
  | error e => exact steady_pure _
  | ok code => exact steady_reading fun k has => execute_within has code

theorem steady_runSnippet (complaint source : String) : Steady o (runSnippet complaint source) := by
  apply (steady_expandAndSubmit source).bind
  intro result
  cases result.failureText with
  | none => exact steady_pure _
  | some description => exact steady_throw _

theorem steady_startCommunicator (identity : NotebookIdentity) :
    Steady o (startCommunicator identity) := by
  apply steady_get.bind
  intro k
  cases k.language.communicator with
  | none => exact steady_pure _
  | some file =>
    dsimp only
    generalize "%include \"" ++ file ++ "\"" = included
    generalize "Error initing communicator" = complaint
    generalize "Error declaring session" = complaint'
    exact (steady_runSnippet complaint included).bind fun _ => steady_runSnippet _ _

theorem probeWidth_within {k : Kernel} (has : k.session.options = o) :
    (probeWidth k).run.Asks (Within o) := by
  apply Program.Asks.bindExcept (execute_within has _)
  intro result
  cases result with
  | gave value =>
    dsimp only
    exact liftExcept_asks
  | finished | notExpanded _ | failed _ => trivial

/-- The width of integers, once it is known, does not change the options. -/
theorem steady_prepare (identity : NotebookIdentity) : Steady o (prepare identity) := by
  apply (steady_startCommunicator identity).bind
  intro _
  apply (steady_reading fun k has => probeWidth_within has).bind
  intro width k has
  change (Session.fixWidth _ width).options = o
  unfold Session.fixWidth
  split <;> exact has

theorem runStreaming_within {k : Kernel} (has : k.session.options = o) (code : String) :
    (k.runStreaming code).run.Asks (Within o) := by
  have drained : (Streaming.drain k.chunkSize).Asks (Within o) :=
    (Streaming.drain_asks _).mono fun _ => within_of_kind fun _ _ => id
  have stopped (outcome : Except Error CellResult) :
      ((Streaming.stop k.chunkSize).bind fun _ => .done outcome).Asks (Within o) :=
    Program.Asks.bind ⟨trivial, fun _ => drained⟩ fun _ => trivial
  have started : (Streaming.start k.chunkSize).run.Asks (Within o) :=
    ((Streaming.broadcastUnread_asks _).mono fun _ => within_of_kind fun _ _ => id).bind
      fun _ => ⟨trivial, fun _ => trivial⟩
  refine Program.Asks.bindExcept started fun _ => ?_
  apply (execute_within has code).bind
  intro result
  cases result with
  | error e => exact stopped (.error e)
  | ok result =>
    apply drained.bind
    intro printed
    change Program.Asks _ (if result.succeeded then _ else _)
    split
    · have published : (QueuedMessage.publish k).Asks (Within o) :=
        QueuedMessage.publish_submits k (fun _ submits => has ▸ submits.within)
          (fun _ => within_of_kind fun _ _ => id) (fun _ => within_of_kind fun _ _ => id)
      exact published.bind fun _ => stopped _
    · exact stopped _

theorem steady_runCell (source : String) (parent : Json) : Steady o (runCell source parent) := by
  apply (steady_reading fun k has => ?_).bind
  · intro _
    apply (steady_expand source).bind
    intro expanded
    cases expanded with
    | error e => exact steady_pure _
    | ok code => exact steady_reading fun k has => runStreaming_within has code
  · exact (announceRequest_submits k parent).mono fun _ submits => has ▸ submits.within

theorem answerCell_keeps {k : Kernel} (has : k.session.options = o) (source : String)
    (parent : Json) : ((answerCell source parent).run k).Keeps o.rules () fun _ ending =>
      ending.2.session.options = o := by
  rw [answerCell_eq]
  apply (steady_runCell source parent k has).bind
  intro _ ending has
  have reported : (ending.2.report ending.1).Asks (Within o) :=
    (report_asks _ _).mono fun _ => within_of_kind fun _ _ => id
  exact reported.within.bind fun _ _ _ => has

/-! ## A whole life -/

theorem replied_keeps {k : Kernel} (has : k.session.options = o) (kind : String) (content : Json)
    (served : Served) :
    (Program.ask (Host.Request.reply kind content) (Serve.replied served k)).Keeps o.rules ()
      fun _ ending => ending.2.session.options = o := by
  intro answer
  refine ⟨trivial, ?_⟩
  cases answer <;> exact has

theorem steady_answer (request : Request) : Steady o (Serve.answer request) := by
  intro k has
  cases request with
  | execute header code =>
    rw [Serve.answer_execute]
    apply (answerCell_keeps (k := k.nextCell) has code header).bind
    intro _ ending has
    exact replied_keeps has _ _ _
  | complete code cursor =>
    rw [Serve.answer_complete]
    have completed : (k.complete code cursor).Asks (Within o) :=
      (complete_completes k code cursor).mono fun _ => within_of_kind fun _ _ => id
    apply completed.within.bind
    intro _ found _
    exact replied_keeps has _ _ _
  | shutdown restart =>
    rw [Serve.answer_shutdown]
    exact replied_keeps has _ _ _

theorem steady_line (text : List Char) : Steady o (Serve.line text) := by
  unfold Serve.line
  split
  · exact steady_pure _
  · split
    · exact steady_answer _
    · refine Steady.bind (steady_reading fun _ _ => ?_) fun _ => steady_pure _
      exact ⟨trivial, fun _ => trivial⟩

theorem steady_all (lines : List Bytes) : Steady o (Serve.all lines) := by
  induction lines with
  | nil => exact steady_pure _
  | cons bytes rest ih =>
    unfold Serve.all
    split
    · exact steady_throw _
    · apply (steady_line _).bind
      intro served
      cases served with
      | more => exact ih
      | finished => exact steady_pure _

/-- A kernel from its start to its end: it serves lines, and then the target is killed. -/
def life (plan : StartPlan) (lines : List Bytes) : Act (Except Error Unit) := do
  match ← (start plan).run with
  | .error e => pure (.error e)
  | .ok k =>
    let (served, _) ← (Serve.all lines).run.run k
    let _ ← shutdown.run
    pure served

theorem start_keeps {plan : StartPlan} (given : o = .forCells plan.language.name plan.timeout) :
    (start plan).run.Keeps o.rules () fun _ result =>
      ∀ k, result = .ok k → k.session.options = o := by
  rw [start_eq, ← given]
  intro thread
  refine ⟨trivial, ?_⟩
  cases thread with
  | error e =>
    intro k same
    cases same
  | ok thread =>
    intro supported
    refine ⟨trivial, ?_⟩
    have steady : Steady o (prepare plan.identity) := steady_prepare plan.identity
    apply (steady (ofSession plan ⟨thread, o, none⟩ supported) rfl).bind
    intro _ ending has
    obtain ⟨result, k⟩ := ending
    cases result with
    | error e =>
      intro l same
      cases same
    | ok _ =>
      intro l same
      cases same
      exact has

/-- Whatever a kernel is asked, it evaluates with the options that it was started with. -/
theorem life_keeps {plan : StartPlan} (given : o = .forCells plan.language.name plan.timeout)
    (lines : List Bytes) : (life plan lines).Keeps o.rules () fun _ _ => True := by
  apply (start_keeps given).bind
  intro _ result starts
  cases result with
  | error e => trivial
  | ok k =>
    have served := steady_all lines k (starts k rfl)
    apply served.bind
    intro _ ending _
    exact fun _ => ⟨trivial, trivial⟩

theorem life_options {plan : StartPlan} {lines : List Bytes} {log : List (Exchange Host)}
    {code : String} {options : RunOptions}
    {rest : Except Error Evaluation → Act (Except Error Unit)}
    (evaluates : (life plan lines).Comes log (.ask (.debugger (.evaluate code options)) rest)) :
    options = .forCells plan.language.name plan.timeout :=
  (evaluates.keeps (life_keeps rfl lines) (.error .disconnected)).1

end Kernel

end NotebookKernel
