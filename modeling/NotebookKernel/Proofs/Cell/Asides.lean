import NotebookKernel.Proofs.Cell.Replies
import NotebookKernel.Proofs.Program.Omission

/-!
What a kernel only tells.

A broadcast and a log record are told to front ends and to the log, and nothing that the kernel does
hangs on what becomes of them: a failed broadcast leads to a warning, and that is all. The lemmas
here say so of one part of a cell run after the other, up to `Kernel.answerCell_ignores`.
-/

namespace NotebookKernel

/-- The requests by which something is only told, each with the answer that says that it arrived. -/
def Host.Request.aside : (r : Host.Request) → Option (Host.Answer r)
  | .broadcast _ => some (.ok ())
  | .log _ => some ()
  | _ => none

/-- Whatever the program tells, it goes on as if it had arrived. -/
abbrev Program.Heedless {α : Type} (p : Act α) : Prop :=
  p.Ignores (I := Host) Host.Request.aside

open Host.Request

theorem Act.log_heedless (record : Log.Record) : (Act.log record).Heedless :=
  ⟨fun _ => trivial, fun _ _ _ => rfl⟩

theorem Act.broadcastOrWarn_heedless (area : Log.Area) (complaint : String) (m : Broadcast) :
    (Act.broadcastOrWarn area complaint m).Heedless := by
  refine ⟨fun answer => ?_, fun known same answer => ?_⟩
  · cases answer with
    | ok _ => trivial
    | error e => exact Act.log_heedless _
  · obtain rfl := Option.some.inj same
    cases answer <;> rfl

/-- Log records are all that is told when code is submitted or values are read. -/
theorem Host.Request.one_answer {r : Host.Request} (reads : r.Submits ∨ r.Inspects) :
    ∀ known, r.aside = some known → ∀ answer, answer = known := by
  cases r with
  | broadcast m => exact (reads.elim id id).elim
  | log record => exact fun _ _ _ => rfl
  | _ => exact fun _ same => nomatch same

/-! ## The parts of a cell run -/

namespace Kernel

theorem execute_heedless (k : Kernel) (code : String) : (k.execute code).run.Heedless :=
  (execute_asks k code).ignores fun _ submits => one_answer (.inl submits)

theorem announceRequest_heedless (k : Kernel) (parent : Json) :
    (k.announceRequest parent).run.Heedless :=
  (announceRequest_asks k parent).ignores fun _ submits => one_answer (.inl submits)

end Kernel

namespace Expander

variable {p : Expander} {file : String} {s : CompletionState}

theorem findText_heedless (name : String) (roots : List String) :
    (findText name roots).Heedless := by
  induction roots with
  | nil => trivial
  | cons root rest ih =>
    refine ⟨fun answer => ?_, fun _ same => nomatch same⟩
    cases answer with
    | ok text => trivial
    | error e => exact ih

theorem line_heedless (number : Nat) (text : List Char) :
    ((p.line file number text).run.run s).Heedless := by
  unfold line
  cases Directive.ofLine text with
  | text => trivial
  | enableCompletion =>
    refine Layers.ignores_bind ?_ fun _ _ => trivial
    exact Layers.ignores_lift (Act.broadcastOrWarn_heedless _ _ _)
  | includeFile name? =>
    cases name? with
    | none => trivial
    | some name =>
      refine Layers.ignores_bind (Layers.ignores_lift (findText_heedless _ _)) fun found t => ?_
      cases found <;> trivial

theorem lines_heedless (number : Nat) (texts : List (List Char)) :
    ((p.lines file number texts).run.run s).Heedless := by
  induction texts generalizing number s with
  | nil => trivial
  | cons text rest ih =>
    refine Layers.ignores_bind (line_heedless number text) fun _ _ => ?_
    exact Layers.ignores_bind (ih (number + 1)) fun _ _ => trivial

end Expander

theorem Kernel.expand_heedless (source : String) (k : Kernel) :
    (Kernel.expand source k : Act _).Heedless := by
  refine Program.Ignores.bind ?_ fun _ => trivial
  rw [Expander.run, map_eq_pure_bind]
  exact Layers.ignores_bind (Expander.lines_heedless 1 _) fun _ _ => trivial

theorem QueuedMessage.broadcastAll_heedless (messages : List QueuedMessage) :
    (broadcastAll messages).Heedless := by
  induction messages with
  | nil => trivial
  | cons message rest ih => exact (Act.broadcastOrWarn_heedless _ _ _).bind fun _ => ih

theorem QueuedMessage.publish_heedless (k : Kernel) : (publish k).Heedless := by
  refine Program.Ignores.bind ?_ broadcastAll_heedless
  exact (drain_asks (fun _ => Or.inl) (fun _ => Or.inr) k).ignores fun _ => one_answer

namespace Streaming

variable (chunk : Nat)

theorem collect_heedless (reads : Nat) (taken : String) :
    (collect chunk reads taken).Heedless := by
  induction reads generalizing taken with
  | zero => trivial
  | succ reads ih =>
    refine ⟨fun answer => ?_, fun _ same => nomatch same⟩
    cases answer with
    | error e => exact (Act.log_heedless _).bind fun _ => trivial
    | ok text =>
      change Program.Heedless (if text = "" then _ else _)
      split
      · trivial
      · exact ih _

theorem broadcastUnread_heedless : (broadcastUnread chunk).Heedless := by
  refine ⟨fun unread => (collect_heedless chunk _ "").bind fun text => ?_,
    fun _ same => nomatch same⟩
  split
  · trivial
  · exact (Act.broadcastOrWarn_heedless _ _ _).bind fun _ => trivial

theorem drain_heedless : (drain chunk).Heedless := by
  refine ⟨fun _ => (broadcastUnread_heedless chunk).bind fun _ => ?_, fun _ same => nomatch same⟩
  exact ⟨fun _ => trivial, fun _ same => nomatch same⟩

end Streaming

theorem CellStage.program_heedless (stage : CellStage) : stage.program.Heedless := by
  cases stage with
  | announcing k source parent => exact k.announceRequest_heedless parent
  | expanding k source => exact Kernel.expand_heedless source k
  | starting k code =>
    refine (Streaming.broadcastUnread_heedless k.chunkSize).bind fun _ => ?_
    exact ⟨fun _ => trivial, fun _ same => nomatch same⟩
  | executing k code => exact k.execute_heedless code
  | flushing k result => exact Streaming.drain_heedless k.chunkSize
  | publishing k result => exact QueuedMessage.publish_heedless k
  | stopping k outcome =>
    exact ⟨fun _ => Streaming.drain_heedless k.chunkSize, fun _ same => nomatch same⟩

theorem CellStage.whole_heedless (stage : CellStage) : stage.whole.Heedless := by
  rw [whole_eq]
  refine stage.program_heedless.bind fun result => ?_
  cases next : stage.next result with
  | inl later => exact later.whole_heedless
  | inr ending => trivial
termination_by stage.left
decreasing_by exact left_lt_of_next next

/-! ## The report -/

namespace Kernel

variable (k : Kernel)

theorem broadcastError_heedless (traceback : List String) :
    (k.broadcastError traceback).Heedless :=
  (Act.broadcastOrWarn_heedless _ _ _).bind fun _ => trivial

theorem reportInternal_heedless (operation : String) (e : Error) :
    (k.reportInternal operation e).Heedless :=
  (Act.log_heedless _).bind fun _ => k.broadcastError_heedless _

theorem report_heedless (outcome : Except Error CellResult) : (k.report outcome).Heedless := by
  cases outcome with
  | error e => exact k.reportInternal_heedless _ e
  | ok cell =>
    obtain ⟨result, printed⟩ := cell
    cases result with
    | finished => trivial
    | gave value => exact (Act.broadcastOrWarn_heedless _ _ _).bind fun _ => trivial
    | notExpanded e => exact k.broadcastError_heedless _
    | failed value =>
      cases printed with
      | false => exact k.broadcastError_heedless _
      | true =>
        refine ⟨fun answer => ?_, fun _ same => nomatch same⟩
        cases answer with
        | ok frames => exact k.broadcastError_heedless _
        | error e => exact k.reportInternal_heedless _ e

/-- A kernel answers a cell as if all that it tells arrived. -/
theorem answerCell_heedless (source : String) (parent : Json) :
    ((answerCell source parent).run k).Heedless := by
  rw [answerCell_eq, ← CellStage.whole_announcing]
  refine (CellStage.whole_heedless _).bind fun ending => ?_
  exact (report_heedless _ _).bind fun _ => trivial

end Kernel

end NotebookKernel
