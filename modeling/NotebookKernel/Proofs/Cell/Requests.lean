import NotebookKernel.Cell.Run
import NotebookKernel.Proofs.Program.Conduct

/-!
What the parts of a cell run ask of their surroundings.

Each part asks for few kinds of things, whatever it is answered: submitting code evaluates and
describes, expansion reads files and tells about completion, reading the queue looks at values and
memory, and a drain takes output. For submitted code more can be said: `Kernel.execute_gives` gives
the exchanges one by one, and what the answers amount to.
-/

namespace NotebookKernel

/-! ## Kinds of requests -/

namespace Host.Request

/-- Submitting code may ask for it. -/
def Submits : Host.Request → Prop
  | .debugger (.evaluate _ _) | .debugger (.describe _) => True
  | .lockTarget | .unlockTarget | .setBusy _ => True
  | _ => False

/-- Submitting code to a session may ask for it. -/
def SubmitsTo (s : Session) : Host.Request → Prop
  | .debugger (.evaluate _ options) => options = s.options
  | r => r.Submits

/-- Expansion of a cell may ask for it. All that it broadcasts are notices about completion. -/
def Expands : Host.Request → Prop
  | .readText _ | .log _ => True
  | .broadcast m => ∃ s : CompletionState, m = .notification (.stdout s.notice)
  | _ => False

/-- Reading the queue of messages may ask for it. -/
def Inspects : Host.Request → Prop
  | .debugger (.children _) | .debugger (.member _ _) | .debugger (.storage _) => True
  | .debugger (.memoryAt _ _) | .lockTarget | .unlockTarget | .log _ => True
  | _ => False

/-- Broadcasting queued messages may ask for it. -/
def Forwards : Host.Request → Prop
  | .broadcast (.parts _) | .log _ => True
  | _ => False

/-- Taking all captured output may ask for it. -/
def Takes : Host.Request → Prop
  | .debugger (.takeOutput _) | .debugger .unreadOutput => True
  | .broadcast (.notification (.stream _ _)) | .log _ => True
  | _ => False

/-- A drain may ask for it. -/
def Drains : Host.Request → Prop
  | .debugger (.takeOutput _) | .debugger .unreadOutput => True
  | .broadcast (.notification (.stream _ _)) => True
  | .log _ | .takeGuard | .releaseGuard _ => True
  | _ => False

/-- A report may ask for it. -/
def Reports : Host.Request → Prop
  | .broadcast _ | .log _ | .debugger (.frames _) => True
  | _ => False

theorem SubmitsTo.submits {s : Session} {r : Host.Request} (submits : r.SubmitsTo s) :
    r.Submits := by
  cases r with
  | debugger task =>
    cases task with
    | evaluate code options => trivial
    | _ => exact submits
  | _ => exact submits

theorem Takes.drains {r : Host.Request} (takes : r.Takes) : r.Drains := by
  cases r with
  | debugger r => cases r <;> trivial
  | broadcast m =>
    cases m with
    | notification n => cases n <;> trivial
    | parts _ => cases takes
  | _ => trivial

end Host.Request

open Host.Request

theorem Act.broadcastOrWarn_asks {allowed : Host.Request → Prop} {area : Log.Area}
    {complaint : String} {m : Broadcast} (sends : allowed (.broadcast m))
    (logs : ∀ record, allowed (.log record)) :
    (Act.broadcastOrWarn area complaint m).Asks allowed := by
  refine ⟨sends, fun answer => ?_⟩
  cases answer with
  | error e => exact ⟨logs _, fun _ => trivial⟩
  | ok _ => trivial

theorem liftExcept_asks {α : Type} {allowed : Host.Request → Prop} {result : Except Error α} :
    (liftExcept result : Action α).run.Asks allowed := by
  cases result <;> trivial

/-! ## Submitting code -/

/-- What the debugger answers to submitted code: what came of the evaluation and, where that is a
value, how it describes the value. -/
structure Reaction where
  evaluation : Except Error Evaluation
  described : Except Error ValueView

namespace Reaction

/-- The value that is to be described. -/
def subject? (r : Reaction) : Option Handle :=
  match r.evaluation with
  | .ok (.value handle) | .ok (.failed handle) => some handle
  | _ => none

/-- What the answers amount to. The error of a failure goes before its description. -/
def outcome (r : Reaction) : Except Error Outcome :=
  match r.evaluation with
  | .error e => .error e
  | .ok .valueless => .ok .finished
  | .ok (.value handle) => r.described.map fun view =>
    .gave ⟨handle, view.description, view.typeName⟩
  | .ok (.failed handle) => r.described.map fun view =>
    .failed ⟨handle, view.error.getD view.description, view.typeName⟩

end Reaction

/-- The exchanges of an evaluation. -/
def Session.evaluating (s : Session) (code : String) (answer : Except Error Evaluation) :
    List (Exchange Host) :=
  [⟨Host.Request.lockTarget, ()⟩, ⟨Host.Request.setBusy true, ()⟩,
    ⟨Host.Request.debugger (.evaluate code s.options), answer⟩,
    ⟨Host.Request.setBusy false, ()⟩, ⟨Host.Request.unlockTarget, ()⟩]

/-- The exchanges through which code is submitted. -/
def Kernel.submission (k : Kernel) (code : String) (r : Reaction) : List (Exchange Host) :=
  k.session.evaluating (k.located code) r.evaluation ++
    r.subject?.toList.map fun handle => ⟨Host.Request.debugger (.describe handle), r.described⟩

section Submission

variable {log : List (Exchange Host)}

theorem Session.evaluate_gives {s : Session} {code : String} {result : Except Error Evaluation}
    (run : (s.evaluate code).run.Gives log result) : log = s.evaluating code result := by
  obtain ⟨_, _, rfl, locked⟩ := run.of_ask
  obtain ⟨_, _, rfl, busy⟩ := locked.of_ask
  obtain ⟨answer, _, rfl, evaluated⟩ := busy.of_ask
  obtain ⟨_, _, rfl, idle⟩ := evaluated.of_ask
  obtain ⟨_, _, rfl, unlocked⟩ := idle.of_ask
  obtain ⟨rfl, rfl⟩ := unlocked.of_done
  rfl

theorem Session.describe_gives {β : Type} {handle : Handle} {f : ValueView → β}
    {result : Except Error β}
    (run : (do let view ← Session.describe handle; pure (f view) : Action β).run.Gives log result) :
    ∃ described, log = [⟨Host.Request.debugger (.describe handle), described⟩] ∧
      result = described.map f := by
  obtain ⟨described, _, rfl, rest⟩ := run.of_ask
  refine ⟨described, ?_⟩
  cases described with
  | error e =>
    obtain ⟨rfl, rfl⟩ := rest.of_done
    exact ⟨rfl, rfl⟩
  | ok view =>
    obtain ⟨rfl, rfl⟩ := rest.of_done
    exact ⟨rfl, rfl⟩

namespace Kernel

/-- Submitted code is evaluated once, behind the marker of the current cell, and classified by the
answers. -/
theorem execute_gives {k : Kernel} {code : String} {result : Except Error Outcome}
    (run : (k.execute code).run.Gives log result) :
    ∃ r : Reaction, log = k.submission code r ∧ result = r.outcome := by
  obtain ⟨first, second, evaluation, rfl, evaluated, classified⟩ := Program.Gives.of_bind run
  rw [Session.evaluate_gives evaluated]
  cases evaluation with
  | error e =>
    obtain ⟨rfl, rfl⟩ := classified.of_done
    exact ⟨⟨.error e, .error e⟩, rfl, rfl⟩
  | ok evaluation =>
    cases evaluation with
    | valueless =>
      obtain ⟨rfl, rfl⟩ := classified.of_done
      exact ⟨⟨.ok .valueless, .ok default⟩, rfl, rfl⟩
    | value handle =>
      obtain ⟨described, rfl, rfl⟩ := Session.describe_gives classified
      exact ⟨⟨.ok (.value handle), described⟩, rfl, rfl⟩
    | failed handle =>
      obtain ⟨described, rfl, rfl⟩ := Session.describe_gives classified
      exact ⟨⟨.ok (.failed handle), described⟩, rfl, rfl⟩

/-- Code is submitted with the options of the session. -/
theorem execute_submits (k : Kernel) (code : String) :
    (k.execute code).run.Asks (SubmitsTo k.session) := by
  have evaluated : (k.session.evaluate (k.located code)).run.Asks (SubmitsTo k.session) :=
    ⟨trivial, fun _ => ⟨trivial, fun _ => ⟨rfl, fun _ => ⟨trivial, fun _ =>
      ⟨trivial, fun _ => trivial⟩⟩⟩⟩⟩
  have described : ∀ handle, (Session.describe handle).run.Asks (SubmitsTo k.session) :=
    fun _ => ⟨trivial, fun _ => trivial⟩
  refine Program.Asks.bindExcept evaluated fun evaluation => ?_
  cases evaluation with
  | valueless => trivial
  | value handle => exact Program.Asks.bindExcept (described handle) fun _ => trivial
  | failed handle => exact Program.Asks.bindExcept (described handle) fun _ => trivial

theorem execute_asks (k : Kernel) (code : String) : (k.execute code).run.Asks Submits :=
  (execute_submits k code).mono fun _ => SubmitsTo.submits

theorem announceRequest_submits (k : Kernel) (parent : Json) :
    (k.announceRequest parent).run.Asks (SubmitsTo k.session) := by
  refine Program.Asks.bindExcept (execute_submits _ _) fun result => ?_
  cases result.failureText <;> trivial

theorem announceRequest_asks (k : Kernel) (parent : Json) :
    (k.announceRequest parent).run.Asks Submits :=
  (announceRequest_submits k parent).mono fun _ => SubmitsTo.submits

end Kernel

end Submission

/-! ## Expanding a cell -/

namespace Expander

variable {p : Expander} {file : String} {s : CompletionState}

theorem findText_asks (name : String) (roots : List String) :
    (findText name roots).Asks Expands := by
  induction roots with
  | nil => trivial
  | cons root rest ih =>
    refine ⟨trivial, fun answer => ?_⟩
    cases answer with
    | ok text => trivial
    | error e => exact ih

theorem includeText_asks (number : Nat) (name? : Option (List Char)) :
    ((p.includeText file number name?).run.run s).Asks Expands := by
  cases name? with
  | none => trivial
  | some name =>
    refine Layers.asks_bind (Layers.asks_lift (findText_asks _ _)) fun found t => ?_
    cases found <;> trivial

theorem line_asks (number : Nat) (text : List Char) :
    ((p.line file number text).run.run s).Asks Expands := by
  unfold line
  cases Directive.ofLine text with
  | text => trivial
  | enableCompletion =>
    refine Layers.asks_bind ?_ fun _ _ => trivial
    exact Layers.asks_lift (Act.broadcastOrWarn_asks ⟨s, rfl⟩ fun _ => trivial)
  | includeFile name? => exact includeText_asks number name?

theorem lines_asks (number : Nat) (texts : List (List Char)) :
    ((p.lines file number texts).run.run s).Asks Expands := by
  induction texts generalizing number s with
  | nil => trivial
  | cons text rest ih =>
    refine Layers.asks_bind (line_asks number text) fun _ _ => ?_
    exact Layers.asks_bind (ih (number + 1)) fun _ _ => trivial

theorem run_asks (source : String) : ((p.run source file).run.run s).Asks Expands := by
  rw [Expander.run, map_eq_pure_bind]
  exact Layers.asks_bind (lines_asks 1 _) fun _ _ => trivial

end Expander

theorem Kernel.expand_asks (source : String) (k : Kernel) :
    (Kernel.expand source k : Act _).Asks Expands :=
  Program.Asks.bind (Expander.run_asks source) fun _ => trivial

/-! ## Queued messages -/

namespace QueuedMessage

theorem bytesAt_asks (address : Nat) (length : Int) :
    (bytesAt address length).run.Asks Inspects := by
  unfold bytesAt
  split
  · trivial
  · split
    · trivial
    · exact ⟨trivial, fun _ => ⟨trivial, fun _ => ⟨trivial, fun _ => trivial⟩⟩⟩

theorem readPart_asks (s : Session) (part : Handle) : (readPart s part).run.Asks Inspects := by
  have member : ∀ name, (Session.member part name).run.Asks Inspects := by
    intro name
    refine Program.Asks.bindExcept ⟨trivial, fun _ => trivial⟩ fun found => ?_
    cases found <;> trivial
  have storage : ∀ handle, (Session.storage handle).run.Asks Inspects :=
    fun _ => ⟨trivial, fun _ => trivial⟩
  refine Program.Asks.bindExcept (member _) fun position => ?_
  refine Program.Asks.bindExcept (storage _) fun stored => ?_
  refine Program.Asks.bindExcept liftExcept_asks fun address => ?_
  refine Program.Asks.bindExcept (member _) fun count => ?_
  refine Program.Asks.bindExcept (storage _) fun stored => ?_
  refine Program.Asks.bindExcept liftExcept_asks fun width => ?_
  exact Program.Asks.bindExcept liftExcept_asks fun length => bytesAt_asks _ _

theorem readParts_asks (s : Session) (parts : List Handle) :
    (readParts s parts).run.Asks Inspects := by
  induction parts with
  | nil => trivial
  | cons part rest ih =>
    refine Program.Asks.bindExcept (readPart_asks s part) fun _ => ?_
    exact Program.Asks.bindExcept ih fun _ => trivial

theorem readAll_asks (s : Session) (payloads : List Handle) :
    (readAll s payloads).Asks Inspects := by
  induction payloads with
  | nil => trivial
  | cons payload rest ih =>
    refine Program.Asks.bind (Program.Asks.bindExcept (p := Session.children payload)
      ⟨trivial, fun _ => trivial⟩ (readParts_asks s)) fun message => ?_
    cases message with
    | ok message => exact ih.bind fun _ => trivial
    | error e => exact ⟨trivial, fun _ => ih⟩

theorem readQueue_asks (s : Session) (queue : Handle) : (readQueue s queue).Asks Inspects := by
  refine ⟨trivial, fun payloads => ?_⟩
  cases payloads with
  | ok payloads => exact readAll_asks _ payloads
  | error e => exact ⟨trivial, fun _ => trivial⟩

/-- After the code that empties the queue, reading its value is all that a drain of it asks. -/
theorem drain_submits {allowed : Host.Request → Prop} (k : Kernel)
    (submits : ∀ r, r.SubmitsTo k.session → allowed r)
    (inspects : ∀ r, r.Inspects → allowed r) : (drain k).Asks allowed := by
  have logs : ∀ record, allowed (.log record) := fun _ => inspects _ trivial
  refine ((Kernel.execute_submits k _).mono submits).bind fun result => ?_
  cases result with
  | error e => exact ⟨logs _, fun _ => trivial⟩
  | ok result =>
    cases result with
    | gave queue => exact (readQueue_asks _ _).mono inspects
    | finished => exact ⟨logs _, fun _ => trivial⟩
    | notExpanded e => exact ⟨logs _, fun _ => trivial⟩
    | failed value => exact ⟨logs _, fun _ => trivial⟩

theorem drain_asks {allowed : Host.Request → Prop} (submits : ∀ r, r.Submits → allowed r)
    (inspects : ∀ r, r.Inspects → allowed r) (k : Kernel) : (drain k).Asks allowed :=
  drain_submits k (fun r asked => submits r asked.submits) inspects

/-- Only a value that could be described is read as a queue; anything else gives no messages. -/
theorem drain_gives {k : Kernel} {log : List (Exchange Host)} {messages : List QueuedMessage}
    (run : (drain k).Gives log messages) :
    ∃ (r : Reaction) (rest : List (Exchange Host)),
      log = k.submission k.language.takeQueue r ++ rest ∧
      ((∃ queue, r.outcome = .ok (.gave queue) ∧
          (readQueue k.session queue.handle).Gives rest messages) ∨
        (∀ queue, r.outcome ≠ .ok (.gave queue)) ∧ messages = [] ∧
          ∃ record, rest = [⟨Host.Request.log record, ()⟩]) := by
  obtain ⟨first, second, outcome, rfl, executed, read⟩ := Program.Gives.of_bind run
  obtain ⟨r, rfl, rfl⟩ := Kernel.execute_gives executed
  refine ⟨r, second, rfl, ?_⟩
  have logged : ∀ record, (do Act.log record; pure [] : Act (List QueuedMessage)).Gives second
      messages → messages = [] ∧ ∃ record, second = [⟨Host.Request.log record, ()⟩] := by
    intro record written
    obtain ⟨_, _, rfl, done⟩ := written.of_ask
    obtain ⟨rfl, rfl⟩ := done.of_done
    exact ⟨rfl, record, rfl⟩
  cases outcome : r.outcome with
  | error e =>
    rw [outcome] at read
    exact .inr ⟨fun _ same => (nomatch same), logged _ read⟩
  | ok result =>
    rw [outcome] at read
    cases result with
    | gave queue => exact .inl ⟨queue, rfl, read⟩
    | finished => exact .inr ⟨fun _ same => (nomatch same), logged _ read⟩
    | notExpanded e => exact .inr ⟨fun _ same => (nomatch same), logged _ read⟩
    | failed value => exact .inr ⟨fun _ same => (nomatch same), logged _ read⟩

theorem broadcastAll_asks (messages : List QueuedMessage) :
    (broadcastAll messages).Asks Forwards := by
  induction messages with
  | nil => trivial
  | cons message rest ih =>
    exact (Act.broadcastOrWarn_asks trivial fun _ => trivial).bind fun _ => ih

theorem publish_submits {allowed : Host.Request → Prop} (k : Kernel)
    (submits : ∀ r, r.SubmitsTo k.session → allowed r) (inspects : ∀ r, r.Inspects → allowed r)
    (forwards : ∀ r, r.Forwards → allowed r) : (publish k).Asks allowed :=
  (drain_submits k submits inspects).bind fun messages => (broadcastAll_asks messages).mono forwards

theorem publish_asks {allowed : Host.Request → Prop} (submits : ∀ r, r.Submits → allowed r)
    (inspects : ∀ r, r.Inspects → allowed r) (forwards : ∀ r, r.Forwards → allowed r)
    (k : Kernel) : (publish k).Asks allowed :=
  publish_submits k (fun r asked => submits r asked.submits) inspects forwards

end QueuedMessage

/-! ## Drains -/

namespace Streaming

theorem collect_takes (chunk reads : Nat) (taken : String) :
    (collect chunk reads taken).Asks Takes := by
  induction reads generalizing taken with
  | zero => trivial
  | succ reads ih =>
    refine ⟨trivial, fun answer => ?_⟩
    cases answer with
    | error e => exact ⟨trivial, fun _ => trivial⟩
    | ok text =>
      change Program.Asks _ (if text = "" then _ else _)
      split
      · trivial
      · exact ih _

/-- The output is taken without the guard. -/
theorem broadcastUnread_takes (chunk : Nat) : (broadcastUnread chunk).Asks Takes := by
  refine ⟨trivial, fun unread => (collect_takes chunk _ "").bind fun text => ?_⟩
  split
  · trivial
  · exact (Act.broadcastOrWarn_asks trivial fun _ => trivial).bind fun _ => trivial

theorem broadcastUnread_asks (chunk : Nat) : (broadcastUnread chunk).Asks Drains :=
  (broadcastUnread_takes chunk).mono fun _ takes => takes.drains

theorem drain_asks (chunk : Nat) : (drain chunk).Asks Drains :=
  ⟨trivial, fun _ => (broadcastUnread_asks chunk).bind fun _ => ⟨trivial, fun _ => trivial⟩⟩

end Streaming

end NotebookKernel
