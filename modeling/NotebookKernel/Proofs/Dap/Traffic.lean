import Mathlib.Logic.Function.Basic
import Mathlib.Logic.Relation
import NotebookKernel.Proofs.Dap.Sending

/-!
Threads that share a connection, and its reader.

Any number of threads do what the kernel asks of the client, each in steps over the connection,
while the reader takes the bytes that arrive and one message after the other. `Traffic.Step` is one
thing that one of them does. The reader may end at any message, by the end of the bytes, a frame it
cannot read, or a stream that fails; or it dies of a length that no buffer has.
`Traffic.receive_steps` says that what the program does with bytes that arrive is a sequence of these
steps.
-/

namespace NotebookKernel.Dap

/-- A thread at work for the kernel. -/
structure Worker where
  task : Debugger.Request
  rest : LinkAct Unit

/-- A thread that begins to work. -/
def Worker.start (task : Debugger.Request) (c : Client) : Worker :=
  ⟨task, ((Client.answer task).run c).bind fun _ => .done ()⟩

/-- Something that happened at the connection. -/
inductive Occurrence where
  | exchanged (thread : Nat) (exchange : Exchange Link)
  /-- The reader took a message. -/
  | received (message : Json)
  /-- The reader ended. -/
  | ended
  /-- The reader died, and told nobody. -/
  | died

/-- The answers that do not depend on the connection: what comes of a write or a signal, and a wait
that has lasted too long. -/
def Link.Free : (r : Link.Request) → Link.Answer r → Prop
  | .write _, _ | .signal _, _ | .killServer, _ | .log _, _ => True
  | .awaitInTime _, .timedOut | .awaitEvent _, .timedOut => True
  | _, _ => False

/-- Threads, connection and reader at one moment. -/
structure Traffic where
  connection : Connection
  workers : Nat → Option Worker
  /-- What has happened, the latest first. -/
  history : List Occurrence

namespace Traffic

/-- Nothing was sent. -/
def initial : Traffic :=
  ⟨.fresh, fun _ => none, []⟩

/-- A thread has taken part in an exchange. -/
def exchanged (t : Traffic) (i : Nat) (task : Debugger.Request) (exchange : Exchange Link)
    (rest : LinkAct Unit) (connection : Connection) : Traffic where
  connection := connection
  workers := Function.update t.workers i (some ⟨task, rest⟩)
  history := .exchanged i exchange :: t.history

/-- The reader has ended, with some bytes left over. -/
def closed (t : Traffic) (unread : Bytes) : Traffic :=
  { t with
    connection := { t.connection with unread }.hangUp
    history := .ended :: t.history }

/-- The reader has died, with some bytes left over. -/
def dead (t : Traffic) (unread : Bytes) : Traffic :=
  { t with
    connection := { t.connection with unread }.die
    history := .died :: t.history }

/-- One of them does one thing; `may` says which tasks may begin. -/
inductive Step (may : Traffic → Debugger.Request → Prop) : Traffic → Traffic → Prop
  /-- A thread begins to work. -/
  | begin {t : Traffic} {i : Nat} (task : Debugger.Request) (c : Client) :
    t.workers i = none → may t task →
      Step may t { t with workers := Function.update t.workers i (some (.start task c)) }
  /-- The connection answers a thread. -/
  | answer {t : Traffic} {i : Nat} {task : Debugger.Request} {r : Link.Request}
      {next : Link.Answer r → LinkAct Unit} {answer : Link.Answer r} {connection : Connection} :
    t.workers i = some ⟨task, .ask r next⟩ →
      t.connection.answer? r = some (answer, connection) →
      Step may t (t.exchanged i task ⟨r, answer⟩ (next answer) connection)
  /-- A thread is answered from elsewhere. -/
  | free {t : Traffic} {i : Nat} {task : Debugger.Request} {r : Link.Request}
      {next : Link.Answer r → LinkAct Unit} {answer : Link.Answer r} :
    t.workers i = some ⟨task, .ask r next⟩ → Link.Free r answer →
      Step may t (t.exchanged i task ⟨r, answer⟩ (next answer) t.connection)
  /-- A thread has done its work. -/
  | finish {t : Traffic} {i : Nat} {task : Debugger.Request} :
    t.workers i = some ⟨task, .done ()⟩ →
      Step may t { t with workers := Function.update t.workers i none }
  /-- Bytes arrive. -/
  | arrive {t : Traffic} (bytes : Bytes) :
    t.connection.reading = true →
      Step may t { t with
        connection := { t.connection with unread := t.connection.unread ++ bytes } }
  /-- The reader takes a message. -/
  | read {t : Traffic} {ended : Bool} {message : Json} {unread : Bytes} :
    t.connection.reading = true → Frame.next ended t.connection.unread = .message message unread →
      Step may t { t with
        connection := ({ t.connection with unread }.deliver message).1
        history := .received message :: t.history }
  /-- The reader finds no message and ends. -/
  | fail {t : Traffic} {ended : Bool} {e : Error} {unread : Bytes} :
    t.connection.reading = true → Frame.next ended t.connection.unread = .failure e unread →
      Step may t (t.closed unread)
  /-- The reader finds a payload that no buffer holds and dies. -/
  | die {t : Traffic} {ended : Bool} {unread : Bytes} :
    t.connection.reading = true → Frame.next ended t.connection.unread = .overflow unread →
      Step may t (t.dead unread)
  /-- The stream fails. -/
  | break {t : Traffic} :
    t.connection.reading = true → Step may t (t.closed t.connection.unread)

/-- What may come to be, whatever tasks begin. -/
def Leads (t u : Traffic) : Prop :=
  Relation.ReflTransGen (Step fun _ _ => True) t u

/-- What may come to be from the first. -/
def Reachable (t : Traffic) : Prop :=
  initial.Leads t

/-- A target is launched only while no other is. -/
def Sole (t : Traffic) (task : Debugger.Request) : Prop :=
  task.launches = true → ∀ j w, t.workers j = some w → w.task.launches = false

/-- What may come to be while targets are launched one at a time, as the kernel does it. -/
def Orderly (t : Traffic) : Prop :=
  Relation.ReflTransGen (Step Sole) initial t

theorem Step.mono {may also : Traffic → Debugger.Request → Prop} {t u : Traffic}
    (weaker : ∀ t task, may t task → also t task) (step : Step may t u) : Step also t u := by
  cases step with
  | begin task c idle allowed => exact .begin task c idle (weaker _ _ allowed)
  | answer worker answered => exact .answer worker answered
  | free worker free => exact .free worker free
  | finish worker => exact .finish worker
  | arrive bytes reading => exact .arrive bytes reading
  | read reading found => exact .read reading found
  | fail reading found => exact .fail reading found
  | die reading found => exact .die reading found
  | «break» reading => exact .break reading

theorem Orderly.reachable {t : Traffic} (orderly : t.Orderly) : t.Reachable :=
  Relation.ReflTransGen.mono (fun _ _ step => step.mono fun _ _ _ => trivial) _ _ orderly

/-- Whatever happened did so by a step. -/
theorem moment {may : Traffic → Debugger.Request → Prop} {t : Traffic}
    (run : Relation.ReflTransGen (Step may) initial t) {o : Occurrence}
    {earlier : List Occurrence} (within : o :: earlier <:+ t.history) :
    ∃ u v : Traffic, Relation.ReflTransGen (Step may) initial u ∧ Step may u v ∧
      u.history = earlier ∧ v.history = o :: earlier := by
  induction run with
  | refl => cases List.suffix_nil.mp within
  | @tail t u before step ih =>
    have whole : u.history = t.history ∨ ∃ p, u.history = p :: t.history := by
      cases step with
      | begin | finish | arrive => exact .inl rfl
      | _ => exact .inr ⟨_, rfl⟩
    rcases whole with same | ⟨p, longer⟩
    · rw [same] at within
      exact ih within
    · rw [longer] at within
      rcases List.suffix_cons_iff.mp within with same | within
      · cases same
        exact ⟨t, u, before, step, rfl, longer⟩
      · exact ih within

theorem Orderly.moment {t : Traffic} (orderly : t.Orderly) {o : Occurrence}
    {earlier : List Occurrence} (within : o :: earlier <:+ t.history) :
    ∃ u v : Traffic, u.Orderly ∧ Step Sole u v ∧ u.history = earlier ∧
      v.history = o :: earlier :=
  Traffic.moment orderly within

/-- What has happened up to some moment is all that has happened in some state. -/
theorem Orderly.earlier {t : Traffic} (orderly : t.Orderly) {earlier : List Occurrence}
    (within : earlier <:+ t.history) : ∃ u : Traffic, u.Orderly ∧ u.history = earlier := by
  cases earlier with
  | nil => exact ⟨initial, .refl, rfl⟩
  | cons o earlier =>
    rcases orderly.moment within with ⟨u, v, before, step, -, same⟩
    exact ⟨v, before.tail step, same⟩

end Traffic

/-! ## What the reader does with a message -/

namespace Connection

/-- Two connections agree in all but output, events and process. -/
structure Agrees (c d : Connection) : Prop where
  nextSeq : d.nextSeq = c.nextSeq
  pending : d.pending = c.pending
  delivered : d.delivered = c.delivered
  listening : d.listening = c.listening
  reading : d.reading = c.reading

theorem Agrees.refl (c : Connection) : c.Agrees c :=
  ⟨rfl, rfl, rfl, rfl, rfl⟩

theorem keepEvent_agrees (c : Connection) (e : Event) : c.Agrees (c.keepEvent e) := by
  unfold keepEvent
  split <;> exact ⟨rfl, rfl, rfl, rfl, rfl⟩

theorem captureOutput_agrees (c : Connection) (body : Json) : c.Agrees (c.captureOutput body) := by
  unfold captureOutput
  split <;> exact ⟨rfl, rfl, rfl, rfl, rfl⟩

theorem deliverEvent_agrees (c : Connection) (e : Event) : c.Agrees (c.deliverEvent e).1 := by
  unfold deliverEvent
  split
  · exact c.captureOutput_agrees e.body
  · split
    · split
      · next n _ =>
        obtain ⟨nextSeq, pending, delivered, listening, reading⟩ :=
          keepEvent_agrees { c with debuggee := some (processNumber n) } e
        exact ⟨nextSeq, pending, delivered, listening, reading⟩
      · exact c.keepEvent_agrees e
    · split <;> exact c.keepEvent_agrees e

/-- A message changes nothing that requests depend on unless it answers an expected one. -/
theorem deliver_agrees {c : Connection} {message : Json}
    (unknown : ∀ r, Message.ofJson? message = some (.response r) →
      ∀ seq ∈ c.pending, (seq : Int) ≠ r.requestSeq) : c.Agrees (c.deliver message).1 := by
  unfold deliver
  split
  · next r found =>
    have nobody :
        (c.pending.find? fun (seq : Nat) => decide ((seq : Int) = r.requestSeq)) = none := by
      simpa using unknown r found
    rw [deliverResponse, nobody]
    exact .refl c
  · exact c.deliverEvent_agrees _
  · exact .refl c
  · exact .refl c

/-- A response to an expected request goes to that request, which is expected no longer. -/
theorem deliver_response {c : Connection} {message : Json} {r : Response} {seq : Nat}
    (response : Message.ofJson? message = some (.response r)) (mem : seq ∈ c.pending)
    (same : (seq : Int) = r.requestSeq) :
    (c.deliver message).1 =
      { c with pending := c.pending.erase seq, delivered := c.delivered ++ [(seq, r)] } := by
  have found : (c.pending.find? fun (n : Nat) => decide ((n : Int) = r.requestSeq)) = some seq := by
    cases search : c.pending.find? fun (n : Nat) => decide ((n : Int) = r.requestSeq) with
    | none => exact absurd same (by simpa using List.find?_eq_none.mp search seq mem)
    | some n =>
      have other : (n : Int) = r.requestSeq := by simpa using List.find?_some search
      rw [Int.ofNat.inj (other.trans same.symm)]
  rw [deliver, response]
  simp only [deliverResponse, found]

/-- No message ends the reader or the keeping of events. -/
theorem deliver_still (c : Connection) (message : Json) :
    (c.deliver message).1.reading = c.reading ∧
      (c.deliver message).1.listening = c.listening := by
  by_cases expected : ∃ r, Message.ofJson? message = some (.response r) ∧
      ∃ seq ∈ c.pending, (seq : Int) = r.requestSeq
  · rcases expected with ⟨r, response, seq, mem, same⟩
    rw [deliver_response response mem same]
    exact ⟨rfl, rfl⟩
  · have agrees : c.Agrees (c.deliver message).1 := by
      apply deliver_agrees
      intro r response seq mem same
      exact expected ⟨r, response, seq, mem, same⟩
    exact ⟨agrees.reading, agrees.listening⟩

end Connection

namespace Traffic

/-! ## The reader of the program -/

variable {may : Traffic → Debugger.Request → Prop}

/-- Taking messages until no more are there is a sequence of steps. -/
theorem readMessages_steps (ended : Bool) (fuel : Nat) {t : Traffic}
    (reading : t.connection.reading = true) :
    ∃ history, Relation.ReflTransGen (Step may) t { t with
      connection := (Connection.readMessages ended fuel t.connection).1
      history := history ++ t.history } := by
  induction fuel generalizing t with
  | zero => exact ⟨[], .refl⟩
  | succ fuel ih =>
    rw [Connection.readMessages]
    cases found : Frame.next ended t.connection.unread with
    | more n => exact ⟨[], .refl⟩
    | message j unread =>
      have step : Step may t _ := .read reading found
      have still : ({ t.connection with unread }.deliver j).1.reading = true := by
        rw [(Connection.deliver_still _ j).1]
        exact reading
      obtain ⟨history, rest⟩ := ih
        (t := ⟨({ t.connection with unread }.deliver j).1, t.workers, .received j :: t.history⟩)
        still
      refine ⟨history ++ [.received j], ?_⟩
      rw [List.append_assoc]
      exact .head step rest
    | failure e unread =>
      have step : Step may t _ := .fail reading found
      refine ⟨[.ended], ?_⟩
      cases e <;> exact .single step
    | overflow unread => exact ⟨[.died], .single (.die reading found)⟩

/-- So is what the program does with bytes that arrive. -/
theorem receive_steps (t : Traffic) (bytes : Bytes) (ended : Bool) :
    ∃ history, Relation.ReflTransGen (Step may) t { t with
      connection := (t.connection.receive bytes ended).1
      history := history ++ t.history } := by
  unfold Connection.receive
  by_cases reading : t.connection.reading = true
  · have arrived : Step may t _ := .arrive bytes reading
    obtain ⟨history, rest⟩ := readMessages_steps ended ((t.connection.unread ++ bytes).length + 1)
      (t := { t with connection := { t.connection with unread := t.connection.unread ++ bytes } })
      reading
    rw [if_pos reading]
    exact ⟨history, .head arrived rest⟩
  · rw [if_neg reading]
    exact ⟨[], .refl⟩

end Traffic
end NotebookKernel.Dap
