import NotebookKernel.Proofs.Dap.Framing

/-!
Messages that may arrive.

Every response whose number fits and every event is what some message stands for, and a message that
crosses the stream unchanged may arrive at any moment while the reader reads. So whatever is said of
all responses and events that are received is said of all that a debugger may send.
-/

namespace NotebookKernel.Dap

/-! ## Messages for responses and events -/

/-- A response as JSON. -/
def Response.toJson (r : Response) : Json :=
  .obj [("body", r.body), ("command", .str r.command), ("message", .ofText? r.message),
    ("request_seq", .int r.requestSeq), ("success", .bool r.success), ("type", .str "response")]

/-- An event as JSON. -/
def Event.toJson (e : Event) : Json :=
  .obj [("body", e.body), ("event", .str e.name), ("type", .str "event")]

namespace Message

theorem optionalText?_ofText? (text : Option String) :
    optionalText? (some (.ofText? text)) = some text := by
  cases text <;> rfl

theorem ofJson?_response {r : Response} (low : -Int.pow 2 63 ≤ r.requestSeq)
    (high : r.requestSeq < Int.pow 2 63) : ofJson? r.toJson = some (.response r) := by
  have fits : (Json.int r.requestSeq).int64? = some r.requestSeq := if_pos ⟨low, high⟩
  simp [ofJson?, Response.toJson, Json.untag?, Json.field?, responseOf?, Json.recordFields?, fits,
    optionalText?_ofText?]

theorem ofJson?_event (e : Event) : ofJson? e.toJson = some (.event e) := by
  simp [ofJson?, Event.toJson, Json.untag?, Json.field?, eventOf?, Json.recordFields?]

end Message

/-! ## Arrivals -/

namespace Traffic

variable {may : Traffic → Debugger.Request → Prop} {t : Traffic}

/-- Some bytes have arrived. -/
def arrived (t : Traffic) (bytes : Bytes) : Traffic :=
  { t with connection := { t.connection with unread := t.connection.unread ++ bytes } }

/-- The reader has taken a message. -/
def told (t : Traffic) (message : Json) : Traffic where
  connection := (t.connection.deliver message).1
  workers := t.workers
  history := .received message :: t.history

/-- The frame of a message may arrive, and then the reader may take the message. -/
theorem tells {message : Json} (reading : t.connection.reading = true)
    (nothing : t.connection.unread = []) (faithful : Frame.Faithful message) :
    Step may t (t.arrived (Frame.encode message)) ∧
      Step may (t.arrived (Frame.encode message)) (t.told message) := by
  have found : Frame.next false (t.arrived (Frame.encode message)).connection.unread =
      .message message [] := by
    have alone := Frame.next_encode false faithful []
    rw [List.append_nil] at alone
    change Frame.next false (t.connection.unread ++ Frame.encode message) = _
    rw [nothing]
    exact alone
  refine ⟨.arrive _ reading, ?_⟩
  have step : Step may (t.arrived (Frame.encode message)) _ := .read reading found
  have same : { (t.arrived (Frame.encode message)).connection with unread := [] } =
      t.connection := by
    rw [← nothing]
    rfl
  rw [same] at step
  exact step

/-- A response to a request that is expected goes to that request. -/
theorem told_response {r : Response} {seq : Nat} (low : -Int.pow 2 63 ≤ r.requestSeq)
    (high : r.requestSeq < Int.pow 2 63) (pending : seq ∈ t.connection.pending)
    (number : (seq : Int) = r.requestSeq) :
    t.told r.toJson = { t with
      connection := { t.connection with
        pending := t.connection.pending.erase seq
        delivered := t.connection.delivered ++ [(seq, r)] }
      history := .received r.toJson :: t.history } := by
  unfold told
  rw [Connection.deliver_response (Message.ofJson?_response low high) pending number]

theorem told_event (e : Event) :
    t.told e.toJson = { t with
      connection := (t.connection.deliverEvent e).1
      history := .received e.toJson :: t.history } := by
  unfold told Connection.deliver
  rw [Message.ofJson?_event]

/-- An event is kept for those who listen, unless it is output or tells the process. -/
theorem deliverEvent_kept {c : Connection} {e : Event} (listening : c.listening = true)
    (output : e.name ≠ "output") (process : e.name ≠ "process") :
    (c.deliverEvent e).1 = { c with events := c.events ++ [e] } := by
  have kept : c.keepEvent e = { c with events := c.events ++ [e] } := if_pos listening
  unfold Connection.deliverEvent
  rw [if_neg output, if_neg process, kept]
  split <;> rfl

section Runs

variable {s : Traffic} (run : Relation.ReflTransGen (Step may) s t)
  (reading : t.connection.reading = true) (nothing : t.connection.unread = [])
include run reading nothing

/-- The response to a request that is expected may come next. -/
theorem responded {r : Response} {n : Nat} (low : -Int.pow 2 63 ≤ r.requestSeq)
    (high : r.requestSeq < Int.pow 2 63) (pending : n ∈ t.connection.pending)
    (number : (n : Int) = r.requestSeq) (faithful : Frame.Faithful r.toJson) :
    Relation.ReflTransGen (Step may) s { t with
      connection := { t.connection with
        pending := t.connection.pending.erase n
        delivered := t.connection.delivered ++ [(n, r)] }
      history := .received r.toJson :: t.history } := by
  have ⟨arrives, told⟩ : Step may t _ ∧ Step may _ _ := tells reading nothing faithful
  rw [told_response low high pending number] at told
  exact (run.tail arrives).tail told

/-- So may an event that is kept. -/
theorem reported {e : Event} (listening : t.connection.listening = true)
    (output : e.name ≠ "output") (process : e.name ≠ "process")
    (faithful : Frame.Faithful e.toJson) :
    Relation.ReflTransGen (Step may) s { t with
      connection := { t.connection with events := t.connection.events ++ [e] }
      history := .received e.toJson :: t.history } := by
  have ⟨arrives, told⟩ : Step may t _ ∧ Step may _ _ := tells reading nothing faithful
  rw [told_event, deliverEvent_kept listening output process] at told
  exact (run.tail arrives).tail told

end Runs

end Traffic

end NotebookKernel.Dap
