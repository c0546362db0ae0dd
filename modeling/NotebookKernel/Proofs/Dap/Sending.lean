import NotebookKernel.Dap.Client
import NotebookKernel.Proofs.Program.Conduct

/-!
How the client uses sequence numbers.

Whatever the client does for the kernel, it takes a fresh number for each request, expects a
response to it, writes exactly that number, withdraws the expectation if that fails and only then,
and waits for no response but those to requests of its own that it has written. `Sender` is what a
thread keeps track of for this, and `Sender.rules` is the promise; `Client.answer_keeps` says that
the client keeps it.
-/

namespace NotebookKernel

/-- The request starts a target. -/
def Debugger.Request.launches : Debugger.Request → Bool
  | .launch _ => true
  | _ => false

namespace Dap

/-- How far the request that is being sent has got. -/
inductive Progress where
  | allocated
  | expected
  /-- It could not be written. -/
  | failed
  deriving DecidableEq, Repr

/-- What a thread keeps track of. -/
structure Sender where
  /-- The number of the request that is being sent. -/
  sending : Option (Nat × Progress)
  /-- Numbers of requests that were written and whose response was not waited for. -/
  written : List Nat
  /-- Events are kept for it. -/
  listening : Bool

namespace Sender

/-- A thread that has sent nothing. -/
def idle : Sender :=
  ⟨none, [], false⟩

/-- What a thread may do; only a launch listens to events. -/
def Allows (launching : Bool) (h : Sender) : Link.Request → Prop
  | .allocate => h.sending = none
  | .expect seq => h.sending = some (seq, .allocated)
  | .write r => h.sending = some (r.seq, .expected)
  | .forget seq => h.sending = some (seq, .failed)
  | .await seq => h.sending = none ∧ seq ∈ h.written
  | .awaitInTime seq => h.sending = none ∧ seq ∈ h.written
  | .listen => h.sending = none ∧ h.listening = false ∧ launching = true
  | .unlisten => h.sending = none ∧ h.listening = true
  | .awaitEvent _ => h.sending = none ∧ h.listening = true
  | _ => h.sending = none

/-- What a thread keeps track of afterwards. -/
def after (h : Sender) : Exchange Link → Sender
  | ⟨.allocate, seq⟩ => { h with sending := some (seq, .allocated) }
  | ⟨.expect seq, _⟩ => { h with sending := some (seq, .expected) }
  | ⟨.write r, .ok _⟩ => { h with sending := none, written := r.seq :: h.written }
  | ⟨.write r, .error _⟩ => { h with sending := some (r.seq, .failed) }
  | ⟨.forget _, _⟩ => { h with sending := none }
  | ⟨.await seq, _⟩ => { h with written := h.written.erase seq }
  | ⟨.awaitInTime seq, _⟩ => { h with written := h.written.erase seq }
  | ⟨.listen, _⟩ => { h with listening := true }
  | ⟨.unlisten, _⟩ => { h with listening := false }
  | _ => h

/-- The promise of a thread. -/
def rules (launching : Bool) : Conduct Link Sender where
  allows h exchange := h.Allows launching exchange.request
  after := after

end Sender

namespace Client

variable {b : Bool} {h : Sender}

/-- After a request was sent, its response may be waited for. -/
theorem send_keeps (free : h.sending = none) (command : String) (arguments : Json) :
    (send command arguments).Keeps (Sender.rules b) h fun t result =>
      match result with
      | .ok seq => t = { h with written := seq :: h.written }
      | .error _ => t = h := by
  intro seq
  refine ⟨free, fun _ => ⟨rfl, fun written => ⟨rfl, ?_⟩⟩⟩
  cases written with
  | ok _ =>
    change { h with sending := none, written := seq :: h.written } =
      { h with written := seq :: h.written }
    rw [← free]
  | error e =>
    refine fun _ => ⟨rfl, ?_⟩
    change { h with sending := none } = h
    rw [← free]

/-- A request with its response leaves everything as it was. -/
theorem request_keeps (free : h.sending = none) (command : String) (arguments : Json) :
    (request command arguments).Keeps (Sender.rules b) h fun t _ => t = h := by
  refine (send_keeps free command arguments).bind fun t result sent => ?_
  cases result with
  | error e => exact sent
  | ok seq =>
    obtain rfl : t = _ := sent
    intro response
    refine ⟨⟨free, List.mem_cons_self⟩, ?_⟩
    have same : Sender.after { h with written := seq :: h.written } ⟨.await seq, response⟩ = h := by
      change { h with written := (seq :: h.written).erase seq } = h
      rw [List.erase_cons_head]
    cases response with
    | none => exact same
    | some r => exact same

theorem requestBody_keeps (free : h.sending = none) (command : String) (arguments : Json) :
    (requestBody command arguments).Keeps (Sender.rules b) h fun t _ => t = h := by
  refine (request_keeps free command arguments).bind ?_
  rintro _ result rfl
  cases result <;> rfl

/-! ## The operations of the client -/

/-- An act that leaves what the client remembers keeps what the act keeps. -/
theorem linked_keeps {α : Type} {act : LinkAct (Except Error α)} {c : Client}
    {P : Sender → Except Error α → Prop} (keeps : act.Keeps (Sender.rules b) h P) :
    ((linked act).run.run c).Keeps (Sender.rules b) h fun t result => P t result.1 :=
  Program.Keeps.bind keeps fun _ _ holds => holds

theorem innermostFrame_keeps (free : h.sending = none) (thread : ThreadId) :
    (innermostFrame thread).Keeps (Sender.rules b) h fun t _ => t = h := by
  refine (requestBody_keeps free _ _).bind ?_
  rintro _ result rfl
  cases result with
  | error e => rfl
  | ok body =>
    dsimp only
    split <;> rfl

theorem memoryAt_keeps (free : h.sending = none) (address length : Nat) :
    (memoryAt address length).Keeps (Sender.rules b) h fun t _ => t = h := by
  refine (requestBody_keeps free _ _).bind ?_
  rintro _ result rfl
  cases result <;> rfl

theorem frames_keeps (free : h.sending = none) (thread : ThreadId) :
    (frames thread).Keeps (Sender.rules b) h fun t _ => t = h := by
  refine (requestBody_keeps free _ _).bind ?_
  rintro _ result rfl
  cases result <;> rfl

theorem complete_keeps (free : h.sending = none) (c : Client) (code : String) :
    (c.complete code).Keeps (Sender.rules b) h fun t _ => t = h := by
  unfold complete
  cases c.launchedThread with
  | error e => rfl
  | ok thread =>
    refine (innermostFrame_keeps free thread).bind ?_
    rintro _ frame rfl
    cases frame with
    | error e => rfl
    | ok frame =>
      refine (requestBody_keeps free _ _).bind ?_
      rintro _ result rfl
      cases result <;> rfl

theorem terminate_keeps (free : h.sending = none) :
    terminate.Keeps (Sender.rules b) h fun t _ => t = h := by
  refine (requestBody_keeps free _ _).bind ?_
  rintro _ result rfl
  cases result with
  | error e => exact fun _ => ⟨free, fun _ => ⟨free, rfl⟩⟩
  | ok body => exact fun _ => ⟨free, rfl⟩

/-- A pause is sent, and nobody waits for the response. -/
theorem interrupt_keeps (free : h.sending = none) (c : Client) :
    c.interrupt.Keeps (Sender.rules b) h fun t _ =>
      t.sending = none ∧ t.listening = h.listening := by
  intro process
  refine ⟨free, ?_⟩
  cases process with
  | some process =>
    intro answer
    refine ⟨free, ?_⟩
    cases answer <;> exact ⟨free, rfl⟩
  | none =>
    obtain ⟨capabilities, mainThread, values⟩ := c
    cases mainThread with
    | none => exact ⟨free, rfl⟩
    | some thread =>
      refine (send_keeps free _ _).bind fun t result sent => ?_
      cases result with
      | error e =>
        obtain rfl : t = h := sent
        exact ⟨free, rfl⟩
      | ok seq =>
        obtain rfl : t = _ := sent
        exact ⟨free, rfl⟩

/-- What the client does without a lasting effect on the connection. -/
def Leaves {α : Type} (b : Bool) (h : Sender) (action : ClientAction α) : Prop :=
  ∀ c, (action.run.run c).Keeps (Sender.rules b) h fun t _ => t = h

theorem Leaves.bind {α β : Type} {action : ClientAction α} {f : α → ClientAction β}
    (leaves : Leaves b h action) (later : ∀ a, Leaves b h (f a)) : Leaves b h (action >>= f) := by
  intro c
  refine Layers.keeps_bind (leaves c) ?_ fun _ _ _ same => same
  rintro _ a u rfl
  exact later a u

theorem Leaves.linked {α : Type} {act : LinkAct (Except Error α)}
    (keeps : act.Keeps (Sender.rules b) h fun t _ => t = h) : Leaves b h (linked act) :=
  fun _ => linked_keeps keeps

theorem leaves_liftExcept {α : Type} (result : Except Error α) :
    Leaves b h (liftExcept result) := by
  intro c
  cases result <;> rfl

theorem leaves_modify (f : Client → Client) : Leaves b h (modify f) :=
  fun _ => rfl

theorem leaves_lookup (value : Handle) : Leaves b h (lookup value) :=
  Leaves.bind (fun _ => rfl) fun c => leaves_liftExcept (c.values.find value)

theorem leaves_evaluate (free : h.sending = none) (code : String) (options : RunOptions) :
    Leaves b h (evaluate code options) := by
  refine Leaves.bind (fun _ => rfl) fun _ => ?_
  refine Leaves.bind (fun _ => rfl) fun c => ?_
  refine Leaves.bind (leaves_liftExcept c.launchedThread) fun thread => ?_
  refine Leaves.bind (.linked (innermostFrame_keeps free thread)) fun frame => ?_
  refine Leaves.bind (.linked (request_keeps free _ _)) fun response => ?_
  cases meaningOf response with
  | valueless => exact fun _ => rfl
  | value entry => exact fun _ => rfl
  | failed entry => exact fun _ => rfl

theorem leaves_describe (value : Handle) : Leaves b h (describe value) :=
  Leaves.bind (leaves_lookup value) fun _ _ => rfl

theorem leaves_children (free : h.sending = none) (value : Handle) :
    Leaves b h (children value) := by
  refine Leaves.bind (leaves_lookup value) fun entry => ?_
  split
  · exact fun _ => rfl
  · exact Leaves.bind (.linked (requestBody_keeps free _ _)) fun _ _ => rfl

theorem leaves_member (free : h.sending = none) (value : Handle) (name : String) :
    Leaves b h (member value name) := by
  refine Leaves.bind (leaves_children free value) fun refs => ?_
  exact Leaves.bind (fun _ => rfl) fun c => leaves_liftExcept (firstNamed c.values name refs)

theorem leaves_storage (value : Handle) : Leaves b h (storage value) := by
  refine Leaves.bind (leaves_lookup value) fun entry => ?_
  cases scalarOf? entry <;> exact fun _ => rfl

/-! ## Launch -/

theorem awaitNamed_keeps (free : h.sending = none) (listening : h.listening = true)
    (name : String) : (awaitNamed name).Keeps (Sender.rules b) h fun t _ => t = h := by
  intro event
  refine ⟨⟨free, listening⟩, ?_⟩
  cases event with
  | timedOut => rfl
  | closed => rfl
  | arrived e =>
    change Program.Keeps _ (if e.name = name then _ else _) _ _
    split <;> rfl

theorem setEntryBreakpoint_keeps (free : h.sending = none) (entry : String) :
    (setEntryBreakpoint entry).Keeps (Sender.rules b) h fun t _ => t = h := by
  refine (requestBody_keeps free _ _).bind ?_
  rintro _ result rfl
  cases result with
  | error e => rfl
  | ok body =>
    dsimp only
    cases isVerified body with
    | true => rfl
    | false => exact fun _ => ⟨free, rfl⟩

theorem finishLaunch_keeps (free : h.sending = none) {seq : Nat} (mem : seq ∈ h.written) :
    (finishLaunch seq).Keeps (Sender.rules b) h fun t _ =>
      t.sending = none ∧ t.listening = h.listening := by
  intro response
  refine ⟨⟨free, mem⟩, ?_⟩
  cases response with
  | timedOut => exact ⟨free, rfl⟩
  | closed => exact ⟨free, rfl⟩
  | arrived r => exact ⟨free, rfl⟩

/-- What holds of a sender whose launch goes on. -/
def Launching (h : Sender) : Prop :=
  h.sending = none ∧ h.listening = true

/-- A launch goes on after a step without a lasting effect. -/
theorem Launching.bind {α β : Type} (launching : Launching h) {action : ClientAction α}
    {f : α → ClientAction β} (leaves : Leaves b h action)
    (later : ∀ a c, ((f a).run.run c).Keeps (Sender.rules b) h fun t _ => Launching t)
    (c : Client) :
    ((action >>= f).run.run c).Keeps (Sender.rules b) h fun t _ => Launching t := by
  refine Layers.keeps_bind (leaves c) ?_ ?_
  · rintro _ a u rfl
    exact later a u
  · rintro _ _ _ rfl
    exact launching

/-- The launch request is written first and its response waited for last. -/
theorem handshake_keeps (launching : Launching h) (plan : LaunchPlan) (c : Client) :
    ((handshake plan).run.run c).Keeps (Sender.rules b) h fun t _ => Launching t := by
  have ⟨free, listening⟩ := launching
  refine launching.bind (.linked (requestBody_keeps free _ _)) (fun capabilities c => ?_) c
  refine launching.bind (leaves_modify _) (fun _ c => ?_) c
  refine Layers.keeps_bind (linked_keeps (send_keeps free _ _)) ?_ ?_
  rotate_left
  · intro t e c sent
    obtain rfl : t = h := sent
    exact launching
  intro t launched c sent
  obtain rfl : t = { h with written := launched :: h.written } := sent
  have sending : Launching { h with written := launched :: h.written } := launching
  refine sending.bind (.linked (awaitNamed_keeps sending.1 sending.2 _)) (fun _ c => ?_) c
  -- what follows a step that only a launch with an entry breakpoint makes
  extract_lets named configured
  have named_keeps : ∀ {t : Sender}, Launching t → ∀ c,
      ((named ()).run.run c).Keeps (Sender.rules b) t fun u _ => Launching u := by
    intro t launching c
    refine launching.bind (.linked (requestBody_keeps launching.1 _ _)) (fun threads c => ?_) c
    refine (leaves_liftExcept (firstThread threads) c).imp ?_
    rintro _ _ rfl
    exact launching
  have configured_keeps : ∀ c, ((configured ()).run.run c).Keeps (Sender.rules b)
      { h with written := launched :: h.written } fun u _ => Launching u := by
    intro c
    refine sending.bind (.linked (requestBody_keeps sending.1 _ _)) (fun _ c => ?_) c
    refine Layers.keeps_bind (linked_keeps (finishLaunch_keeps sending.1 List.mem_cons_self)) ?_ ?_
    rotate_left
    · rintro t e c ⟨free, same⟩
      exact ⟨free, same.trans listening⟩
    rintro t _ c ⟨free, same⟩
    have launching : Launching t := ⟨free, same.trans listening⟩
    cases plan.entryBreakpoint with
    | none => exact named_keeps launching c
    | some entry =>
      exact launching.bind (.linked (awaitNamed_keeps launching.1 launching.2 _))
        (fun _ c => named_keeps launching c) c
  cases plan.entryBreakpoint with
  | none => exact configured_keeps c
  | some entry =>
    exact sending.bind (.linked (setEntryBreakpoint_keeps sending.1 entry))
      (fun _ c => configured_keeps c) c

/-- Events are kept while a launch lasts. -/
theorem launch_keeps (free : h.sending = none) (resting : h.listening = false)
    (plan : LaunchPlan) (c : Client) :
    ((launch plan).run.run c).Keeps (Sender.rules true) h fun t _ =>
      t.sending = none ∧ t.listening = false := by
  have listened : ((linked (Except.ok <$> link .listen)).run.run c).Keeps (Sender.rules true) h
      fun t result => t = { h with listening := true } ∧ result.1 = .ok () :=
    fun _ => ⟨⟨free, resting, rfl⟩, rfl, rfl⟩
  refine Layers.keeps_bind listened ?_ fun _ _ _ failed => nomatch failed.2
  rintro _ _ c ⟨rfl, -⟩
  have launching : Launching { h with listening := true } := ⟨free, rfl⟩
  have shaken : ((ExceptT.mk ((Except.ok <$> ·) (handshake plan).run) :
      ClientAction (Except Error ThreadId)).run.run c).Keeps (Sender.rules true)
      { h with listening := true }
      fun t result => Launching t ∧ ∃ outcome, result.1 = .ok outcome :=
    Program.Keeps.bind (handshake_keeps launching plan c)
      fun _ result holds => ⟨holds, result.1, rfl⟩
  refine Layers.keeps_bind shaken ?_ fun _ _ _ failed => nomatch failed.2.choose_spec
  rintro t result c ⟨⟨free, listening⟩, -⟩
  have unlistened : ((linked (Except.ok <$> link .unlisten)).run.run c).Keeps (Sender.rules true) t
      fun u result => u = { t with listening := false } ∧ result.1 = .ok () :=
    fun _ => ⟨⟨free, listening⟩, rfl, rfl⟩
  refine Layers.keeps_bind unlistened ?_ fun _ _ _ failed => nomatch failed.2
  rintro _ _ c ⟨rfl, -⟩
  refine (Leaves.bind (leaves_liftExcept result) (fun thread => ?_) c).imp ?_
  · exact fun _ => rfl
  · rintro _ _ rfl
    exact ⟨free, rfl⟩

/-- Whatever the kernel asks of the client, the client keeps the promise, and no event is kept for
it in the end. -/
theorem answer_keeps (free : h.sending = none) (resting : h.listening = false)
    (r : Debugger.Request) (c : Client) :
    ((answer r).run c).Keeps (Sender.rules r.launches) h fun t _ =>
      t.sending = none ∧ t.listening = false := by
  have unchanged : ∀ {α : Type} {p : LinkAct α},
      p.Keeps (Sender.rules r.launches) h (fun t _ => t = h) →
      p.Keeps (Sender.rules r.launches) h fun t _ => t.sending = none ∧ t.listening = false :=
    fun keeps => keeps.imp fun _ _ same => same ▸ ⟨free, resting⟩
  have kept : ∀ {α : Type} {act : Client → LinkAct α},
      (act c).Keeps (Sender.rules r.launches) h
        (fun t _ => t.sending = none ∧ t.listening = false) →
      ((keep act).run c).Keeps (Sender.rules r.launches) h
        fun t _ => t.sending = none ∧ t.listening = false :=
    fun keeps => keeps.bind fun _ _ holds => holds
  cases r with
  | launch plan => exact launch_keeps free resting plan c
  | evaluate code options => exact unchanged (leaves_evaluate free code options c)
  | describe value => exact unchanged (leaves_describe value c)
  | children value => exact unchanged (leaves_children free value c)
  | member value name => exact unchanged (leaves_member free value name c)
  | storage value => exact unchanged (leaves_storage value c)
  | memoryAt address length => exact kept (unchanged (memoryAt_keeps free address length))
  | takeOutput limit => exact kept fun _ => ⟨free, free, resting⟩
  | unreadOutput => exact kept fun _ => ⟨free, free, resting⟩
  | frames thread => exact kept (unchanged (frames_keeps free thread))
  | interrupt =>
    exact kept ((interrupt_keeps free c).imp fun _ _ holds => ⟨holds.1, holds.2.trans resting⟩)
  | canComplete => exact ⟨free, resting⟩
  | complete language code => exact kept (unchanged (complete_keeps free c code))
  | terminate => exact kept (unchanged (terminate_keeps free))

end Client
end Dap
end NotebookKernel
