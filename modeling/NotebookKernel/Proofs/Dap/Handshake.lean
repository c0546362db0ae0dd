import Mathlib.Data.List.Basic
import NotebookKernel.Proofs.Dap.Hearing

/-!
The handshake of a launch, as the client makes it.

What a launch has done so far is the log of its exchanges. `Going` says of a log that all went well,
and `launchRules` is the promise of a launch: it writes a request only when all went well and it is
the turn of that request, and once something went wrong it asks for nothing more.
`Client.launch_makes` says that a launch keeps the promise, and what its result tells of its log.
-/

namespace NotebookKernel.Dap

/-! ## The protocol -/

/-- The commands of a launch, in order. -/
def protocol (plan : LaunchPlan) : List String :=
  ["initialize", "launch"] ++
    (if plan.entryBreakpoint.isSome then ["setFunctionBreakpoints"] else []) ++
      ["configurationDone", "threads"]

/-- The events that have come when a request of a launch is written. -/
def eventsBefore (plan : LaunchPlan) (command : String) : List String :=
  if command = "initialize" ∨ command = "launch" then []
  else if command = "threads" ∧ plan.entryBreakpoint.isSome then ["initialized", "stopped"]
  else ["initialized"]

/-- What a failed response is to a launch. -/
def refusal (command : String) (response : Response) : Error :=
  if command = "launch" then .launch response.failureText
  else .request command response.failureText

/-- What an event by which the target is gone is to a launch that waits for another one. -/
def departure (name : String) (e : Event) : Error :=
  .launch ("target " ++ e.name ++ " while waiting for `" ++ name ++ "`")

/-! ## What an exchange tells -/

/-- The request that an exchange writes. -/
def written? : Exchange Link → Option Request
  | ⟨.write r, .ok _⟩ => some r
  | _ => none

/-- The response that an exchange fetches, with the number of its request. -/
def fetched? : Exchange Link → Option (Nat × Response)
  | ⟨.await seq, some r⟩ => some (seq, r)
  | ⟨.awaitInTime seq, .arrived r⟩ => some (seq, r)
  | _ => none

/-- The number of a request whose response cannot come any more. -/
def lost? : Exchange Link → Option Nat
  | ⟨.await seq, none⟩ => some seq
  | ⟨.awaitInTime seq, .closed⟩ => some seq
  | _ => none

/-- The error that comes of a request that could not be written, or a wait without an answer. -/
def failure? : Exchange Link → Option Error
  | ⟨.write _, .error e⟩ => some e
  | ⟨.await _, none⟩ => some .disconnected
  | ⟨.awaitInTime _, .timedOut⟩ => some (.timeout "launch response")
  | ⟨.awaitInTime _, .closed⟩ => some .disconnected
  | ⟨.awaitEvent name, .timedOut⟩ => some (.timeout name)
  | ⟨.awaitEvent _, .closed⟩ => some .disconnected
  | _ => none

theorem filterMap_concat {α β : Type} (f : α → Option β) (log : List α) (x : α) :
    (log ++ [x]).filterMap f = log.filterMap f ++ (f x).toList := by
  rw [List.filterMap_append]
  cases found : f x <;> simp [found]

/-! ## How a launch goes -/

namespace Launch

/-- All went well so far: these requests were written, these events were waited for, and each
request was answered but those whose response is still to be waited for. -/
structure Going (log : List (Exchange Link)) (commands events : List String)
    (waiting : List Request) : Prop where
  well : log.filterMap failure? = []
  commands : (log.filterMap written?).map (·.command) = commands
  events : (log.filterMap herald?).map (·.1) = events
  successes : ∀ p ∈ log.filterMap fetched?, p.2.success = true
  heralds : ∀ p ∈ log.filterMap herald?, p.2.name = p.1
  expected : ∀ r ∈ log.filterMap written?, ⟨.expect r.seq, ()⟩ ∈ log
  answered : ∀ r ∈ log.filterMap written?,
    r ∈ waiting ∨ ∃ response, (r.seq, response) ∈ log.filterMap fetched?
  waiting : ∀ r ∈ waiting, r ∈ log.filterMap written?

/-- It is the turn of a request when those before it were answered, but perhaps that for the launch,
whose response is there only when the configuration is done. -/
structure Turn (plan : LaunchPlan) (commands events : List String) (waiting : List Request)
    (command : String) : Prop where
  next : commands ++ [command] <+: protocol plan
  events : events = eventsBefore plan command
  launching : ∀ r ∈ waiting, r.command = "launch"
  last : command = "threads" → waiting = []

/-- The debugger has told the threads, and this is what the first one is. -/
def Lists (log : List (Exchange Link)) (result : Except Error ThreadId) : Prop :=
  ∃ r ∈ log.filterMap written?, r.command = "threads" ∧
    ∃ response, (r.seq, response) ∈ log.filterMap fetched? ∧ response.success = true ∧
      Client.firstThread response.body = result

/-- One thing went wrong. -/
inductive Fails (plan : LaunchPlan) (log : List (Exchange Link)) : Error → Prop
  /-- Before the last request, one could not be written or a wait ended without an answer. -/
  | failed {x : Exchange Link} {e : Error} : x ∈ log → failure? x = some e → lost? x = none →
    "threads" ∉ (log.filterMap written?).map (·.command) →
      (∀ p ∈ log.filterMap fetched?, p.2.success = true) → Fails plan log e
  /-- A response cannot come any more. -/
  | lost {x : Exchange Link} {r : Request} : x ∈ log → lost? x = some r.seq →
    r ∈ log.filterMap written? → ⟨.expect r.seq, ()⟩ ∈ log →
      (∀ p ∈ log.filterMap fetched?, p.2.success = true) → Fails plan log .disconnected
  /-- A response is a failure. -/
  | refused {r : Request} {response : Response} : r ∈ log.filterMap written? →
    ⟨.expect r.seq, ()⟩ ∈ log → (r.seq, response) ∈ log.filterMap fetched? →
      response.success = false →
        (∀ p ∈ log.filterMap fetched?, p = (r.seq, response) ∨ p.2.success = true) →
          Fails plan log (refusal r.command response)
  /-- The target is gone before an event that was waited for. -/
  | gone {waits : List (String × Event)} {name : String} {e : Event} :
    log.filterMap herald? = waits ++ [(name, e)] → (∀ p ∈ waits, p.2.name = p.1) →
      waits.map (·.1) ++ [name] <+: eventsBefore plan "threads" → e.name ≠ name →
        "threads" ∉ (log.filterMap written?).map (·.command) →
          (∀ p ∈ log.filterMap fetched?, p.2.success = true) → Fails plan log (departure name e)
  /-- No thread is told. -/
  | threadless {e : Error} : Lists log (.error e) →
    (∀ r ∈ log.filterMap written?, ⟨.expect r.seq, ()⟩ ∈ log) →
      (∀ p ∈ log.filterMap fetched?, p.2.success = true) → Fails plan log e

/-- What holds of the outcome, unless something went wrong. -/
def Unless {α : Type} (plan : LaunchPlan) (P : List (Exchange Link) → α → Prop)
    (log : List (Exchange Link)) : Except Error α → Prop
  | .ok x => P log x
  | .error e => Fails plan log e

/-- The whole protocol was gone through, and this is the thread that was told. -/
def Settles (plan : LaunchPlan) (log : List (Exchange Link)) (thread : ThreadId) : Prop :=
  Going log (protocol plan) (eventsBefore plan "threads") [] ∧ Lists log (.ok thread)

section Going

variable {plan : LaunchPlan} {log : List (Exchange Link)} {commands events : List String}
  {waiting : List Request} {n : Nat} {command name : String} {r : Request} {response : Response}
  {e : Event} {x : Exchange Link}

/-- The request for the threads is the last. -/
theorem Turn.early (turn : Turn plan commands events waiting command) : "threads" ∉ commands := by
  have last : ∃ front, protocol plan = front ++ ["threads"] ∧ "threads" ∉ front := by
    unfold protocol
    cases plan.entryBreakpoint with
    | none => exact ⟨["initialize", "launch", "configurationDone"], rfl, by decide⟩
    | some entry =>
      exact ⟨["initialize", "launch", "setFunctionBreakpoints", "configurationDone"], rfl,
        by decide⟩
  rcases last with ⟨front, whole, early⟩
  have next := turn.next
  rw [whole, List.prefix_concat_iff] at next
  have within : commands <+: front := by
    rcases next with same | next
    · exact (List.append_inj' same rfl).1 ▸ List.prefix_rfl
    · exact (List.prefix_append commands [command]).trans next
  exact fun mem => early (within.subset mem)

theorem of_fetched? {p : Nat × Response} (fetches : fetched? x = some p) :
    written? x = none ∧ herald? x = none ∧ failure? x = none := by
  unfold fetched? at fetches
  split at fetches
  · exact ⟨rfl, rfl, rfl⟩
  · exact ⟨rfl, rfl, rfl⟩
  · cases fetches

/-- An exchange that tells nothing changes nothing. -/
theorem Going.quiet (going : Going log commands events waiting) (unwritten : written? x = none)
    (unfetched : fetched? x = none) (unheard : herald? x = none) (well : failure? x = none) :
    Going (log ++ [x]) commands events waiting := by
  refine ⟨?_, ?_, ?_, ?_, ?_, ?_, ?_, ?_⟩
  all_goals
    simp only [filterMap_concat, unwritten, unfetched, unheard, well, Option.toList_none,
      List.append_nil]
  · exact going.well
  · exact going.commands
  · exact going.events
  · exact going.successes
  · exact going.heralds
  · exact fun r mem => List.mem_append_left _ (going.expected r mem)
  · exact going.answered
  · exact going.waiting

/-- A request was written. -/
theorem Going.sent (going : Going log commands events waiting)
    (expected : ⟨.expect r.seq, ()⟩ ∈ log) :
    Going (log ++ [⟨.write r, .ok ()⟩]) (commands ++ [r.command]) events (r :: waiting) := by
  refine ⟨?_, ?_, ?_, ?_, ?_, ?_, ?_, ?_⟩
  all_goals
    simp only [filterMap_concat, written?, fetched?, herald?, failure?, Option.toList_none,
      Option.toList_some, List.append_nil]
  · exact going.well
  · rw [List.map_append, going.commands]
    rfl
  · exact going.events
  · exact going.successes
  · exact going.heralds
  · refine List.forall_mem_append.mpr ⟨fun q mem => ?_, List.forall_mem_singleton.mpr ?_⟩
    · exact List.mem_append_left _ (going.expected q mem)
    · exact List.mem_append_left _ expected
  · refine List.forall_mem_append.mpr ⟨fun q mem => ?_, List.forall_mem_singleton.mpr ?_⟩
    · exact (going.answered q mem).imp_left (List.mem_cons_of_mem r)
    · exact .inl List.mem_cons_self
  · refine List.forall_mem_cons.mpr ⟨?_, fun q mem => ?_⟩
    · exact List.mem_append_right _ (List.mem_singleton_self r)
    · exact List.mem_append_left _ (going.waiting q mem)

/-- A request was answered well. -/
theorem Going.fetched (going : Going log commands events (r :: waiting))
    (fetches : fetched? x = some (r.seq, response)) (success : response.success = true) :
    Going (log ++ [x]) commands events waiting := by
  rcases of_fetched? fetches with ⟨unwritten, unheard, well⟩
  refine ⟨?_, ?_, ?_, ?_, ?_, ?_, ?_, ?_⟩
  all_goals
    simp only [filterMap_concat, unwritten, fetches, unheard, well, Option.toList_none,
      Option.toList_some, List.append_nil]
  · exact going.well
  · exact going.commands
  · exact going.events
  · exact List.forall_mem_append.mpr ⟨going.successes, List.forall_mem_singleton.mpr success⟩
  · exact going.heralds
  · exact fun q mem => List.mem_append_left _ (going.expected q mem)
  · intro q mem
    rcases going.answered q mem with waits | ⟨other, fetched⟩
    · rcases List.mem_cons.mp waits with rfl | waits
      · exact .inr ⟨response, List.mem_append_right _ (List.mem_singleton_self _)⟩
      · exact .inl waits
    · exact .inr ⟨other, List.mem_append_left _ fetched⟩
  · exact fun q mem => going.waiting q (List.mem_cons_of_mem r mem)

/-- It was refused. -/
theorem Going.refused (going : Going log commands events (r :: waiting))
    (fetches : fetched? x = some (r.seq, response)) (failure : response.success = false) :
    Fails plan (log ++ [x]) (refusal r.command response) := by
  have written := going.waiting r List.mem_cons_self
  refine .refused (r := r) ?_ ?_ ?_ failure ?_
  · rw [List.filterMap_append]
    exact List.mem_append_left _ written
  · exact List.mem_append_left _ (going.expected r written)
  · rw [filterMap_concat, fetches]
    exact List.mem_append_right _ (List.mem_singleton_self _)
  · rw [filterMap_concat, fetches]
    refine List.forall_mem_append.mpr ⟨fun p mem => .inr (going.successes p mem), ?_⟩
    exact List.forall_mem_singleton.mpr (.inl rfl)

/-- Its response cannot come any more. -/
theorem Going.lost (going : Going log commands events (r :: waiting))
    (unfetched : fetched? x = none) (lost : lost? x = some r.seq) :
    Fails plan (log ++ [x]) .disconnected := by
  have written := going.waiting r List.mem_cons_self
  refine .lost (List.mem_append_right _ (List.mem_singleton_self x)) lost ?_ ?_ ?_
  · rw [List.filterMap_append]
    exact List.mem_append_left _ written
  · exact List.mem_append_left _ (going.expected r written)
  · rw [filterMap_concat, unfetched, Option.toList_none, List.append_nil]
    exact going.successes

/-- A request could not be written, or a wait ended without an answer. -/
theorem Going.failed (going : Going log commands events waiting) (early : "threads" ∉ commands)
    (unwritten : written? x = none) (unfetched : fetched? x = none) (unlost : lost? x = none)
    {e : Error} (failure : failure? x = some e) : Fails plan (log ++ [x]) e := by
  refine .failed (List.mem_append_right _ (List.mem_singleton_self x)) failure unlost ?_ ?_
  · rw [filterMap_concat, unwritten, Option.toList_none, List.append_nil, going.commands]
    exact early
  · rw [filterMap_concat, unfetched, Option.toList_none, List.append_nil]
    exact going.successes

/-- An event came that was waited for. -/
theorem Going.heard (going : Going log commands events waiting) (named : e.name = name) :
    Going (log ++ [⟨.awaitEvent name, .arrived e⟩]) commands (events ++ [name]) waiting := by
  refine ⟨?_, ?_, ?_, ?_, ?_, ?_, ?_, ?_⟩
  all_goals
    simp only [filterMap_concat, written?, fetched?, herald?, failure?, Option.toList_none,
      Option.toList_some, List.append_nil]
  · exact going.well
  · exact going.commands
  · rw [List.map_append, going.events]
    rfl
  · exact going.successes
  · exact List.forall_mem_append.mpr ⟨going.heralds, List.forall_mem_singleton.mpr named⟩
  · exact fun q mem => List.mem_append_left _ (going.expected q mem)
  · exact going.answered
  · exact going.waiting

/-- Another one came, by which the target is gone. -/
theorem Going.gone (going : Going log commands events waiting) (early : "threads" ∉ commands)
    (awaited : events ++ [name] <+: eventsBefore plan "threads") (other : e.name ≠ name) :
    Fails plan (log ++ [⟨.awaitEvent name, .arrived e⟩]) (departure name e) := by
  refine .gone (filterMap_concat ..) going.heralds ?_ other ?_ ?_
  · rw [going.events]
    exact awaited
  · simp only [filterMap_concat, written?, Option.toList_none, List.append_nil, going.commands]
    exact early
  · simp only [filterMap_concat, fetched?, Option.toList_none, List.append_nil]
    exact going.successes

/-- What went wrong is not undone. -/
theorem Fails.quiet {e : Error} (fails : Fails plan log e) (unwritten : written? x = none)
    (unfetched : fetched? x = none) (unheard : herald? x = none) : Fails plan (log ++ [x]) e := by
  have same : (log ++ [x]).filterMap written? = log.filterMap written? ∧
      (log ++ [x]).filterMap fetched? = log.filterMap fetched? ∧
        (log ++ [x]).filterMap herald? = log.filterMap herald? := by
    simp only [filterMap_concat, unwritten, unfetched, unheard, Option.toList_none, List.append_nil,
      and_self]
  rcases same with ⟨written, fetched, heralds⟩
  have more : ∀ {y}, y ∈ log → y ∈ log ++ [x] := fun mem => List.mem_append_left _ mem
  cases fails with
  | failed mem failure unlost early successes =>
    rw [← written] at early
    rw [← fetched] at successes
    exact .failed (more mem) failure unlost early successes
  | lost mem lost sent expected successes =>
    rw [← written] at sent
    rw [← fetched] at successes
    exact .lost (more mem) lost sent (more expected) successes
  | refused sent expected fetches failure others =>
    rw [← written] at sent
    rw [← fetched] at fetches others
    exact .refused sent (more expected) fetches failure others
  | gone waits heralded awaited other early successes =>
    rw [← heralds] at waits
    rw [← written] at early
    rw [← fetched] at successes
    exact .gone waits heralded awaited other early successes
  | threadless lists expected successes =>
    unfold Lists at lists
    rw [← written, ← fetched] at lists
    rw [← written] at expected
    rw [← fetched] at successes
    exact .threadless lists (fun r mem => more (expected r mem)) successes

end Going

end Launch

open Launch

/-- The promise of a launch: it listens first, it asks for more only while all goes well, and it
writes a request only when it is its turn. A request that could not be written is forgotten. -/
def launchRules (plan : LaunchPlan) : Conduct Link (List (Exchange Link)) where
  allows log exchange :=
    match exchange.request with
    | .listen => log = []
    | .unlisten => True
    | .forget _ => ∃ front r e, log = front ++ [⟨.write r, .error e⟩]
    | .write r => ∃ commands events waiting, Going log commands events waiting ∧
        Turn plan commands events waiting r.command
    | _ => ∃ commands events waiting, Going log commands events waiting
  after log exchange := log ++ [exchange]

namespace Client

variable {plan : LaunchPlan} {log : List (Exchange Link)} {commands events : List String}
  {waiting : List Request} {command : String} {arguments : Json} {c : Client}

/-- A request is sent when it is its turn. -/
theorem send_going (going : Going log commands events waiting)
    (turn : Turn plan commands events waiting command) :
    (send command arguments).Keeps (launchRules plan) log <| Unless plan fun now n =>
      Going now (commands ++ [command]) events (⟨n, command, arguments⟩ :: waiting) := by
  intro n
  have allocated := going.quiet (x := ⟨.allocate, n⟩) rfl rfl rfl rfl
  refine ⟨⟨_, _, _, going⟩, fun _ => ?_⟩
  have expecting := allocated.quiet (x := ⟨.expect n, ()⟩) rfl rfl rfl rfl
  refine ⟨⟨_, _, _, allocated⟩, fun answer => ⟨⟨_, _, _, expecting, turn⟩, ?_⟩⟩
  cases answer with
  | ok _ =>
    exact expecting.sent (r := ⟨n, command, arguments⟩)
      (List.mem_append_right _ (List.mem_singleton_self _))
  | error e =>
    have failed : Fails plan _ e := expecting.failed
      (x := ⟨.write ⟨n, command, arguments⟩, .error e⟩) turn.early rfl rfl rfl rfl
    exact fun _ => ⟨⟨_, _, _, rfl⟩, failed.quiet rfl rfl rfl⟩

/-- A request whose response has to be a success, made when it is its turn. -/
theorem requestBody_going (going : Going log commands events waiting)
    (turn : Turn plan commands events waiting command) (other : command ≠ "launch") :
    (requestBody command arguments).Keeps (launchRules plan) log <| Unless plan fun now body =>
      Going now (commands ++ [command]) events waiting ∧
        ∃ r ∈ now.filterMap written?, r.command = command ∧
          ∃ response, (r.seq, response) ∈ now.filterMap fetched? ∧ response.success = true ∧
            response.body = body := by
  refine Program.Keeps.bind (P := Unless plan fun now response =>
    ∃ (r : Request) (earlier : List (Exchange Link)), r.command = command ∧
      Going earlier (commands ++ [command]) events (r :: waiting) ∧
        now = earlier ++ [⟨.await r.seq, some response⟩]) ?_ ?_
  · refine (send_going going turn).bind fun now sent holds => ?_
    cases sent with
    | error e => exact holds
    | ok n =>
      refine fun response => ⟨⟨_, _, _, holds⟩, ?_⟩
      cases response with
      | some response => exact ⟨⟨n, command, arguments⟩, now, rfl, holds, rfl⟩
      | none => exact Going.lost holds rfl rfl
  · intro now result holds
    cases result with
    | error e => exact holds
    | ok response =>
      rcases holds with ⟨r, earlier, same, going, rfl⟩
      have fetches : fetched? ⟨.await r.seq, some response⟩ = some (r.seq, response) := rfl
      change Program.Keeps _ (pure (if response.success then _ else _)) _ _
      cases success : response.success with
      | true =>
        have gone := going.fetched fetches success
        refine ⟨gone, r, ?_, same, response, ?_, success, rfl⟩
        · rw [List.filterMap_append]
          exact List.mem_append_left _ (going.waiting r List.mem_cons_self)
        · rw [filterMap_concat]
          exact List.mem_append_right _ (List.mem_singleton_self _)
      | false =>
        have refused : Fails plan _ _ := going.refused fetches success
        rw [same, refusal, if_neg other] at refused
        exact refused

theorem awaitNamed_going (going : Going log commands events waiting) (early : "threads" ∉ commands)
    {name : String} (awaited : events ++ [name] <+: eventsBefore plan "threads") :
    (awaitNamed name).Keeps (launchRules plan) log <| Unless plan fun now _ =>
      Going now commands (events ++ [name]) waiting := by
  refine fun event => ⟨⟨_, _, _, going⟩, ?_⟩
  cases event with
  | timedOut => exact going.failed early rfl rfl rfl rfl
  | closed => exact going.failed early rfl rfl rfl rfl
  | arrived e =>
    change Program.Keeps _ (if e.name = name then _ else _) _ _
    split
    · next named => exact going.heard named
    · next other => exact going.gone early awaited other

theorem setEntryBreakpoint_going (going : Going log commands events waiting)
    (turn : Turn plan commands events waiting "setFunctionBreakpoints") (entry : String) :
    (setEntryBreakpoint entry).Keeps (launchRules plan) log <| Unless plan fun now _ =>
      Going now (commands ++ ["setFunctionBreakpoints"]) events waiting := by
  refine (requestBody_going going turn (by decide)).bind fun now result holds => ?_
  cases result with
  | error e => exact holds
  | ok body =>
    dsimp only
    cases isVerified body with
    | true => exact holds.1
    | false => exact fun _ => ⟨⟨_, _, _, holds.1⟩, holds.1.quiet rfl rfl rfl rfl⟩

theorem finishLaunch_going {r : Request} (going : Going log commands events (r :: waiting))
    (launch : r.command = "launch") (early : "threads" ∉ commands) :
    (finishLaunch r.seq).Keeps (launchRules plan) log <| Unless plan fun now _ =>
      Going now commands events waiting := by
  refine fun answer => ⟨⟨_, _, _, going⟩, ?_⟩
  cases answer with
  | timedOut => exact going.failed early rfl rfl rfl rfl
  | closed => exact going.lost rfl rfl
  | arrived response =>
    have fetches : fetched? ⟨.awaitInTime r.seq, .arrived response⟩ = some (r.seq, response) := rfl
    change Program.Keeps _ (pure (if response.success then _ else _)) _ _
    cases success : response.success with
    | true => exact going.fetched fetches success
    | false =>
      have refused : Fails plan _ _ := going.refused fetches success
      rw [refusal, if_pos launch] at refused
      exact refused

/-- What an action of a launch makes of its log, unless something goes wrong. -/
def Makes {α : Type} (plan : LaunchPlan) (log : List (Exchange Link)) (action : ClientAction α)
    (P : List (Exchange Link) → α → Prop) : Prop :=
  ∀ c, (action.run.run c).Keeps (launchRules plan) log fun now result => Unless plan P now result.1

section Makes

variable {α β : Type} {action : ClientAction α} {P : List (Exchange Link) → α → Prop}

theorem Makes.bind {f : α → ClientAction β} {Q : List (Exchange Link) → β → Prop}
    (makes : Makes plan log action P) (later : ∀ now x, P now x → Makes plan now (f x) Q) :
    Makes plan log (action >>= f) Q := by
  intro c
  refine Layers.keeps_bind (makes c) (fun now x d holds => later now x holds d) ?_
  exact fun now e d fails => fails

theorem Makes.linked {act : LinkAct (Except Error α)}
    (keeps : act.Keeps (launchRules plan) log (Unless plan P)) : Makes plan log (linked act) P :=
  fun _ => Program.Keeps.bind keeps fun _ _ holds => holds

theorem Makes.modify (f : Client → Client) {P : List (Exchange Link) → Unit → Prop}
    (holds : P log ()) : Makes plan log (modify f) P :=
  fun _ => holds

theorem Makes.liftExcept {value : Except Error α} (ok : ∀ x, value = .ok x → P log x)
    (error : ∀ e, value = .error e → Fails plan log e) : Makes plan log (liftExcept value) P := by
  intro c
  cases value with
  | ok x => exact ok x rfl
  | error e => exact error e rfl

end Makes

/-! ## The handshake -/

/-- The part of a launch that follows the protocol. -/
theorem handshake_makes (plan : LaunchPlan) :
    Makes plan [⟨.listen, ()⟩] (handshake plan) (Settles plan) := by
  have introducing : Turn plan [] [] [] "initialize" :=
    ⟨by simp [protocol], by simp [eventsBefore], fun _ mem => (nomatch mem), fun _ => rfl⟩
  have listening : Going [⟨.listen, ()⟩] [] [] [] := by
    refine ⟨rfl, rfl, rfl, ?_, ?_, ?_, ?_, ?_⟩
    all_goals exact fun _ mem => nomatch mem
  refine Makes.bind (.linked (requestBody_going listening introducing (by decide))) ?_
  rintro now capabilities ⟨going, -⟩
  refine Makes.bind (P := fun now _ => Going now ["initialize"] [] []) (.modify _ going) ?_
  intro now _ going
  have launching : Turn plan ["initialize"] [] [] "launch" :=
    ⟨by simp [protocol], by simp [eventsBefore], fun _ mem => (nomatch mem), fun _ => rfl⟩
  refine Makes.bind (.linked (send_going going launching)) ?_
  intro now launched going
  have first : [] ++ ["initialized"] <+: eventsBefore plan "threads" := by
    cases entry : plan.entryBreakpoint <;> simp [eventsBefore, entry]
  refine Makes.bind (.linked (awaitNamed_going going (by decide) first)) ?_
  rintro now ⟨⟩ going
  -- what follows a step that only a launch with an entry breakpoint makes
  extract_lets named configured
  have named_makes : ∀ {now commands}, commands ++ ["threads"] = protocol plan →
      Going now commands (eventsBefore plan "threads") [] →
      Makes plan now (named ()) (Settles plan) := by
    intro now commands whole going
    have listing : Turn plan commands (eventsBefore plan "threads") [] "threads" :=
      ⟨whole ▸ List.prefix_rfl, rfl, fun _ mem => (nomatch mem), fun _ => rfl⟩
    refine Makes.bind (.linked (requestBody_going going listing (by decide))) ?_
    rintro now threads ⟨going, r, written, command, response, fetched, success, rfl⟩
    rw [whole] at going
    apply Makes.liftExcept
    · intro thread first
      exact ⟨going, r, written, command, response, fetched, success, first⟩
    · intro e none
      exact .threadless ⟨r, written, command, response, fetched, success, none⟩ going.expected
        going.successes
  have configured_makes : ∀ {now commands r},
      commands ++ ["configurationDone", "threads"] = protocol plan → r.command = "launch" →
      Going now commands ["initialized"] [r] → r.seq = launched →
      Makes plan now (configured ()) (Settles plan) := by
    rintro now commands r whole launch sent rfl
    have done : Turn plan commands ["initialized"] [r] "configurationDone" := by
      refine ⟨⟨["threads"], by simpa using whole⟩, by simp [eventsBefore], ?_, fun same => ?_⟩
      · exact List.forall_mem_singleton.mpr launch
      · exact absurd same (by decide)
    have last : (commands ++ ["configurationDone"]) ++ ["threads"] = protocol plan := by
      simpa using whole
    have listing : Turn plan (commands ++ ["configurationDone"]) (eventsBefore plan "threads") []
        "threads" :=
      ⟨last ▸ List.prefix_rfl, rfl, fun _ mem => (nomatch mem), fun _ => rfl⟩
    have early := listing.early
    refine Makes.bind (.linked (requestBody_going sent done (by decide))) ?_
    rintro now _ ⟨going, -⟩
    refine Makes.bind (.linked (finishLaunch_going going launch early)) ?_
    rintro now ⟨⟩ going
    cases entry : plan.entryBreakpoint with
    | none => exact named_makes last (by simpa [eventsBefore, entry] using going)
    | some function =>
      have second : ["initialized"] ++ ["stopped"] = eventsBefore plan "threads" := by
        simp [eventsBefore, entry]
      refine Makes.bind (.linked (awaitNamed_going going early (second ▸ List.prefix_rfl))) ?_
      rintro now ⟨⟩ going
      rw [second] at going
      exact named_makes last going
  cases entry : plan.entryBreakpoint with
  | none => exact configured_makes (by simp [protocol, entry]) rfl going rfl
  | some function =>
    have breaking : Turn plan ["initialize", "launch"] ["initialized"]
        [⟨launched, "launch", launchArguments plan⟩] "setFunctionBreakpoints" := by
      refine ⟨by simp [protocol, entry], by simp [eventsBefore], ?_, fun same => ?_⟩
      · exact List.forall_mem_singleton.mpr rfl
      · exact absurd same (by decide)
    refine Makes.bind (.linked (setEntryBreakpoint_going going breaking function)) ?_
    rintro now ⟨⟩ going
    exact configured_makes (by simp [protocol, entry]) rfl going rfl

/-- A launch keeps its promise, and its result is what its log tells. -/
theorem launch_makes (plan : LaunchPlan) : Makes plan [] (launch plan) (Settles plan) := by
  have listened : Makes plan [] (linked (Except.ok <$> link .listen)) fun now _ =>
      now = [⟨.listen, ()⟩] :=
    fun _ _ => ⟨rfl, rfl⟩
  refine Makes.bind listened ?_
  rintro _ _ rfl
  have shaken : Makes plan [⟨.listen, ()⟩]
      (ExceptT.mk ((Except.ok <$> ·) (handshake plan).run)) (Unless plan (Settles plan)) :=
    fun c => Program.Keeps.bind (handshake_makes plan c) fun _ _ holds => holds
  refine Makes.bind shaken ?_
  intro log result settles
  have unlistened : Makes plan log (linked (Except.ok <$> link .unlisten)) fun now _ =>
      Unless plan (Settles plan) now result := by
    refine fun _ _ => ⟨trivial, ?_⟩
    cases result with
    | error e => exact Fails.quiet settles rfl rfl rfl
    | ok thread =>
      rcases settles with ⟨going, r, written, command, response, fetched, told⟩
      refine ⟨going.quiet rfl rfl rfl rfl, r, ?_, command, response, ?_, told⟩
      · exact (filterMap_concat ..).symm ▸ List.mem_append_left _ written
      · exact (filterMap_concat ..).symm ▸ List.mem_append_left _ fetched
  refine Makes.bind unlistened ?_
  intro now _ settles
  refine Makes.bind (P := fun now thread => Settles plan now thread) ?_ ?_
  · apply Makes.liftExcept
    · rintro thread rfl
      exact settles
    · rintro e rfl
      exact settles
  · exact fun now thread settles _ => settles

end Client

end NotebookKernel.Dap
