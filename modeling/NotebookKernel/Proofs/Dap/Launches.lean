import Mathlib.Data.List.Nodup
import NotebookKernel.Proofs.Dap.Arrivals
import NotebookKernel.Proofs.Dap.Decided
import NotebookKernel.Proofs.Dap.Handshake

/-!
Launches follow their protocol.

What has happened since a launch began to listen tells which of its requests were written, which
responses were the first to them, and which events came. `Traffic.Orderly.launch_followed` says that
a launch does what it should do with them, whatever the debugger sends, in whatever order, and
whatever the other threads do.
-/

namespace NotebookKernel.Dap

open Launch

/-! ## What a launch is told -/

/-- The requests that a thread has written, the first one first. -/
def requestsOf (i : Nat) (since : List Occurrence) : List Request :=
  (exchangesOf i since).filterMap written?

/-- A thread has written a request with this command, and this is the first response to it. -/
def Answered (i : Nat) (command : String) (response : Response) (since : List Occurrence) : Prop :=
  ∃ r ∈ requestsOf i since, r.command = command ∧ ∃ past, FirstResponse r.seq response past since

/-- Events with these names have come, one behind the other, and before each of them none by which
the target is gone. -/
def Heralded (names : List String) (events : List Event) : Prop :=
  ∃ waits left, Found waits events left ∧ waits.map (·.1) = names ∧ ∀ p ∈ waits, p.2.name = p.1

/-- It is the turn of a request. Those before it in the protocol were written and answered with
success, but only the request for the threads waits for the response to the launch; and the events
that it waits for have come. -/
structure Ready (plan : LaunchPlan) (i : Nat) (command : String) (now : List Occurrence) :
    Prop where
  next : (requestsOf i now).map (·.command) ++ [command] <+: protocol plan
  answered : ∀ r ∈ requestsOf i now, r.command = "launch" ∧ command ≠ "threads" ∨
    ∃ response, Answered i r.command response now ∧ response.success = true
  heralded : Heralded (eventsBefore plan command) (eventsIn now)

/-- All requests were answered with success, the events came that had to come, and this is the first
thread that was told. -/
structure Completed (plan : LaunchPlan) (i : Nat) (since : List Occurrence) (thread : ThreadId) :
    Prop where
  answered : ∀ command ∈ protocol plan,
    ∃ response, Answered i command response since ∧ response.success = true
  heralded : Heralded (eventsBefore plan "threads") (eventsIn since)
  told : ∃ response, Answered i "threads" response since ∧
    Client.firstThread response.body = .ok thread

/-- Why a launch fails. -/
inductive Cause (plan : LaunchPlan) (i : Nat) (since : List Occurrence) : Error → Prop
  /-- A request could not be written. -/
  | unwritten {r : Request} {e : Error} :
    ⟨.write r, .error e⟩ ∈ exchangesOf i since → Cause plan i since e
  /-- The response to the launch did not come in time. -/
  | late {seq : Nat} :
    ⟨.awaitInTime seq, .timedOut⟩ ∈ exchangesOf i since →
      Cause plan i since (.timeout "launch response")
  /-- An event did not come in time. -/
  | unheard {name : String} :
    ⟨.awaitEvent name, .timedOut⟩ ∈ exchangesOf i since → Cause plan i since (.timeout name)
  /-- The connection ended. -/
  | ended : .ended ∈ since → Cause plan i since .disconnected
  /-- A response is a failure. -/
  | refused {command : String} {response : Response} :
    Answered i command response since → response.success = false →
      Cause plan i since (refusal command response)
  /-- The target is gone before an event that has to come. -/
  | gone {waits : List (String × Event)} {name : String} {e : Event} {left : List Event} :
    Found (waits ++ [(name, e)]) (eventsIn since) left → (∀ p ∈ waits, p.2.name = p.1) →
      waits.map (·.1) ++ [name] <+: eventsBefore plan "threads" → e.isEnd = true →
        e.name ≠ name → Cause plan i since (departure name e)
  /-- No thread is told. -/
  | threadless {response : Response} {e : Error} :
    Answered i "threads" response since → response.success = true →
      Client.firstThread response.body = .error e → Cause plan i since e

/-- A wait did not last too long, and a request could be written. -/
def Undisturbed : Exchange Link → Prop
  | ⟨.write _, .error _⟩ | ⟨.awaitInTime _, .timedOut⟩ | ⟨.awaitEvent _, .timedOut⟩ => False
  | _ => True

/-! ## Threads that launch -/

/-- What a launch has taken part in since it began to listen, that included. -/
def launchLog (i : Nat) (since : List Occurrence) : List (Exchange Link) :=
  ⟨.listen, ()⟩ :: exchangesOf i since

/-- A launch that is answered as a thread was, since it began to listen, ends with this result. -/
def Returns (plan : LaunchPlan) (i : Nat) (since : List Occurrence)
    (result : Except Error ThreadId) : Prop :=
  ∃ c d, ((Client.launch plan).run.run c).Gives (launchLog i since) (result, d)

/-- A thread launches a target. It began to listen before `since`, and this is left of its work. -/
structure Traffic.Launching (t : Traffic) (i : Nat) (plan : LaunchPlan) (since : List Occurrence)
    (rest : LinkAct Unit) : Prop where
  worker : t.workers i = some ⟨.launch plan, rest⟩
  happened : ∃ before, t.history = since ++ .exchanged i ⟨.listen, ()⟩ :: before
  comes : ∃ c, (Worker.start (.launch plan) c).rest.Comes (launchLog i since) rest

section Logs

variable {plan : LaunchPlan} {i : Nat} {since now : List Occurrence} {rest : LinkAct Unit}
  {x : Exchange Link} {c : Client}

theorem fetches_iff {o : Occurrence} {seq : Nat} {response : Response} :
    o.Fetches i seq response ↔ ∃ x, o = .exchanged i x ∧ fetched? x = some (seq, response) := by
  constructor
  · rintro (rfl | rfl)
    · exact ⟨_, rfl, rfl⟩
    · exact ⟨_, rfl, rfl⟩
  · rintro ⟨x, rfl, fetches⟩
    unfold fetched? at fetches
    split at fetches <;> cases fetches
    · exact .inl rfl
    · exact .inr rfl

/-- An exchange happened at some moment. -/
theorem moment_of_mem (mem : x ∈ exchangesOf i since) :
    ∃ now, .exchanged i x :: now <:+ since := by
  rcases List.append_of_mem mem with ⟨front, back, split⟩
  rcases place_of_exchangesOf split with ⟨now, within, -⟩
  exact ⟨now, within⟩

theorem filterMap_launchLog {α : Type} {f : Exchange Link → Option α}
    (silent : f ⟨.listen, ()⟩ = none) :
    (launchLog i since).filterMap f = (exchangesOf i since).filterMap f :=
  List.filterMap_cons_none silent

theorem mem_requestsOf {r : Request} :
    r ∈ (launchLog i since).filterMap written? ↔ r ∈ requestsOf i since := by
  rw [filterMap_launchLog rfl]
  exact Iff.rfl

theorem foldl_launchRules (log front : List (Exchange Link)) :
    log.foldl (launchRules plan).after front = front ++ log := by
  induction log generalizing front with
  | nil => exact (List.append_nil front).symm
  | cons x log ih =>
    rw [List.foldl_cons, ih]
    exact List.append_assoc ..

/-- What a launch asks is what it may ask. -/
theorem allowed_of_comes
    (comes : (Worker.start (.launch plan) c).rest.Comes (launchLog i since) rest)
    (within : .exchanged i x :: now <:+ since) : (launchRules plan).allows (launchLog i now) x := by
  have keeps : (Worker.start (.launch plan) c).rest.Keeps (launchRules plan) [] fun _ _ => True :=
    (Client.launch_makes plan c).bind fun _ _ _ => trivial
  rcases within with ⟨later, rfl⟩
  have split : launchLog i (later ++ .exchanged i x :: now) =
      launchLog i now ++ x :: exchangesOf i later := by
    unfold launchLog
    rw [exchangesOf_append, exchangesOf_self, List.append_assoc]
    rfl
  have allowed := comes.allowed keeps split
  rw [foldl_launchRules] at allowed
  exact allowed

/-- A launch listens once. -/
theorem not_listen_again
    (comes : (Worker.start (.launch plan) c).rest.Comes (launchLog i since) rest) :
    ⟨.listen, ()⟩ ∉ exchangesOf i since := by
  intro mem
  rcases moment_of_mem mem with ⟨now, within⟩
  cases allowed_of_comes comes within

theorem Returns.tells {result : Except Error ThreadId} (returns : Returns plan i since result) :
    Unless plan (Settles plan) (launchLog i since) result := by
  rcases returns with ⟨c, d, run⟩
  have ends := Program.Keeps.ends (Client.launch_makes plan c) run
  rw [foldl_launchRules] at ends
  exact ends

/-- A launch that is done has returned. -/
theorem returns_of_done
    (comes : (Worker.start (.launch plan) c).rest.Comes (launchLog i since) (.done ())) :
    ∃ result, Returns plan i since result := by
  rcases comes.gives_done.of_bind with ⟨first, second, ⟨result, d⟩, same, run, done⟩
  rcases done.of_done with ⟨rfl, -⟩
  rw [List.append_nil] at same
  rw [← same] at run
  exact ⟨result, c, d, run⟩

end Logs

namespace Traffic

variable {t : Traffic} {plan : LaunchPlan} {i : Nat} {since : List Occurrence}
  {before : List Occurrence} {seq : Nat} {response : Response}

/-! ## Launches and what happened -/

/-- A thread that launches a target has not begun, or it has begun to listen at some moment. -/
theorem Reachable.launching (reachable : t.Reachable) {rest : LinkAct Unit}
    (worker : t.workers i = some ⟨.launch plan, rest⟩) :
    (∃ c, rest = (Worker.start (.launch plan) c).rest) ∨
      ∃ since, t.Launching i plan since rest := by
  rcases reachable.course worker with ⟨c, log, comes, front, last⟩
  rcases Program.Comes.of_ask comes with ⟨-, same⟩ | ⟨⟨⟩, log, rfl, -⟩
  · exact .inl ⟨c, same⟩
  · rcases place_of_exchangesOf last with ⟨before, ⟨since, happened⟩, place⟩
    have whole := exchangesOf_append i since (.exchanged i ⟨.listen, ()⟩ :: before)
    rw [happened, last, exchangesOf_self, place, List.append_assoc] at whole
    have same : launchLog i since = ⟨.listen, ()⟩ :: log := (List.append_cancel_left whole).symm
    exact .inr ⟨since, worker, ⟨before, happened.symm⟩, c, same ▸ comes⟩

/-- What happened to a launch is what happened at its connection. -/
theorem within_history (happened : t.history = since ++ .exchanged i ⟨.listen, ()⟩ :: before)
    {x : Exchange Link} {now : List Occurrence} (within : .exchanged i x :: now <:+ since) :
    .exchanged i x :: (now ++ .exchanged i ⟨.listen, ()⟩ :: before) <:+ t.history := by
  rcases within with ⟨later, rfl⟩
  rw [happened]
  exact ⟨later, by simp⟩

/-- A launch that waits for an event is not told that the connection has ended. -/
theorem Orderly.not_closed (orderly : t.Orderly) {name : String} {now : List Occurrence}
    (within : .exchanged i ⟨.awaitEvent name, .closed⟩ :: now <:+ t.history) : False := by
  rcases orderly.moment within with ⟨u, v, here, step, rfl, happened⟩
  cases step with
  | begin | finish | arrive => exact absurd happened.symm (List.cons_ne_self _ _)
  | read | fail | die | «break» => cases happened
  | answer worker answered =>
    cases happened
    rcases Connection.awaitEvent_events (here.listening_of_awaits worker) answered with
      ⟨skipped, e, same, -⟩
    cases same
  | free worker free =>
    cases happened
    cases free

section Moments

variable (orderly : t.Orderly)
  (happened : t.history = since ++ .exchanged i ⟨.listen, ()⟩ :: before)
include orderly happened

/-- What was fetched is the first response. -/
theorem Orderly.firstResponse_of_fetched
    (fetched : (seq, response) ∈ (launchLog i since).filterMap fetched?)
    (expected : ⟨.expect seq, ()⟩ ∈ launchLog i since) :
    ∃ past, FirstResponse seq response past since := by
  have lawful := orderly.reachable.kept.told.lawful
  rw [filterMap_launchLog rfl, List.mem_filterMap] at fetched
  rcases fetched with ⟨x, mem, fetches⟩
  have fetches : (Occurrence.exchanged i x).Fetches i seq response :=
    fetches_iff.mpr ⟨x, rfl, fetches⟩
  rcases moment_of_mem mem with ⟨now, within⟩
  have there := within_history happened within
  have from_here := lawful.of_suffix there
  have arrived := congrArg Life.reply (fits_of_fetches from_here fetches)
  rcases firstResponse from_here.tail (.inl arrived) with ⟨past, first⟩
  have first := first.later ((List.suffix_cons _ _).trans there)
  rcases moment_of_mem ((List.mem_cons.mp expected).resolve_left fun same => nomatch same) with
    ⟨earlier, began⟩
  rw [happened] at lawful first
  exact first.within lawful began

/-- A response that a launch could not wait for never came, and it was the end of the connection
that kept it from coming. -/
theorem Orderly.lost_of_launch {x : Exchange Link} (mem : x ∈ launchLog i since)
    (lost : lost? x = some seq) (expected : ⟨.expect seq, ()⟩ ∈ launchLog i since) :
    .ended ∈ since ∧ ∀ r past, ¬ FirstResponse seq r past since := by
  have lawful := orderly.reachable.kept.told.lawful
  have which : x = ⟨.await seq, none⟩ ∨ x = ⟨.awaitInTime seq, .closed⟩ := by
    unfold lost? at lost
    split at lost <;> cases lost
    · exact .inl rfl
    · exact .inr rfl
  have other : x ≠ ⟨.listen, ()⟩ := by
    rintro rfl
    cases lost
  rcases moment_of_mem ((List.mem_cons.mp mem).resolve_left other) with ⟨now, within⟩
  rcases moment_of_mem ((List.mem_cons.mp expected).resolve_left fun same => nomatch same) with
    ⟨earlier, began⟩
  have there := within_history happened within
  rcases orderly.lost there which with ⟨⟨between, j, first, split, ended⟩, never⟩
  refine ⟨?_, fun r past first => ?_⟩
  · -- the end came after the request was expected, so it came since the launch listens
    have again : .exchanged j ⟨.expect seq, ()⟩ :: first <:+ t.history := by
      refine List.IsSuffix.trans ?_ there
      rw [split]
      exact (List.suffix_append between _).trans (List.suffix_cons _ _)
    have same := expected_once lawful again (within_history happened began)
    rw [same, ← List.cons_append, ← List.append_assoc] at split
    rw [List.append_cancel_right split] at within
    exact within.subset (List.mem_cons_of_mem _ (List.mem_append_left _ ended))
  · rw [happened] at never
    exact never r _ (first.beyond _)

/-- The events that were waited for came in order. -/
theorem Orderly.found_of_launch (once : ⟨.listen, ()⟩ ∉ exchangesOf i since) :
    ∃ left, Found ((launchLog i since).filterMap herald?) (eventsIn since) left := by
  rcases orderly.hears i since ⟨once, before, happened⟩ with ⟨left, found, -⟩
  exact ⟨left, by rw [filterMap_launchLog rfl]; exact found⟩

/-- When all goes well, the requests that are not waited for any more were answered. -/
theorem Orderly.answered_of_going {commands events : List String} {waiting : List Request}
    (going : Going (launchLog i since) commands events waiting) :
    ∀ r ∈ requestsOf i since, r ∈ waiting ∨
      ∃ response, Answered i r.command response since ∧ response.success = true := by
  intro r mem
  have sent := mem_requestsOf.mpr mem
  rcases going.answered r sent with waits | ⟨response, fetched⟩
  · exact .inl waits
  · have first := orderly.firstResponse_of_fetched happened fetched (going.expected r sent)
    exact .inr ⟨response, ⟨r, mem, rfl, first⟩, going.successes _ fetched⟩

theorem Orderly.heralded_of_going {commands events : List String} {waiting : List Request}
    (once : ⟨.listen, ()⟩ ∉ exchangesOf i since)
    (going : Going (launchLog i since) commands events waiting) :
    Heralded events (eventsIn since) := by
  rcases orderly.found_of_launch happened once with ⟨left, found⟩
  exact ⟨_, left, found, going.events, going.heralds⟩

end Moments

theorem commands_of_going {commands events : List String} {waiting : List Request}
    (going : Going (launchLog i since) commands events waiting) :
    (requestsOf i since).map (·.command) = commands := by
  have same := going.commands
  rw [filterMap_launchLog rfl] at same
  exact same

/-! ## What a launch does -/

section Launches

variable {rest : LinkAct Unit} (orderly : t.Orderly) (launching : t.Launching i plan since rest)
include orderly launching

/-- A request is written when it is its turn. -/
theorem Orderly.ready {r : Request} {answer : Except Error Unit} {now : List Occurrence}
    (within : .exchanged i ⟨.write r, answer⟩ :: now <:+ since) : Ready plan i r.command now := by
  rcases launching.comes with ⟨c, comes⟩
  rcases allowed_of_comes comes within with ⟨commands, events, waiting, going, turn⟩
  rcases launching.happened with ⟨before, happened⟩
  have earlier : now ++ .exchanged i ⟨.listen, ()⟩ :: before <:+ t.history :=
    (List.suffix_cons _ _).trans (within_history happened within)
  rcases orderly.earlier earlier with ⟨u, here, happened'⟩
  have once : ⟨.listen, ()⟩ ∉ exchangesOf i now := by
    intro mem
    rcases moment_of_mem mem with ⟨moment, inner⟩
    cases allowed_of_comes comes (inner.trans ((List.suffix_cons _ now).trans within))
  refine ⟨?_, fun q mem => ?_, ?_⟩
  · rw [commands_of_going going]
    exact turn.next
  · rcases here.answered_of_going happened' going q mem with waits | answered
    · refine .inl ⟨turn.launching q waits, fun last => ?_⟩
      rw [turn.last last] at waits
      cases waits
    · exact .inr answered
  · rw [← turn.events]
    exact here.heralded_of_going happened' once going

/-- The requests of a launch are those of the protocol, in order. -/
theorem Orderly.requests_prefix : (requestsOf i since).map (·.command) <+: protocol plan := by
  rcases List.eq_nil_or_concat' (requestsOf i since) with none | ⟨front, r, split⟩
  · rw [none]
    exact List.nil_prefix
  · rcases List.filterMap_eq_append_iff.mp split with ⟨first, second, whole, left, right⟩
    rcases List.filterMap_eq_cons_iff.mp right with ⟨silent, x, back, rfl, none, written, -⟩
    have request : ∃ answer, x = ⟨.write r, answer⟩ := by
      unfold written? at written
      split at written <;> cases written
      exact ⟨_, rfl⟩
    rcases request with ⟨answer, rfl⟩
    rw [← List.append_assoc] at whole
    rcases place_of_exchangesOf whole with ⟨now, within, place⟩
    have next := (orderly.ready launching within).next
    have same : requestsOf i now = front := by
      unfold requestsOf
      rw [place, List.filterMap_append, left, List.filterMap_eq_nil_iff.mpr none, List.append_nil]
    rw [same] at next
    rw [split, List.map_append]
    exact next

/-- A request is known by its command, so its response is. -/
theorem Orderly.answered_once {r : Request} {command : String} (mem : r ∈ requestsOf i since)
    (same : r.command = command) (answered : Answered i command response since) :
    ∃ past, FirstResponse r.seq response past since := by
  have distinct : ((requestsOf i since).map (·.command)).Nodup := by
    have whole : (protocol plan).Nodup := by
      unfold protocol
      cases plan.entryBreakpoint <;> simp
    exact whole.sublist (orderly.requests_prefix launching).sublist
  rcases answered with ⟨q, written, rfl, first⟩
  rw [List.inj_on_of_nodup_map distinct mem written same]
  exact first

theorem Orderly.answered_unique {command : String} {response' : Response}
    (answered : Answered i command response since)
    (also : Answered i command response' since) : response = response' := by
  rcases launching.happened with ⟨before, happened⟩
  rcases answered with ⟨r, mem, same, past, first⟩
  rcases orderly.answered_once launching mem same also with ⟨past', first'⟩
  have lawful := orderly.reachable.kept.told.lawful
  rw [happened] at lawful
  exact (first.beyond _).unique lawful (first'.beyond _)

/-- A launch that returns a thread has gone through the whole protocol. -/
theorem Orderly.completed_of_ok {thread : ThreadId} (returns : Returns plan i since (.ok thread)) :
    Completed plan i since thread := by
  rcases launching.happened with ⟨before, happened⟩
  rcases launching.comes with ⟨c, comes⟩
  rcases returns.tells with ⟨going, r, sent, command, response, fetched, success, told⟩
  have answered := orderly.answered_of_going happened going
  refine ⟨fun command mem => ?_, ?_, ?_⟩
  · rw [← commands_of_going going] at mem
    rcases List.mem_map.mp mem with ⟨q, was, rfl⟩
    exact (answered q was).resolve_left fun waits => nomatch waits
  · exact orderly.heralded_of_going happened (not_listen_again comes) going
  · have first := orderly.firstResponse_of_fetched happened fetched (going.expected r sent)
    exact ⟨response, ⟨r, mem_requestsOf.mp sent, command, first⟩, told⟩

/-- One that fails does so for a reason. -/
theorem Orderly.cause_of_error {e : Error} (returns : Returns plan i since (.error e)) :
    Cause plan i since e := by
  rcases launching.happened with ⟨before, happened⟩
  rcases launching.comes with ⟨c, comes⟩
  cases returns.tells with
  | @failed x _ mem failure unlost =>
    have other : x ≠ ⟨.listen, ()⟩ := by
      rintro rfl
      cases failure
    have mem := (List.mem_cons.mp mem).resolve_left other
    unfold failure? at failure
    split at failure <;> cases failure
    · exact .unwritten mem
    · cases unlost
    · exact .late mem
    · cases unlost
    · exact .unheard mem
    · rcases moment_of_mem mem with ⟨now, within⟩
      exact (orderly.not_closed (within_history happened within)).elim
  | lost mem lost _ expected => exact .ended (orderly.lost_of_launch happened mem lost expected).1
  | @refused r response was expected fetched failure =>
    have first := orderly.firstResponse_of_fetched happened fetched expected
    exact .refused ⟨r, mem_requestsOf.mp was, rfl, first⟩ failure
  | @gone waits name e all heralded awaited other =>
    rcases orderly.found_of_launch happened (not_listen_again comes) with ⟨left, found⟩
    rw [all] at found
    rcases found.of_snoc with ⟨_, _, _, matters⟩
    have ends : e.isEnd = true := by simpa [Event.matters, other] using matters
    exact .gone found heralded awaited ends other
  | threadless lists expected =>
    rcases lists with ⟨r, was, command, response, fetched, success, none⟩
    have first := orderly.firstResponse_of_fetched happened fetched (expected r was)
    exact .threadless ⟨r, mem_requestsOf.mp was, command, first⟩ success none

/-- And then it has not gone through the whole protocol. -/
theorem Orderly.not_completed_of_error {e : Error} {thread : ThreadId}
    (returns : Returns plan i since (.error e)) : ¬ Completed plan i since thread := by
  intro completed
  rcases launching.happened with ⟨before, happened⟩
  have written : "threads" ∈ ((launchLog i since).filterMap written?).map (·.command) := by
    rw [filterMap_launchLog rfl]
    rcases completed.told with ⟨_, ⟨r, mem, same, -⟩, -⟩
    exact List.mem_map.mpr ⟨r, mem, same⟩
  have answered : ∀ r ∈ requestsOf i since,
      ∃ response past, FirstResponse r.seq response past since ∧ response.success = true := by
    intro r mem
    have known := (orderly.requests_prefix launching).subset (List.mem_map_of_mem mem)
    rcases completed.answered _ known with ⟨response, answered, success⟩
    rcases orderly.answered_once launching mem rfl answered with ⟨past, first⟩
    exact ⟨response, past, first, success⟩
  cases returns.tells with
  | failed _ _ _ early => exact early written
  | @lost x r mem lost was expected =>
    rcases answered r (mem_requestsOf.mp was) with ⟨response, past, first, -⟩
    exact (orderly.lost_of_launch happened mem lost expected).2 response past first
  | @refused r response was expected fetched failure =>
    rcases answered r (mem_requestsOf.mp was) with ⟨other, past, first, success⟩
    rcases orderly.firstResponse_of_fetched happened fetched expected with ⟨past', first'⟩
    have lawful := orderly.reachable.kept.told.lawful
    rw [happened] at lawful
    cases (first.beyond _).unique lawful (first'.beyond _)
    rw [failure] at success
    cases success
  | gone _ _ _ _ early => exact early written
  | threadless lists expected =>
    rcases lists with ⟨r, was, command, response, fetched, -, none⟩
    have first := orderly.firstResponse_of_fetched happened fetched (expected r was)
    rcases completed.told with ⟨other, answered, told⟩
    cases orderly.answered_unique launching ⟨r, mem_requestsOf.mp was, command, first⟩ answered
    cases none.symm.trans told

/-- A launch returns a thread if and only if it has gone through the whole protocol and was told
this thread. -/
theorem Orderly.ok_iff {result : Except Error ThreadId} {thread : ThreadId}
    (returns : Returns plan i since result) :
    result = .ok thread ↔ Completed plan i since thread := by
  constructor
  · rintro rfl
    exact orderly.completed_of_ok launching returns
  · intro completed
    cases result with
    | error e => exact (orderly.not_completed_of_error launching returns completed).elim
    | ok other =>
      have also := orderly.completed_of_ok launching returns
      rcases completed.told with ⟨response, answered, told⟩
      rcases also.told with ⟨response', answered', told'⟩
      cases orderly.answered_unique launching answered answered'
      cases told.symm.trans told'
      rfl

end Launches

section Failures

variable {rest : LinkAct Unit}

/-- Once a launch has fetched a failed response, all it does is to end listening. -/
theorem Launching.only_unlistens (launching : t.Launching i plan since rest) {o : Occurrence}
    {now later : List Occurrence} (within : later ++ o :: now <:+ since)
    (fetches : o.Fetches i seq response)
    (failure : response.success = false) : ∀ x ∈ exchangesOf i later, x = ⟨.unlisten, ()⟩ := by
  rcases launching.comes with ⟨c, comes⟩
  rcases fetches_iff.mp fetches with ⟨y, rfl, fetch⟩
  induction later with
  | nil => exact fun x mem => nomatch mem
  | cons p later ih =>
    have before := ih ((List.suffix_cons p _).trans within)
    cases p with
    | received | ended | died => exact before
    | exchanged j x =>
      by_cases thread : j = i
      · subst thread
        rw [exchangesOf_self]
        refine List.forall_mem_append.mpr ⟨before, List.forall_mem_singleton.mpr ?_⟩
        replace within : .exchanged j x :: (later ++ .exchanged j y :: now) <:+ since := within
        have allowed := allowed_of_comes comes within
        have log : launchLog j (later ++ .exchanged j y :: now) =
            launchLog j now ++ [y] ++ exchangesOf j later := by
          unfold launchLog
          rw [exchangesOf_append, exchangesOf_self]
          rfl
        rw [log] at allowed
        have stuck : ∀ {commands events waiting},
            ¬ Going (launchLog j now ++ [y] ++ exchangesOf j later) commands events waiting := by
          intro commands events waiting going
          have here : (seq, response) ∈
              (launchLog j now ++ [y] ++ exchangesOf j later).filterMap fetched? :=
            List.mem_filterMap.mpr ⟨y, by simp, fetch⟩
          cases (going.successes _ here).symm.trans failure
        rcases x with ⟨r, answer⟩
        cases r with
        | listen => cases allowed
        | unlisten => rfl
        | write r =>
          rcases allowed with ⟨commands, events, waiting, going, -⟩
          exact (stuck going).elim
        | forget n =>
          -- what it did last was to fetch the response or to end listening
          rcases allowed with ⟨front, r, e, last⟩
          rcases List.eq_nil_or_concat' (exchangesOf j later) with none | ⟨back, z, split⟩
          · rw [none, List.append_nil] at last
            cases (List.append_inj' last rfl).2
            cases fetch
          · rw [split, ← List.append_assoc] at last
            cases (List.append_inj' last rfl).2
            cases before _ (split ▸ List.mem_append_right back List.mem_cons_self)
        | _ =>
          rcases allowed with ⟨commands, events, waiting, going⟩
          exact (stuck going).elim
      · rw [exchangesOf_other thread]
        exact before

/-- And it fails with that response. -/
theorem Launching.refusal_of_failure (launching : t.Launching i plan since rest) {o : Occurrence}
    {now later : List Occurrence} (split : since = later ++ o :: now)
    (fetches : o.Fetches i seq response) (failure : response.success = false)
    {result : Except Error ThreadId} (returns : Returns plan i since result) :
    ∃ r ∈ requestsOf i now, r.seq = seq ∧ result = .error (refusal r.command response) := by
  have within : later ++ o :: now <:+ since := ⟨[], split.symm⟩
  have done := launching.only_unlistens within fetches failure
  rcases fetches_iff.mp fetches with ⟨y, rfl, fetch⟩
  have here : (seq, response) ∈ (launchLog i since).filterMap fetched? := by
    rw [filterMap_launchLog rfl, split, exchangesOf_append, exchangesOf_self]
    exact List.mem_filterMap.mpr ⟨y, by simp, fetch⟩
  have unwell : ¬ ∀ p ∈ (launchLog i since).filterMap fetched?, p.2.success = true := by
    intro successes
    cases (successes _ here).symm.trans failure
  have earlier : ∀ r ∈ requestsOf i since, r ∈ requestsOf i now := by
    intro r mem
    have unwritten : written? y = none := (of_fetched? fetch).1
    rw [requestsOf, split, exchangesOf_append, exchangesOf_self] at mem
    rcases List.mem_filterMap.mp mem with ⟨x, mem, written⟩
    rcases List.mem_append.mp mem with mem | mem
    · rcases List.mem_append.mp mem with mem | mem
      · exact List.mem_filterMap.mpr ⟨x, mem, written⟩
      · cases List.mem_singleton.mp mem
        cases unwritten.symm.trans written
    · cases done x mem
      cases written
  have tells := returns.tells
  cases result with
  | ok thread => exact (unwell tells.1.successes).elim
  | error e =>
    cases tells with
    | failed _ _ _ _ successes => exact (unwell successes).elim
    | lost _ _ _ _ successes => exact (unwell successes).elim
    | gone _ _ _ _ _ successes => exact (unwell successes).elim
    | threadless _ _ successes => exact (unwell successes).elim
    | @refused r _ was _ _ _ others =>
      rcases others _ here with same | success
      · cases same
        exact ⟨r, earlier r (mem_requestsOf.mp was), rfl, rfl⟩
      · cases success.symm.trans failure

end Failures

/-! ## Launches come to an end, or wait for what has not come -/

/-- A thread waits for a response that has not come, or for an event while none has come that
matters. -/
def Waits (t : Traffic) (i : Nat) (since : List Occurrence) : Prop :=
  (∃ seq, t.AwaitsResponse i seq ∧ Unanswered seq t.history) ∨
    ∃ name, t.AwaitsEvent i name ∧ ∃ left, Found (heraldsOf i since) (eventsIn since) left ∧
      ∀ e ∈ left, e.matters name = false

section Progress

variable {r : Link.Request} {next : Link.Answer r → LinkAct Unit}

/-- A launch goes on with the answer it gets. -/
theorem Launching.exchanged (launching : t.Launching i plan since (.ask r next))
    (answer : Link.Answer r) (d : Connection) :
    (t.exchanged i (.launch plan) ⟨r, answer⟩ (next answer) d).Launching i plan
      (.exchanged i ⟨r, answer⟩ :: since) (next answer) := by
  rcases launching with ⟨worker, ⟨before, happened⟩, c, comes⟩
  refine ⟨Function.update_self .., ⟨before, ?_⟩, c, ?_⟩
  · change _ :: t.history = _
    rw [happened]
    rfl
  · have log : launchLog i (.exchanged i ⟨r, answer⟩ :: since) =
        launchLog i since ++ [⟨r, answer⟩] := by
      unfold launchLog
      rw [exchangesOf_self]
      rfl
    rw [log]
    exact comes.answered answer

theorem undisturbed_of_answer? {c d : Connection} {answer : Link.Answer r}
    (answered : c.answer? r = some (answer, d)) : Undisturbed ⟨r, answer⟩ := by
  cases r with
  | write => cases answered
  | awaitInTime seq =>
    rw [Connection.answer?, Option.map_eq_some_iff] at answered
    rcases answered with ⟨⟨response, e⟩, -, same⟩
    cases response <;> cases same <;> trivial
  | awaitEvent name =>
    rw [Connection.answer?] at answered
    split at answered
    · cases answered
      trivial
    · split at answered <;> cases answered
      trivial
  | _ => trivial

theorem Kept.unanswered_of_fetch? (kept : t.Kept) (waits : t.connection.fetch? seq = none) :
    Unanswered seq t.history := by
  have pending : seq ∈ t.connection.pending := by
    by_contra gone
    rcases kept.fetch?_of_not_pending gone with ⟨response, d, fetched, -⟩
    cases waits.symm.trans fetched
  exact (outstanding_of_awaited ((kept.told.table.pending seq).mp pending)).unanswered

/-- A launch that the connection does not answer waits for what has not come, or asks for something
beyond the connection. -/
theorem Orderly.waits_of_unanswered (orderly : t.Orderly)
    (launching : t.Launching i plan since (.ask r next))
    (unanswered : t.connection.answer? r = none) :
    t.Waits i since ∨ ∃ answer, Link.Free r answer ∧ Undisturbed ⟨r, answer⟩ := by
  have worker := launching.worker
  cases r with
  | write r => exact .inr ⟨.ok (), trivial, trivial⟩
  | signal => exact .inr ⟨.ok (), trivial, trivial⟩
  | killServer => exact .inr ⟨(), trivial, trivial⟩
  | log => exact .inr ⟨(), trivial, trivial⟩
  | await seq =>
    have kept := orderly.reachable.kept
    exact .inl (.inl ⟨seq, ⟨_, .inl ⟨next, worker⟩⟩, kept.unanswered_of_fetch? unanswered⟩)
  | awaitInTime seq =>
    have kept := orderly.reachable.kept
    have waits := Option.map_eq_none_iff.mp unanswered
    exact .inl (.inl ⟨seq, ⟨_, .inr ⟨next, worker⟩⟩, kept.unanswered_of_fetch? waits⟩)
  | awaitEvent name =>
    rcases launching.comes with ⟨c, comes⟩
    have kept := orderly.reachable.kept
    have listening := (kept.asked worker .timedOut).1.2
    rcases orderly.hears i since ⟨not_listen_again comes, launching.happened⟩ with
      ⟨left, found, here⟩
    have none : ∀ e ∈ t.connection.events, e.matters name = false := by
      rw [Connection.answer?] at unanswered
      split at unanswered
      · cases unanswered
      · next rest => simpa using List.dropWhile_eq_nil_iff.mp rest
    rw [here listening] at none
    exact .inl (.inr ⟨name, ⟨_, next, worker⟩, left, found, none⟩)
  | allocate | expect | forget | listen | unlisten | takeOutput | unreadOutput | debuggee =>
    cases unanswered

/-- On its own, a launch comes to an end or to a wait for what has not come. -/
theorem Orderly.proceeds (rest : LinkAct Unit) : ∀ {t : Traffic} {since : List Occurrence},
    t.Orderly → t.Launching i plan since rest →
    ∃ u own rest', Relation.ReflTransGen (Step Sole) t u ∧
      u.Launching i plan (own ++ since) rest' ∧
      (∀ o ∈ own, ∃ x, o = .exchanged i x ∧ Undisturbed x) ∧
      (rest' = .done () ∨ u.Waits i (own ++ since)) := by
  induction rest with
  | done =>
    intro t since _ launching
    exact ⟨t, [], .done (), .refl, launching, fun _ mem => (nomatch mem), .inl rfl⟩
  | ask r next ih =>
    intro t since orderly launching
    -- one step, and then as the rest does
    have go : ∀ answer d,
        Step Sole t (t.exchanged i (.launch plan) ⟨r, answer⟩ (next answer) d) →
        Undisturbed ⟨r, answer⟩ →
        ∃ u own rest', Relation.ReflTransGen (Step Sole) t u ∧
          u.Launching i plan (own ++ since) rest' ∧
          (∀ o ∈ own, ∃ x, o = .exchanged i x ∧ Undisturbed x) ∧
          (rest' = .done () ∨ u.Waits i (own ++ since)) := by
      intro answer d step calm
      rcases ih answer (Relation.ReflTransGen.tail orderly step) (launching.exchanged answer d) with
        ⟨u, own, rest', leads, there, alone, ends⟩
      refine ⟨u, own ++ [.exchanged i ⟨r, answer⟩], rest', .head step leads, ?_, ?_, ?_⟩
      · rw [List.append_assoc]
        exact there
      · exact List.forall_mem_append.mpr ⟨alone, List.forall_mem_singleton.mpr ⟨_, rfl, calm⟩⟩
      · rw [List.append_assoc]
        exact ends
    cases answered : t.connection.answer? r with
    | some result =>
      exact go result.1 result.2 (.answer launching.worker answered)
        (undisturbed_of_answer? answered)
    | none =>
      rcases orderly.waits_of_unanswered launching answered with waits | ⟨answer, free, calm⟩
      · exact ⟨t, [], .ask r next, .refl, launching, fun _ mem => (nomatch mem), .inr waits⟩
      · exact go answer t.connection (.free launching.worker free) calm

end Progress

/-! ## The protocol of a launch -/

/-- A launch follows its protocol, whatever the debugger sends and whatever else is going on. That
it returns a thread needs no assumption about time: a launch that gave up waiting has not written
all of its requests. -/
theorem Orderly.launch_followed (orderly : t.Orderly) {rest : LinkAct Unit}
    (worker : t.workers i = some ⟨.launch plan, rest⟩) :
    -- the thread has not begun, or it began to listen at some moment
    ((∃ c, rest = (Worker.start (.launch plan) c).rest) ∨
      ∃ since, t.Launching i plan since rest) ∧
    -- and what has happened since tells what it does
    ∀ since, t.Launching i plan since rest →
      -- its requests are those of the protocol, in order
      (requestsOf i since).map (·.command) <+: protocol plan ∧
      -- each was written when it was its turn
      (∀ r answer now, .exchanged i ⟨.write r, answer⟩ :: now <:+ since →
        Ready plan i r.command now) ∧
      -- it returns when it is done
      (rest = .done () → ∃ result, Returns plan i since result) ∧
      -- a thread if and only if the whole protocol was gone through and this thread was told
      (∀ result thread, Returns plan i since result →
        (result = .ok thread ↔ Completed plan i since thread)) ∧
      -- an error only for a reason
      (∀ e, Returns plan i since (.error e) → Cause plan i since e) ∧
      -- when it fetches a failed response it ends, and that is its error
      (∀ later o now seq response, since = later ++ o :: now → o.Fetches i seq response →
        response.success = false →
          (∀ x ∈ exchangesOf i later, x = ⟨.unlisten, ()⟩) ∧
          ∀ result, Returns plan i since result →
            ∃ r ∈ requestsOf i now, r.seq = seq ∧
              result = .error (refusal r.command response)) ∧
      -- and on its own it comes to its end or to a wait for what has not come
      ∃ u own rest', Relation.ReflTransGen (Step Sole) t u ∧
        u.Launching i plan (own ++ since) rest' ∧
        (∀ o ∈ own, ∃ x, o = .exchanged i x ∧ Undisturbed x) ∧
        (rest' = .done () ∨ u.Waits i (own ++ since)) := by
  refine ⟨orderly.reachable.launching worker, fun since launching => ?_⟩
  refine ⟨orderly.requests_prefix launching, ?_, ?_, ?_, ?_, ?_,
    Orderly.proceeds rest orderly launching⟩
  · exact fun r answer now within => orderly.ready launching within
  · rintro rfl
    rcases launching.comes with ⟨c, comes⟩
    exact returns_of_done comes
  · exact fun result thread returns => orderly.ok_iff launching returns
  · exact fun e returns => orderly.cause_of_error launching returns
  · intro later o now seq response split fetches failure
    refine ⟨launching.only_unlistens ⟨[], split.symm⟩ fetches failure, fun result returns => ?_⟩
    exact launching.refusal_of_failure split fetches failure returns

/-- A launch with an entry breakpoint. -/
def entryPlan : LaunchPlan :=
  ⟨"target", [], [], none, some "main"⟩

/-- A response that is a success. -/
def success (seq : Nat) (body : Json) : Response :=
  ⟨seq, true, "", none, body⟩

/-- The thread of a target. -/
def oneThread : Json :=
  .obj [("threads", .arr [.obj [("id", .int 7)]])]

/-- A target is launched, stops at its entry and tells its thread. -/
theorem Orderly.launch_followed_stopped : ∃ (t : Traffic) (since : List Occurrence), t.Orderly ∧
    t.Launching 0 entryPlan since (.done ()) ∧ Returns entryPlan 0 since (.ok ⟨7⟩) ∧
      Completed entryPlan 0 since ⟨7⟩ := by
  have run : Relation.ReflTransGen (Step Sole) initial _ := .single
    (.begin (i := 0) (.launch entryPlan) default rfl fun _ _ _ here => nomatch here)
  have run := run.tail (.answer (i := 0) rfl rfl)
  have run := run.tail (.answer (i := 0) rfl rfl)
  have run := run.tail (.answer (i := 0) rfl rfl)
  have run := run.tail (@Step.free _ _ 0 _ (.write _) _ (.ok ()) rfl trivial)
  have run := responded (r := success 1 .null) (n := 1) run rfl rfl (by decide) (by decide)
    List.mem_cons_self rfl (by decide +kernel)
  have run := run.tail (@Step.answer _ _ 0 _ (.await 1) _ _ _ rfl rfl)
  have run := run.tail (.answer (i := 0) rfl rfl)
  have run := run.tail (.answer (i := 0) rfl rfl)
  have run := run.tail (@Step.free _ _ 0 _ (.write _) _ (.ok ()) rfl trivial)
  have run := reported (e := ⟨"initialized", .null⟩) run rfl rfl rfl (by decide) (by decide)
    (by decide +kernel)
  have run := run.tail (@Step.answer _ _ 0 _ (.awaitEvent "initialized") _ _ _ rfl rfl)
  have run := run.tail (.answer (i := 0) rfl rfl)
  have run := run.tail (.answer (i := 0) rfl rfl)
  have run := run.tail (@Step.free _ _ 0 _ (.write _) _ (.ok ()) rfl trivial)
  have run := responded (r := success 3 .null) (n := 3) run rfl rfl (by decide) (by decide)
    List.mem_cons_self rfl (by decide +kernel)
  have run := run.tail (@Step.answer _ _ 0 _ (.await 3) _ _ _ rfl rfl)
  have run := run.tail (@Step.free _ _ 0 _ (.log _) _ () rfl trivial)
  have run := run.tail (.answer (i := 0) rfl rfl)
  have run := run.tail (.answer (i := 0) rfl rfl)
  have run := run.tail (@Step.free _ _ 0 _ (.write _) _ (.ok ()) rfl trivial)
  have run := responded (r := success 4 .null) (n := 4) run rfl rfl (by decide) (by decide)
    List.mem_cons_self rfl (by decide +kernel)
  have run := run.tail (@Step.answer _ _ 0 _ (.await 4) _ _ _ rfl rfl)
  -- the response to the launch comes only now
  have run := responded (r := success 2 .null) (n := 2) run rfl rfl (by decide) (by decide)
    List.mem_cons_self rfl (by decide +kernel)
  have run := run.tail (@Step.answer _ _ 0 _ (.awaitInTime 2) _ _ _ rfl rfl)
  have run := reported (e := ⟨"stopped", .null⟩) run rfl rfl rfl (by decide) (by decide)
    (by decide +kernel)
  have run := run.tail (@Step.answer _ _ 0 _ (.awaitEvent "stopped") _ _ _ rfl rfl)
  have run := run.tail (.answer (i := 0) rfl rfl)
  have run := run.tail (.answer (i := 0) rfl rfl)
  have run := run.tail (@Step.free _ _ 0 _ (.write _) _ (.ok ()) rfl trivial)
  have run := responded (r := success 5 oneThread) (n := 5) run rfl rfl (by decide) (by decide)
    List.mem_cons_self rfl (by decide +kernel)
  have run := run.tail (@Step.answer _ _ 0 _ (.await 5) _ _ _ rfl rfl)
  have run := run.tail (.answer (i := 0) rfl rfl)
  have done : ∃ t : Traffic, t.Orderly ∧ t.workers 0 = some ⟨.launch entryPlan, .done ()⟩ ∧
      t.history = t.history.dropLast ++ [.exchanged 0 ⟨.listen, ()⟩] ∧
      ((Client.launch entryPlan).run.run default).Gives (launchLog 0 t.history.dropLast)
        (.ok ⟨7⟩, ⟨.null, some ⟨7⟩, default⟩) := by
    refine ⟨_, run, rfl, rfl, ?_⟩
    iterate 25 refine .ask _ _ ?_
    exact .done _
  rcases done with ⟨t, orderly, worker, happened, gives⟩
  have comes := (gives.bind (f := fun _ => .done ()) (.done ())).comes
  rw [List.append_nil] at comes
  have launching : t.Launching 0 entryPlan t.history.dropLast (.done ()) :=
    ⟨worker, ⟨[], happened⟩, default, comes⟩
  have returns : Returns entryPlan 0 t.history.dropLast (.ok ⟨7⟩) := ⟨default, _, gives⟩
  have followed := (Orderly.launch_followed orderly worker).2 _ launching
  exact ⟨t, _, orderly, launching, returns, (followed.2.2.2.1 _ ⟨7⟩ returns).mp rfl⟩

end Traffic
end NotebookKernel.Dap
