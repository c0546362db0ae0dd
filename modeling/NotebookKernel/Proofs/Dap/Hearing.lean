import Mathlib.Data.List.TakeWhile
import NotebookKernel.Proofs.Dap.Courses
import NotebookKernel.Proofs.Dap.Listening

/-!
What a thread that listens hears.

From the moment at which a thread listens, the events that come stand in a queue, and each wait of
the thread takes one of them and drops those before it. `Found` is this as a relation between the
waits of the thread and all events that came since it listens, and `Traffic.Orderly.hears` says that
it holds whatever else happens at the connection.
-/

namespace NotebookKernel.Dap

/-! ## Events and waits in a history -/

/-- The event that a message reports. Output is captured, so it is no event for those who listen. -/
def eventOf? (message : Json) : Option Event :=
  match Message.ofJson? message with
  | some (.event e) => if e.name = "output" then none else some e
  | _ => none

/-- The events that came, the first one first. -/
def eventsIn : List Occurrence → List Event
  | [] => []
  | .received message :: earlier => eventsIn earlier ++ (eventOf? message).toList
  | _ :: earlier => eventsIn earlier

/-- The name that a wait was for, and the event that ended it. -/
def herald? : Exchange Link → Option (String × Event)
  | ⟨.awaitEvent name, .arrived e⟩ => some (name, e)
  | _ => none

/-- Each wait has found the first event that matters to it behind the event of the wait before. The
events behind the last are left. -/
inductive Found : List (String × Event) → List Event → List Event → Prop
  | start (events : List Event) : Found [] events events
  | next {waits : List (String × Event)} {events skipped left : List Event} {name : String}
      {e : Event} :
    Found waits events (skipped ++ e :: left) → (∀ other ∈ skipped, other.matters name = false) →
      e.matters name = true → Found (waits ++ [(name, e)]) events left

section Found

variable {waits : List (String × Event)} {events left : List Event} {name : String} {e : Event}

/-- Events that come later are left. -/
theorem Found.append (found : Found waits events left) (later : List Event) :
    Found waits (events ++ later) (left ++ later) := by
  induction found with
  | start => exact .start _
  | next _ skipped matters ih =>
    rw [List.append_assoc] at ih
    exact .next ih skipped matters

theorem Found.of_snoc (found : Found (waits ++ [(name, e)]) events left) :
    ∃ skipped, Found waits events (skipped ++ e :: left) ∧
      (∀ other ∈ skipped, other.matters name = false) ∧ e.matters name = true := by
  generalize more : waits ++ [(name, e)] = all at found
  cases found with
  | start => simp at more
  | next found skipped matters =>
    rcases List.append_inj' more rfl with ⟨rfl, same⟩
    cases same
    exact ⟨_, found, skipped, matters⟩

end Found

/-! ## The queue of events -/

namespace Connection

variable {c d : Connection}

/-- A message adds its event to the queue if events are kept. -/
theorem deliver_events (c : Connection) (message : Json) :
    (c.deliver message).1.events =
      if c.listening then c.events ++ (eventOf? message).toList else c.events := by
  have kept : ∀ (c : Connection) e, (c.keepEvent e).events =
      if c.listening then c.events ++ [e] else c.events := by
    intro c e
    unfold keepEvent
    split <;> rfl
  unfold deliver eventOf?
  cases Message.ofJson? message with
  | none => simp
  | some parsed =>
    cases parsed with
    | reverseRequest content => simp
    | response r =>
      simp only [deliverResponse, Option.toList_none, List.append_nil, ite_self]
      split <;> rfl
    | event e =>
      simp only [deliverEvent]
      by_cases output : e.name = "output"
      · simp only [output, if_true, captureOutput, Option.toList_none, List.append_nil, ite_self]
        split <;> rfl
      · simp only [output, if_false, Option.toList_some]
        split
        · split
          · exact kept _ e
          · exact kept c e
        · split <;> exact kept c e

/-- Only those who listen change the queue. -/
theorem answer?_events {r : Link.Request} {answer : Link.Answer r}
    (answered : c.answer? r = some (answer, d)) (listen : r ≠ .listen) (unlisten : r ≠ .unlisten)
    (await : ∀ name, r ≠ .awaitEvent name) : d.events = c.events := by
  have fetched : ∀ {seq response e}, c.fetch? seq = some (response, e) → e.events = c.events := by
    intro seq response e fetched
    rw [(fetch?_cases fetched).2]
    cases response <;> rfl
  cases r with
  | listen => exact absurd rfl listen
  | unlisten => exact absurd rfl unlisten
  | awaitEvent name => exact absurd rfl (await name)
  | await seq => exact fetched answered
  | awaitInTime seq =>
    unfold answer? at answered
    rw [Option.map_eq_some_iff] at answered
    rcases answered with ⟨⟨response, e⟩, here, same⟩
    cases response <;> cases same <;> exact fetched here
  | write | signal | killServer | log => cases answered
  | allocate | expect | forget | takeOutput | unreadOutput | debuggee =>
    cases answered
    rfl

/-- A wait takes the first event that matters and drops those before it. -/
theorem awaitEvent_events {name : String} {answer : Awaited Event} (listening : c.listening = true)
    (answered : c.answer? (.awaitEvent name) = some (answer, d)) :
    ∃ skipped e, answer = .arrived e ∧ c.events = skipped ++ e :: d.events ∧
      (∀ other ∈ skipped, other.matters name = false) ∧ e.matters name = true := by
  have split := List.takeWhile_append_dropWhile (p := fun e => !e.matters name) (l := c.events)
  unfold answer? at answered
  dsimp only at answered
  cases rest : c.events.dropWhile fun e => !e.matters name with
  | nil =>
    rw [rest] at answered
    simp only [listening, if_true] at answered
    cases answered
  | cons e left =>
    rw [rest] at answered split
    cases answered
    refine ⟨_, e, rfl, split.symm, fun other mem => ?_, ?_⟩
    · simpa using List.mem_takeWhile_imp mem
    · have some : (c.events.dropWhile fun e => !e.matters name) ≠ [] := by simp [rest]
      simpa [rest] using List.head_dropWhile_not (fun (e : Event) => !e.matters name) some

end Connection

/-! ## What holds however the threads and the reader take turns -/

/-- What an exchange does to the queue. -/
inductive Queued (c d : Connection) : Exchange Link → Prop
  | listen : d.events = [] → Queued c d ⟨.listen, ()⟩
  | unlisten : Queued c d ⟨.unlisten, ()⟩
  | found {name : String} {skipped : List Event} {e : Event} :
    c.events = skipped ++ e :: d.events → (∀ other ∈ skipped, other.matters name = false) →
      e.matters name = true → Queued c d ⟨.awaitEvent name, .arrived e⟩
  | still {exchange : Exchange Link} :
    herald? exchange = none → exchange ≠ ⟨.listen, ()⟩ → d.events = c.events → Queued c d exchange

/-- Nobody listens who did not begin to. -/
theorem Sender.listening_of_after {h : Sender} {exchange : Exchange Link}
    (other : exchange ≠ ⟨.listen, ()⟩) (on : (h.after exchange).listening = true) :
    h.listening = true := by
  rcases exchange with ⟨r, answer⟩
  cases r with
  | listen => exact absurd rfl other
  | unlisten => cases on
  | write r => cases answer <;> exact on
  | _ => exact on

/-- What a thread has waited for and found. -/
def heraldsOf (i : Nat) (history : List Occurrence) : List (String × Event) :=
  (exchangesOf i history).filterMap herald?

/-- A thread began to listen before `since`, and has not begun again. -/
def ListensSince (i : Nat) (since history : List Occurrence) : Prop :=
  ⟨.listen, ()⟩ ∉ exchangesOf i since ∧
    ∃ before, history = since ++ .exchanged i ⟨.listen, ()⟩ :: before

theorem ListensSince.tail {i : Nat} {o p : Occurrence} {since history : List Occurrence}
    (listens : ListensSince i (o :: since) (p :: history)) :
    o = p ∧ ListensSince i since history := by
  rcases listens with ⟨once, before, happened⟩
  rcases List.cons.inj happened with ⟨rfl, rfl⟩
  refine ⟨rfl, fun again => once ?_, before, rfl⟩
  change _ ∈ exchangesOf i ([p] ++ since)
  rw [exchangesOf_append]
  exact List.mem_append_left _ again

namespace Traffic

/-- Whoever began to listen has found its events in order, and what is left is kept for it as long
as it listens. -/
def Hears (t : Traffic) : Prop :=
  ∀ i since, ListensSince i since t.history →
    ∃ left, Found (heraldsOf i since) (eventsIn since) left ∧
      ((t.sender i).listening = true → t.connection.events = left)

section Steps

variable {t : Traffic} {i : Nat} {task : Debugger.Request}

section Exchanges

variable {r : Link.Request} {next : Link.Answer r → LinkAct Unit} {answer : Link.Answer r}
  {d : Connection}

theorem queued_of_answer (listening : ∀ name, r = .awaitEvent name → t.connection.listening = true)
    (answered : t.connection.answer? r = some (answer, d)) :
    Queued t.connection d ⟨r, answer⟩ := by
  by_cases listen : r = .listen
  · subst listen
    cases answered
    exact .listen rfl
  by_cases unlisten : r = .unlisten
  · subst unlisten
    cases answered
    exact .unlisten
  by_cases await : ∃ name, r = .awaitEvent name
  · rcases await with ⟨name, rfl⟩
    rcases Connection.awaitEvent_events (listening name rfl) answered with
      ⟨skipped, e, rfl, split, before, matters⟩
    exact .found split before matters
  · have same := Connection.answer?_events answered listen unlisten fun name same =>
      await ⟨name, same⟩
    refine .still ?_ ?_ same
    · cases r with
      | awaitEvent name => exact absurd ⟨name, rfl⟩ await
      | _ => rfl
    · intro same
      cases same
      exact listen rfl

theorem queued_of_free (free : Link.Free r answer) :
    Queued t.connection t.connection ⟨r, answer⟩ := by
  cases r with
  | awaitEvent name =>
    cases answer with
    | timedOut => exact .still rfl (fun same => nomatch same) rfl
    | _ => cases free
  | write | signal | killServer | log | awaitInTime =>
    exact .still rfl (fun same => nomatch same) rfl
  | _ => cases free

theorem heraldsOf_self (i : Nat) (exchange : Exchange Link) (earlier : List Occurrence) :
    heraldsOf i (.exchanged i exchange :: earlier) =
      heraldsOf i earlier ++ (herald? exchange).toList := by
  unfold heraldsOf
  rw [exchangesOf_self, List.filterMap_append]
  cases found : herald? exchange <;> simp [found]

theorem heraldsOf_other {i j : Nat} (other : j ≠ i) (exchange : Exchange Link)
    (earlier : List Occurrence) :
    heraldsOf i (.exchanged j exchange :: earlier) = heraldsOf i earlier := by
  unfold heraldsOf
  rw [exchangesOf_other other]

/-- Only the one thread that listens takes from the queue. -/
theorem Kept.queued_of_other (kept : t.Kept) (listens : t.Listens) {j : Nat} (other : i ≠ j)
    (worker : t.workers i = some ⟨task, .ask r next⟩) (on : (t.sender j).listening = true)
    (queued : Queued t.connection d ⟨r, answer⟩) : d.events = t.connection.events := by
  rcases kept.worker on with ⟨w, listener⟩
  have launches := listens.launching j w on listener
  -- a second one would be a second launch
  have alone : task.launches = true → False := fun also =>
    other (listens.alone i j _ w worker listener also launches)
  have allowed := (kept.asked worker answer).1
  cases queued with
  | listen => exact (alone allowed.2.2).elim
  | unlisten => exact (alone (listens.launching i _ allowed.2 worker)).elim
  | found => exact (alone (listens.launching i _ allowed.2 worker)).elim
  | still _ _ same => exact same

theorem Hears.exchanged (hears : t.Hears) (kept : t.Kept) (listens : t.Listens)
    (worker : t.workers i = some ⟨task, .ask r next⟩)
    (queued : Queued t.connection d ⟨r, answer⟩) :
    (t.exchanged i task ⟨r, answer⟩ (next answer) d).Hears := by
  intro j since listened
  have sender : ∀ j, (t.exchanged i task ⟨r, answer⟩ (next answer) d).sender j =
      Function.update t.sender i ((t.sender i).after ⟨r, answer⟩) j :=
    fun j => Sender.along_exchanged i j ⟨r, answer⟩ t.history
  rw [sender]
  cases since with
  | nil =>
    rcases listened.2 with ⟨before, happened⟩
    cases happened
    cases queued with
    | listen none => exact ⟨[], .start [], fun _ => none⟩
    | still _ other => exact absurd rfl other
  | cons o since =>
    rcases listened.tail with ⟨rfl, earlier⟩
    rcases hears j since earlier with ⟨left, found, here⟩
    by_cases thread : i = j
    · subst thread
      rw [heraldsOf_self, Function.update_self]
      have on : ∀ {name}, r = .awaitEvent name → (t.sender i).listening = true := by
        rintro name rfl
        exact (kept.asked worker answer).1.2
      cases queued with
      | listen =>
        refine absurd ?_ listened.1
        rw [exchangesOf_self]
        exact List.mem_append_right _ (List.mem_singleton_self _)
      | unlisten =>
        refine ⟨left, ?_, fun off => nomatch off⟩
        change Found (heraldsOf i since ++ []) (eventsIn since) left
        rw [List.append_nil]
        exact found
      | found split skipped matters =>
        rw [here (on rfl)] at split
        subst split
        exact ⟨d.events, found.next skipped matters, fun _ => rfl⟩
      | still none other same =>
        rw [none, Option.toList_none, List.append_nil]
        refine ⟨left, found, fun on => ?_⟩
        exact same.trans (here (Sender.listening_of_after other on))
    · rw [heraldsOf_other thread, Function.update_of_ne (Ne.symm thread)]
      refine ⟨left, found, fun on => ?_⟩
      exact (kept.queued_of_other listens thread worker on queued).trans (here on)

end Exchanges

/-- What is received is added to what is left. -/
theorem Hears.received (hears : t.Hears) (listens : t.Listens) (unread : Bytes) (message : Json) :
    Hears { t with
      connection := ({ t.connection with unread }.deliver message).1
      history := .received message :: t.history } := by
  intro j since listened
  cases since with
  | nil =>
    rcases listened.2 with ⟨before, happened⟩
    cases happened
  | cons o since =>
    rcases listened.tail with ⟨rfl, earlier⟩
    rcases hears j since earlier with ⟨left, found, here⟩
    refine ⟨left ++ (eventOf? message).toList, found.append _, fun on => ?_⟩
    have kept := listens.listening j on
    rw [Connection.deliver_events, if_pos kept, ← here on]

/-- The end of the reader adds nothing, and neither does its death. -/
theorem Hears.gone (hears : t.Hears) {c : Connection} {o : Occurrence}
    (end_ : o = .ended ∨ o = .died) (same : c.events = t.connection.events) :
    (Traffic.mk c t.workers (o :: t.history)).Hears := by
  intro j since listened
  cases since with
  | nil =>
    rcases listened.2 with ⟨before, happened⟩
    rcases end_ with rfl | rfl <;> cases happened
  | cons p since =>
    rcases listened.tail with ⟨rfl, earlier⟩
    rcases hears j since earlier with ⟨left, found, here⟩
    rcases end_ with rfl | rfl <;> exact ⟨left, found, fun on => same.trans (here on)⟩

theorem Hears.step {u : Traffic} (hears : t.Hears) (kept : t.Kept) (listens : t.Listens)
    (step : Step Sole t u) : u.Hears := by
  cases step with
  | begin | finish | arrive => exact hears
  | @answer i task r next answer d worker answered =>
    refine hears.exchanged kept listens worker (queued_of_answer ?_ answered)
    rintro name rfl
    exact listens.listening i (kept.asked worker answer).1.2
  | free worker free => exact hears.exchanged kept listens worker (queued_of_free free)
  | read => exact hears.received listens _ _
  | fail | «break» => exact hears.gone (.inl rfl) rfl
  | die => exact hears.gone (.inr rfl) rfl

end Steps

theorem Orderly.hears {t : Traffic} (orderly : t.Orderly) : t.Hears := by
  unfold Orderly at orderly
  induction orderly with
  | refl =>
    rintro i since ⟨-, before, happened⟩
    cases since <;> cases happened
  | tail before step ih =>
    exact ih.step (Orderly.reachable before).kept (Orderly.listens before) step

end Traffic

end NotebookKernel.Dap
