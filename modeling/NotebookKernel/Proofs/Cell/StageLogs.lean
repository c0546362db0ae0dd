import Mathlib.Data.List.TakeWhile
import NotebookKernel.Proofs.Cell.Settled
import NotebookKernel.Proofs.Cell.OutputKept
import NotebookKernel.Proofs.Program.Progress

/-!
What the kernel did in a cell, stage by stage.

The history of a desk has everything that happened, in one list. `deeds` are the exchanges of the
kernel in the latest cell, with the stages in which they were made. `CellStage.Passed` is how a cell
comes to a stage: each stage before it has run, and the next one followed. At any moment the kernel
has passed the stages before the one it is in, and come some way in that one
(`Desk.Reachable.course`); so whatever happened in a cell happened where `Kernel.runCell` has it.
`Desk.Reachable.exists_step` goes back from an event to the moment at which it happened.
-/

namespace NotebookKernel

/-! ## What stages may ask for -/

namespace CellStage

/-- What a stage may ask for. -/
def MayAsk : CellStage → Host.Request → Prop
  | announcing .., r | executing .., r => r.Submits
  | expanding .., r => r.Expands
  | starting .., r => r.Drains ∨ r = .startPolling
  | flushing .., r => r.Drains
  | publishing .., r => r.Submits ∨ r.Inspects ∨ r.Forwards
  | stopping .., r => r = .stopPolling ∨ r.Drains

theorem asks_mayAsk (stage : CellStage) : stage.program.Asks stage.MayAsk := by
  cases stage with
  | announcing k source parent => exact k.announceRequest_asks parent
  | expanding k source => exact Kernel.expand_asks source k
  | starting k code =>
    refine ((Streaming.broadcastUnread_asks k.chunkSize).mono fun _ => .inl).bind fun _ => ?_
    exact ⟨.inr rfl, fun _ => trivial⟩
  | executing k code => exact k.execute_asks code
  | flushing k result => exact Streaming.drain_asks k.chunkSize
  | publishing k result =>
    exact QueuedMessage.publish_asks (fun _ => .inl) (fun _ inspects => .inr (.inl inspects))
      (fun _ forwards => .inr (.inr forwards)) k
  | stopping k outcome =>
    exact ⟨.inl rfl, fun _ => (Streaming.drain_asks k.chunkSize).mono fun _ => .inr⟩

variable {stage : CellStage} {r : Host.Request}

theorem MayAsk.inCell (asks : stage.MayAsk r) : r.InCell := by
  cases stage with
  | announcing _ _ _ | executing _ _ => exact .submits asks
  | expanding _ _ => exact .expands asks
  | starting _ _ =>
    rcases asks with drains | rfl
    · exact .drains drains
    · exact .startPolling
  | flushing _ _ => exact .drains asks
  | publishing _ _ =>
    rcases asks with submits | inspects | forwards
    · exact .submits submits
    · exact .inspects inspects
    · exact .forwards forwards
  | stopping _ _ =>
    rcases asks with rfl | drains
    · exact .stopPolling
    · exact .drains drains

/-- Messages of the target are forwarded by one stage only. -/
theorem MayAsk.of_parts {parts : List Bytes} (asks : stage.MayAsk (.broadcast (.parts parts))) :
    ∃ k result, stage = .publishing k result := by
  cases stage with
  | publishing k result => exact ⟨k, result, rfl⟩
  | expanding _ _ =>
    obtain ⟨_, same⟩ := asks
    cases same
  | starting _ _ => rcases asks with drains | same <;> first | cases drains | cases same
  | stopping _ _ => rcases asks with same | drains <;> first | cases same | cases drains
  | _ => cases asks

theorem MayAsk.of_startPolling (asks : stage.MayAsk .startPolling) :
    ∃ k code, stage = .starting k code := by
  cases stage with
  | starting k code => exact ⟨k, code, rfl⟩
  | publishing _ _ => rcases asks with asks | asks | asks <;> cases asks
  | stopping _ _ => rcases asks with same | drains <;> first | cases same | cases drains
  | _ => cases asks

theorem MayAsk.of_stopPolling (asks : stage.MayAsk .stopPolling) :
    ∃ k outcome, stage = .stopping k outcome := by
  cases stage with
  | stopping k outcome => exact ⟨k, outcome, rfl⟩
  | publishing _ _ => rcases asks with asks | asks | asks <;> cases asks
  | starting _ _ => rcases asks with drains | same <;> first | cases drains | cases same
  | _ => cases asks

/-! ## How a cell comes to a stage -/

/-- A stage follows another one with some result. -/
inductive Follows : (stage : CellStage) → stage.Result → CellStage → Prop
  | announced (k : Kernel) (source : String) (parent : Json) :
    Follows (announcing k source parent) (.ok ()) (expanding k source)
  | expanded (k k' : Kernel) (source code : String) :
    Follows (expanding k source) (.ok code, k') (starting k' code)
  | started (k : Kernel) (code : String) : Follows (starting k code) (.ok ()) (executing k code)
  | failed (k : Kernel) (code : String) (e : Error) :
    Follows (executing k code) (.error e) (stopping k (.error e))
  | executed (k : Kernel) (code : String) (result : Outcome) :
    Follows (executing k code) (.ok result) (flushing k result)
  | succeeded (k : Kernel) (result : Outcome) (printed : Bool) : result.succeeded = true →
    Follows (flushing k result) printed (publishing k ⟨result, printed⟩)
  | unsuccessful (k : Kernel) (result : Outcome) (printed : Bool) : result.succeeded = false →
    Follows (flushing k result) printed (stopping k (.ok ⟨result, printed⟩))
  | published (k : Kernel) (result : CellResult) :
    Follows (publishing k result) () (stopping k (.ok result))

theorem follows_of_next {later : CellStage} {result : stage.Result}
    (next : stage.next result = .inl later) : stage.Follows result later := by
  cases stage with
  | announcing k source parent =>
    cases result with
    | error e => cases next
    | ok _ => cases next; exact .announced k source parent
  | expanding k source =>
    obtain ⟨result, k'⟩ := result
    cases result with
    | error e => cases next
    | ok code => cases next; exact .expanded k k' source code
  | starting k code =>
    cases result with
    | error e => cases next
    | ok _ => cases next; exact .started k code
  | executing k code =>
    cases result with
    | error e => cases next; exact .failed k code e
    | ok result => cases next; exact .executed k code result
  | flushing k outcome =>
    rw [CellStage.next] at next
    split at next
    · next success => cases next; exact .succeeded k outcome result success
    · next failure => cases next; exact .unsuccessful k outcome result (by simpa using failure)
  | publishing k reached => cases next; exact .published k reached
  | stopping k outcome => cases next

/-- From one stage a cell comes to another: each stage in between runs, and the next one follows. -/
inductive Passed (first : CellStage) : List (CellStage × Exchange Host) → CellStage → Prop
  | here : Passed first [] first
  | on {log : List (CellStage × Exchange Host)} {stage later : CellStage}
      {exchanges : List (Exchange Host)} {result : stage.Result} :
    Passed first log stage → stage.program.Gives exchanges result →
      stage.next result = .inl later → Passed first (log ++ exchanges.map (stage, ·)) later

namespace Passed

variable {first : CellStage} {log : List (CellStage × Exchange Host)}

/-- As many stages as are left at a stage are left at its exchanges and at those before them. -/
theorem le_left_append {bound : Nat} {exchanges : List (Exchange Host)} (le : bound ≤ stage.left)
    (earlier : ∀ deed ∈ log, stage.left < deed.1.left) :
    ∀ deed ∈ log ++ exchanges.map (stage, ·), bound ≤ deed.1.left := by
  intro deed mem
  rcases List.mem_append.mp mem with mem | mem
  · exact Nat.le_trans le (Nat.le_of_lt (earlier deed mem))
  · obtain ⟨exchange, -, rfl⟩ := List.mem_map.mp mem
    exact le

/-- The stages that were passed are earlier ones. -/
theorem left_lt (passed : first.Passed log stage) : ∀ deed ∈ log, stage.left < deed.1.left := by
  induction passed with
  | here => exact List.forall_mem_nil _
  | on _ _ next ih => exact le_left_append (left_lt_of_next next) ih

/-- Together with the stages that follow they are a run of the whole. -/
theorem whole_gives (passed : first.Passed log stage) {rest : List (Exchange Host)}
    {ending : Ending} (run : stage.whole.Gives rest ending) :
    first.whole.Gives (log.map Prod.snd ++ rest) ending := by
  induction passed generalizing rest with
  | here => exact run
  | @on log stage later exchanges result _ gives next ih =>
    have onward : stage.whole.Gives (exchanges ++ rest) ending := by
      rw [whole_eq]
      refine gives.bind ?_
      rw [next]
      exact run
    simpa [Function.comp_def] using ih onward

variable {k kernel : Kernel} {source code : String} {parent : Json}

/-- Code is executed when a relay was started for it. -/
theorem of_executing (passed : (announcing kernel source parent).Passed log (.executing k code)) :
    ∃ earlier exchanges, log = earlier ++ exchanges.map (starting k code, ·) ∧
      (Streaming.start k.chunkSize).run.Gives exchanges (.ok ()) := by
  cases passed with
  | @on earlier stage _ exchanges result _ run next =>
    cases follows_of_next next
    exact ⟨earlier, exchanges, rfl, run⟩

/-- Output is flushed when code was executed and the answers amount to a result. -/
theorem of_flushing {result : Outcome}
    (passed : (announcing kernel source parent).Passed log (.flushing k result)) :
    ∃ earlier code r, log = earlier ++ (k.submission code r).map (executing k code, ·) ∧
      r.outcome = .ok result := by
  cases passed with
  | @on earlier stage _ exchanges _ _ run next =>
    cases follows_of_next next with
    | executed _ code _ =>
      obtain ⟨r, rfl, answered⟩ := Kernel.execute_gives run
      exact ⟨earlier, code, r, rfl, answered.symm⟩

/-- Messages are published when output was flushed, after a success. -/
theorem of_publishing {result : CellResult}
    (passed : (announcing kernel source parent).Passed log (.publishing k result)) :
    result.result.succeeded = true ∧ ∃ earlier, ∃ exchanges : List (Exchange Host),
      log = earlier ++ exchanges.map (flushing k result.result, ·) ∧
        (announcing kernel source parent).Passed earlier (.flushing k result.result) := by
  cases passed with
  | @on earlier stage _ exchanges _ before run next =>
    cases follows_of_next next with
    | succeeded _ _ _ success => exact ⟨success, earlier, exchanges, rfl, before⟩

/-- The relay is stopped behind the messages after a success, and without any otherwise. -/
theorem of_stopping {outcome : Except Error CellResult}
    (passed : (announcing kernel source parent).Passed log (.stopping k outcome)) :
    (∃ result earlier, ∃ exchanges : List (Exchange Host),
      outcome = .ok result ∧ result.result.succeeded = true ∧
      log = earlier ++ exchanges.map (publishing k result, ·) ∧
      (∀ deed ∈ earlier, 1 < deed.1.left) ∧ (QueuedMessage.publish k).Gives exchanges ()) ∨
    (∀ result, outcome = .ok result → result.result.succeeded = false) ∧
      ∀ deed ∈ log, 1 < deed.1.left := by
  cases passed with
  | @on earlier stage _ exchanges _ before run next =>
    have later := before.left_lt
    cases follows_of_next next with
    | failed => exact .inr ⟨nofun, le_left_append (by simp [left]) later⟩
    | unsuccessful _ _ _ failure =>
      refine .inr ⟨?_, le_left_append (by simp [left]) later⟩
      rintro _ ⟨⟩
      exact failure
    | published _ result =>
      cases before with
      | @on _ _ _ _ _ _ _ next =>
        cases follows_of_next next with
        | succeeded _ _ _ success =>
          exact .inl ⟨_, _, exchanges, rfl, success, rfl, later, run⟩

end Passed

end CellStage

/-! ## What a history tells of the kernel -/

namespace Event

/-- A cell began. -/
def begins : Event → Bool
  | began => true
  | _ => false

/-- An exchange of the kernel, with its stage. -/
def deed? : Event → Option (CellStage × Exchange Host)
  | exchanged (.kernel stage) exchange => some (stage, exchange)
  | _ => none

end Event

/-- What has happened since the latest cell began, the latest first. -/
def thisCell (history : List Event) : List Event :=
  history.takeWhile fun event => !event.begins

/-- What the kernel did in the latest cell, the first exchange first. -/
def deeds (history : List Event) : List (CellStage × Exchange Host) :=
  ((thisCell history).filterMap Event.deed?).reverse

section History

variable {event : Event} {history : List Event}

theorem thisCell_cons (going : event ≠ .began) :
    thisCell (event :: history) = event :: thisCell history := by
  cases event with
  | began => exact absurd rfl going
  | _ => rfl

theorem deeds_own (stage : CellStage) (exchange : Exchange Host) :
    deeds (.exchanged (.kernel stage) exchange :: history) =
      deeds history ++ [(stage, exchange)] :=
  List.reverse_cons

theorem mem_deeds {stage : CellStage} {exchange : Exchange Host} :
    (stage, exchange) ∈ deeds history ↔ .exchanged (.kernel stage) exchange ∈ thisCell history := by
  rw [deeds, List.mem_reverse, List.mem_filterMap]
  constructor
  · rintro ⟨event, mem, same⟩
    cases event with
    | exchanged party exchange =>
      cases party with
      | kernel stage => cases same; exact mem
      | relay => cases same
    | _ => cases same
  · exact fun mem => ⟨_, mem, rfl⟩

theorem ne_began_of_mem (mem : event ∈ thisCell history) : event ≠ .began := by
  rintro rfl
  simpa [Event.begins] using List.mem_takeWhile_imp mem

/-- What happened in the latest cell happened at some moment, and no cell began since. -/
theorem exists_append_of_mem (mem : event ∈ thisCell history) :
    ∃ since earlier, history = since ++ event :: earlier ∧ ∀ other ∈ since, other ≠ .began := by
  obtain ⟨since, earlier, split⟩ := List.append_of_mem mem
  obtain ⟨before, whole⟩ : thisCell history <+: history := List.takeWhile_prefix _
  refine ⟨since, earlier ++ before, ?_, fun other here => ?_⟩
  · rw [← whole, split, List.append_assoc, List.cons_append]
  · have mem : other ∈ thisCell history := by
      rw [split]
      exact List.mem_append_left _ here
    exact ne_began_of_mem mem

end History

/-! ## The course of a cell -/

/-- How far the kernel has come with a cell: it has passed some stages, and come some way in the one
it is in, or ended with it. -/
def KernelThread.Course (first : CellStage) (log : List (CellStage × Exchange Host)) :
    KernelThread → Prop
  | idle none => log = []
  | idle (some ending) => ∃ earlier stage exchanges result,
    log = earlier ++ exchanges.map (stage, ·) ∧ first.Passed earlier stage ∧
      stage.program.Gives exchanges result ∧ stage.next result = .inr ending
  | within stage rest => ∃ earlier exchanges, log = earlier ++ exchanges.map (stage, ·) ∧
    first.Passed earlier stage ∧ stage.program.Comes exchanges rest

namespace KernelThread.Course

variable {first stage : CellStage} {log : List (CellStage × Exchange Host)} {thread : KernelThread}

/-- The stages of what was done so far are no later than the one the kernel is in. -/
theorem left_le {rest : Act stage.Result} (course : (within stage rest).Course first log) :
    ∀ deed ∈ log, stage.left ≤ deed.1.left := by
  obtain ⟨earlier, exchanges, rfl, passed, -⟩ := course
  exact CellStage.Passed.le_left_append (Nat.le_refl _) passed.left_lt

/-- When the kernel is idle again it has run the whole. -/
theorem whole_gives {ending : CellStage.Ending} (course : (idle (some ending)).Course first log) :
    first.whole.Gives (log.map Prod.snd) ending := by
  obtain ⟨earlier, stage, exchanges, result, rfl, passed, run, next⟩ := course
  have last : stage.whole.Gives (exchanges ++ []) ending := by
    rw [CellStage.whole_eq]
    refine run.bind ?_
    rw [next]
    exact .done ending
  simpa [Function.comp_def] using passed.whole_gives last

/-- A cell ends with its relay, or it ends without having started one and is no success. -/
theorem ended {k k' : Kernel} {source : String} {parent : Json} {outcome : Except Error CellResult}
    (course : (idle (some (outcome, k'))).Course (.announcing k source parent) log) :
    ((∀ deed ∈ log, 4 ≤ deed.1.left) ∧
      ∀ result, outcome = .ok result → result.result.succeeded = false) ∨
    ∃ earlier exchanges had, log = earlier ++ exchanges.map (.stopping k' outcome, ·) ∧
      (CellStage.announcing k source parent).Passed earlier (.stopping k' outcome) ∧
      (Streaming.stop k'.chunkSize).Gives exchanges had := by
  obtain ⟨earlier, stage, exchanges, result, rfl, passed, run, next⟩ := course
  have early : 4 ≤ stage.left → ∀ deed ∈ earlier ++ exchanges.map (stage, ·), 4 ≤ deed.1.left :=
    fun le => CellStage.Passed.le_left_append le passed.left_lt
  cases stage with
  | announcing _ _ _ =>
    cases result with
    | error e => cases next; exact .inl ⟨early (by simp [CellStage.left]), nofun⟩
    | ok _ => cases next
  | expanding _ _ =>
    obtain ⟨result, _⟩ := result
    cases result with
    | error e =>
      cases next
      refine .inl ⟨early (by simp [CellStage.left]), ?_⟩
      rintro _ ⟨⟩
      rfl
    | ok code => cases next
  | starting _ _ =>
    cases result with
    | error e => cases next; exact .inl ⟨early (by simp [CellStage.left]), nofun⟩
    | ok _ => cases next
  | stopping _ _ => cases next; exact .inr ⟨earlier, exchanges, result, rfl, passed, run⟩
  | executing _ _ => cases result <;> cases next
  | flushing _ _ =>
    rw [CellStage.next] at next
    split at next <;> cases next
  | _ => cases next

end KernelThread.Course

namespace Desk

variable {c d : Desk}

/-- Whatever kernel, relay and target come to, the kernel is on the course of a cell. -/
theorem Reachable.course (reach : c.Reachable) :
    ∃ k source parent, c.thread.Course (.announcing k source parent) (deeds c.history) := by
  induction reach with
  | refl => exact ⟨default, "", .null, rfl⟩
  | tail _ step ih =>
    obtain ⟨k, source, parent, course⟩ := ih
    cases step with
    | print text =>
      exact ⟨k, source, parent, course⟩
    | begin k source parent idle => exact ⟨k, source, parent, [], [], rfl, .here, .start⟩
    | exchange answer t within answered =>
      rw [within] at course
      obtain ⟨earlier, exchanges, made, passed, comes⟩ := course
      refine ⟨k, source, parent, earlier, _, ?_, passed, comes.answered answer⟩
      rw [deeds_own, made, List.map_append, List.append_assoc]
      rfl
    | advance within next =>
      rw [within] at course
      obtain ⟨earlier, exchanges, made, passed, comes⟩ := course
      exact ⟨k, source, parent, _, [], made.trans (List.append_nil _).symm,
        passed.on comes.gives_done next, .start⟩
    | finish within next =>
      rw [within] at course
      obtain ⟨earlier, exchanges, made, passed, comes⟩ := course
      exact ⟨k, source, parent, earlier, _, exchanges, _, made, passed, comes.gives_done, next⟩
    | relayExchange answer t underWay answered =>
      exact ⟨k, source, parent, course⟩
    | poll | rest => exact ⟨k, source, parent, course⟩

/-- A drain of the relay that is under way asks what drains ask. -/
theorem Reachable.drain_asks (reach : c.Reachable) :
    ∀ rest, c.drain = some rest → rest.Asks Host.Request.Drains := by
  induction reach with
  | refl => exact fun _ underWay => nomatch underWay
  | tail _ step ih =>
    cases step with
    | poll chunk polling resting =>
      rintro _ ⟨⟩
      exact Streaming.drain_asks chunk
    | relayExchange answer t underWay answered =>
      rintro _ ⟨⟩
      exact (ih _ underWay).2 answer
    | rest ended => exact fun _ underWay => nomatch underWay
    | _ => exact ih

/-! ## From an event to the moment at which it happened -/

/-- A step adds an event to the history, or none. -/
theorem Step.history (step : Step c d) :
    d.history = c.history ∨ ∃ event, d.history = event :: c.history := by
  cases step with
  | advance | finish | poll | rest => exact .inl rfl
  | _ => exact .inr ⟨_, rfl⟩

/-- Every event happened in one step, and what came of it came later. -/
theorem Reachable.exists_step (reach : c.Reachable) {event : Event} {before : List Event}
    (happened : event :: before <:+ c.history) :
    ∃ a b : Desk, a.Reachable ∧ Step a b ∧ a.history = before ∧ b.history = event :: before ∧
      Relation.ReflTransGen Step b c := by
  induction reach with
  | refl => cases List.suffix_nil.mp happened
  | @tail c d reach step ih =>
    have earlier : event :: before <:+ c.history → ∃ a b, a.Reachable ∧ Step a b ∧
        a.history = before ∧ b.history = event :: before ∧ Relation.ReflTransGen Step b d := by
      intro happened
      obtain ⟨a, b, reached, at', before, now, later⟩ := ih happened
      exact ⟨a, b, reached, at', before, now, later.tail step⟩
    rcases step.history with same | ⟨other, grown⟩
    · rw [same] at happened
      exact earlier happened
    · rw [grown] at happened
      rcases List.suffix_cons_iff.mp happened with same | happened
      · obtain ⟨rfl, rfl⟩ := List.cons.inj same
        exact ⟨c, d, reach, step, rfl, grown, .refl⟩
      · exact earlier happened

/-- In an exchange the kernel asks, and goes on with the answer. -/
theorem Step.of_kernel (step : Step c d) {stage : CellStage} {exchange : Exchange Host}
    (now : d.history = .exchanged (.kernel stage) exchange :: c.history) :
    ∃ next, c.thread = .within stage (.ask exchange.request next) ∧
      d.thread = .within stage (next exchange.answer) := by
  cases step with
  | exchange answer t within answered =>
    obtain ⟨⟨⟩, -⟩ := List.cons.inj now
    exact ⟨_, within, rfl⟩
  | print | begin | relayExchange => cases (List.cons.inj now).1
  | advance | finish | poll | rest => exact absurd now (List.cons_ne_self _ _).symm

theorem Step.of_relay (step : Step c d) {exchange : Exchange Host}
    (now : d.history = .exchanged .relay exchange :: c.history) :
    ∃ next, c.drain = some (.ask exchange.request next) := by
  cases step with
  | relayExchange answer t underWay answered =>
    obtain ⟨⟨⟩, -⟩ := List.cons.inj now
    exact ⟨_, underWay⟩
  | print | begin | exchange => cases (List.cons.inj now).1
  | advance | finish | poll | rest => exact absurd now (List.cons_ne_self _ _).symm

section Exchanges

variable {stage : CellStage} {exchange : Exchange Host} {before : List Event}

/-- At an exchange of the kernel it was within the stage and about to ask. -/
theorem Reachable.asking (reach : c.Reachable)
    (happened : .exchanged (.kernel stage) exchange :: before <:+ c.history) :
    ∃ a : Desk, a.Reachable ∧ a.history = before ∧
      ∃ next, a.thread = .within stage (.ask exchange.request next) := by
  obtain ⟨a, b, reached, step, rfl, now, -⟩ := reach.exists_step happened
  obtain ⟨next, within, -⟩ := step.of_kernel now
  exact ⟨a, reached, rfl, next, within⟩

/-- At an exchange of the relay a drain was under way and about to ask. -/
theorem Reachable.draining (reach : c.Reachable)
    (happened : .exchanged .relay exchange :: before <:+ c.history) :
    ∃ a : Desk, a.Reachable ∧ a.history = before ∧
      ∃ next, a.drain = some (.ask exchange.request next) := by
  obtain ⟨a, b, reached, step, rfl, now, -⟩ := reach.exists_step happened
  exact ⟨a, reached, rfl, step.of_relay now⟩

/-- The kernel asks in a stage what the stage may ask. -/
theorem Reachable.mayAsk (reach : c.Reachable)
    (happened : .exchanged (.kernel stage) exchange :: before <:+ c.history) :
    stage.MayAsk exchange.request := by
  obtain ⟨a, reached, -, next, within⟩ := reach.asking happened
  obtain ⟨k, source, parent, course⟩ := reached.course
  rw [within] at course
  obtain ⟨_, _, -, -, comes⟩ := course
  exact (comes.asks stage.asks_mayAsk).1

/-- The relay asks what drains ask. -/
theorem Reachable.drains (reach : c.Reachable)
    (happened : .exchanged .relay exchange :: before <:+ c.history) :
    exchange.request.Drains := by
  obtain ⟨a, reached, -, next, underWay⟩ := reach.draining happened
  exact (reached.drain_asks _ underWay).1

end Exchanges

end Desk

end NotebookKernel
