import NotebookKernel.Proofs.Cell.Beside

/-!
What a cell has the target evaluate.

A stage of a cell run submits one piece of code or none: the context when the request is announced,
the cell itself, and the code that empties the queue of messages, which only a success leads to.
`Kernel.runCell_evaluated` puts the stages together for every course that a cell may take.
-/

namespace NotebookKernel

/-- The code that is evaluated through a request. -/
def Host.Request.code? : Host.Request → Option String
  | .debugger (.evaluate code _) => some code
  | _ => none

/-- The code that the target is given to evaluate, one piece after the other. -/
def evaluated (log : List Turn) : List String :=
  log.filterMap fun turn => turn.request.code?

@[simp]
theorem evaluated_append (first second : List Turn) :
    evaluated (first ++ second) = evaluated first ++ evaluated second :=
  List.filterMap_append

namespace Host.Request

variable {r : Host.Request}

theorem Expands.code?_eq_none (expands : r.Expands) : r.code? = none := by
  cases r with
  | debugger r => cases expands
  | _ => rfl

theorem Inspects.code?_eq_none (inspects : r.Inspects) : r.code? = none := by
  cases r with
  | debugger r => cases r <;> first | rfl | cases inspects
  | _ => rfl

theorem Forwards.code?_eq_none (forwards : r.Forwards) : r.code? = none := by
  cases r with
  | debugger r => cases forwards
  | _ => rfl

theorem Drains.code?_eq_none (drains : r.Drains) : r.code? = none := by
  cases r with
  | debugger r => cases r <;> first | rfl | cases drains
  | _ => rfl

end Host.Request

/-! ## One piece of code -/

/-- The code in the exchanges of a program. -/
def codes (log : List (Exchange Host)) : List String :=
  log.filterMap fun exchange => exchange.request.code?

theorem codes_append (first second : List (Exchange Host)) :
    codes (first ++ second) = codes first ++ codes second :=
  List.filterMap_append

theorem Program.Gives.codes_eq_nil {α : Type} {p : Act α} {log : List (Exchange Host)} {a : α}
    {allowed : Host.Request → Prop} (run : p.Gives log a) (asks : p.Asks allowed)
    (none : ∀ r, allowed r → r.code? = none) : codes log = [] := by
  rw [codes, List.filterMap_eq_nil_iff]
  intro exchange mem
  exact none _ (run.requests asks exchange mem)

theorem Kernel.codes_submission (k : Kernel) (code : String) (r : Reaction) :
    codes (k.submission code r) = [k.located code] := by
  rw [Kernel.submission, codes_append]
  have described : codes (r.subject?.toList.map fun handle =>
      ⟨Host.Request.debugger (.describe handle), r.described⟩) = [] := by
    cases r.subject? <;> rfl
  rw [described]
  rfl

theorem Kernel.evaluated_submission (k : Kernel) (code : String) (r : Reaction) :
    evaluated ((k.submission code r).map .own) = [k.located code] := by
  rw [evaluated, List.filterMap_map]
  exact k.codes_submission code r

/-- Beside a relay the code that is evaluated is the kernel's. -/
theorem Beside.evaluated_eq_codes {α : Type} {c d : Relay} {p : Act α} {log : List Turn} {a : α}
    (run : Beside c p log d a) (drains : c.Drains) : evaluated log = codes (owned log) := by
  symm
  apply filterMap_owned
  intro turn mem byRelay
  exact ((run.relay_drains drains).2 turn mem byRelay).code?_eq_none

namespace Reaction

/-- The code ran to its end, and its value could be described. -/
def succeeded (r : Reaction) : Bool :=
  match r.outcome with
  | .ok result => result.succeeded
  | .error _ => false

/-- The error that ends a cell whose context the target did not take. -/
def refusal? (r : Reaction) : Option Error :=
  match r.outcome with
  | .error e => some e
  | .ok (.failed value) => some (.refusedSnippet "update request context" value.description)
  | .ok _ => none

theorem outcome_ne_notExpanded (r : Reaction) (e : ExpansionError) :
    r.outcome ≠ .ok (.notExpanded e) := by
  obtain ⟨evaluation, described⟩ := r
  intro same
  cases evaluation with
  | error e => cases same
  | ok evaluation =>
    cases evaluation with
    | valueless => cases same
    | value handle => cases described <;> cases same
    | failed handle => cases described <;> cases same

end Reaction

/-! ## The stages -/

section Stages

variable {k : Kernel} {log : List (Exchange Host)}

theorem Kernel.announceRequest_gives {parent : Json} {result : Except Error Unit}
    (run : (k.announceRequest parent).run.Gives log result) :
    ∃ r : Reaction, log = k.submission (k.language.setContext parent.render) r ∧
      result = match r.refusal? with
        | some e => .error e
        | none => .ok () := by
  obtain ⟨first, second, outcome, rfl, executed, rest⟩ := Program.Gives.of_bind run
  obtain ⟨r, rfl, rfl⟩ := Kernel.execute_gives executed
  refine ⟨r, ?_⟩
  rw [Reaction.refusal?]
  cases outcome : r.outcome with
  | error e =>
    rw [outcome] at rest
    obtain ⟨rfl, rfl⟩ := rest.of_done
    exact ⟨List.append_nil _, rfl⟩
  | ok result =>
    rw [outcome] at rest
    cases result with
    | notExpanded e => exact absurd outcome (r.outcome_ne_notExpanded e)
    | finished =>
      obtain ⟨rfl, rfl⟩ := rest.of_done
      exact ⟨List.append_nil _, rfl⟩
    | gave value =>
      obtain ⟨rfl, rfl⟩ := rest.of_done
      exact ⟨List.append_nil _, rfl⟩
    | failed value =>
      obtain ⟨rfl, rfl⟩ := rest.of_done
      exact ⟨List.append_nil _, rfl⟩

/-- Publishing submits the code that empties the queue, and nothing else. -/
theorem QueuedMessage.codes_publish {result : Unit} (run : (publish k).Gives log result) :
    codes log = [k.located k.language.takeQueue] := by
  obtain ⟨first, second, messages, rfl, drained, sent⟩ := Program.Gives.of_bind run
  obtain ⟨r, rest, rfl, read⟩ := drain_gives drained
  have later : codes rest = [] := by
    rcases read with ⟨queue, -, read⟩ | ⟨-, -, record, rfl⟩
    · exact read.codes_eq_nil (readQueue_asks _ _) fun _ inspects => inspects.code?_eq_none
    · rfl
  rw [codes_append, codes_append, Kernel.codes_submission, later,
    sent.codes_eq_nil (broadcastAll_asks messages) fun _ forwards => forwards.code?_eq_none]
  rfl

/-- Expansion leaves all of a kernel as it is but the state of completion. -/
theorem Kernel.expand_kernel {k' : Kernel} {source : String}
    {result : Except ExpansionError String}
    (run : (Kernel.expand source k).Gives log (result, k')) :
    ∃ completion, k' = { k with completion } := by
  obtain ⟨_, _, ⟨_, completion⟩, rfl, _, rest⟩ := Program.Gives.of_bind run
  obtain ⟨-, same⟩ := rest.of_done
  cases same
  exact ⟨completion, rfl⟩

end Stages

/-- The code that a stage submits. -/
def CellStage.submits : CellStage → List String
  | announcing k _ parent => [k.located (k.language.setContext parent.render)]
  | executing k code => [k.located code]
  | publishing k _ => [k.located k.language.takeQueue]
  | _ => []

/-- To start a relay submits nothing. -/
theorem Streaming.codes_start {chunk : Nat} {log : List (Exchange Host)}
    {started : Except Error Unit} (run : (start chunk).run.Gives log started) : codes log = [] := by
  have asks : (start chunk).run.Asks fun r : Host.Request => r.code? = none := by
    refine Program.Asks.bind ?_ fun _ => ⟨rfl, fun _ => trivial⟩
    exact (broadcastUnread_asks chunk).mono fun _ drains => drains.code?_eq_none
  exact run.codes_eq_nil asks fun _ none => none

/-- Every stage submits its code, whatever it is answered. -/
theorem CellStage.evaluated_program {stage : CellStage} {c d : Relay} {log : List Turn}
    {result : stage.Result} (run : Beside c stage.program log d result) (drains : c.Drains) :
    evaluated log = stage.submits := by
  rw [run.evaluated_eq_codes drains]
  have gives := run.gives drains
  cases stage with
  | announcing k source parent =>
    obtain ⟨r, same, -⟩ := Kernel.announceRequest_gives gives
    rw [same]
    exact k.codes_submission _ r
  | expanding k source =>
    exact gives.codes_eq_nil (Kernel.expand_asks source k) fun _ expands => expands.code?_eq_none
  | starting k code => exact Streaming.codes_start gives
  | executing k code =>
    obtain ⟨r, same, -⟩ := Kernel.execute_gives gives
    rw [same]
    exact k.codes_submission code r
  | flushing k result =>
    exact gives.codes_eq_nil (Streaming.drain_asks _) fun _ drains => drains.code?_eq_none
  | publishing k result => exact QueuedMessage.codes_publish gives
  | stopping k outcome =>
    have asks : (stopping k outcome).program.Asks fun r : Host.Request => r.code? = none :=
      ⟨rfl, fun _ => (Streaming.drain_asks _).mono fun _ drains => drains.code?_eq_none⟩
    exact gives.codes_eq_nil asks fun _ none => none

/-! ## From the execution of a cell to its end -/

namespace Course

variable {k : Kernel} {c d : Relay} {log : List Turn} {ending : CellStage.Ending}

theorem of_stopping {outcome : Except Error CellResult}
    (course : Course c (.stopping k outcome) log d ending) (drains : c.Drains) :
    ending = (outcome, k) ∧ evaluated log = [] := by
  cases course with
  | last run next =>
    cases next
    exact ⟨rfl, CellStage.evaluated_program run drains⟩
  | more run next _ => cases next

/-- The flush tells whether the cell printed. After it the queue is emptied if the code was a
success, and only then. -/
theorem of_flushing {result : Outcome} (course : Course c (.flushing k result) log d ending)
    (drains : c.Drains) :
    ∃ flush rest e printed, log = flush ++ rest ∧
      Beside c (Streaming.drain k.chunkSize) flush e printed ∧
      ending = (.ok ⟨result, printed⟩, k) ∧
      evaluated log = if result.succeeded then [k.located k.language.takeQueue] else [] := by
  cases course with
  | @last _ _ _ _ printed _ run next =>
    rw [CellStage.next] at next
    split at next <;> cases next
  | @more _ e _ _ _ flush rest printed _ run next later =>
    have flushed := CellStage.evaluated_program run drains
    obtain ⟨drains, -⟩ := run.relay_drains drains
    rw [CellStage.next] at next
    refine ⟨flush, rest, e, printed, rfl, run, ?_⟩
    split at next
    · cases next
      cases later with
      | last run next => cases next
      | more run next last =>
        have published := CellStage.evaluated_program run drains
        cases next
        obtain ⟨same, stopped⟩ := last.of_stopping (run.relay_drains drains).1
        refine ⟨same, ?_⟩
        rw [evaluated_append, evaluated_append, flushed, published, stopped]
        simp [CellStage.submits, *]
    · cases next
      obtain ⟨same, stopped⟩ := later.of_stopping drains
      refine ⟨same, ?_⟩
      rw [evaluated_append, flushed, stopped]
      simp [CellStage.submits, *]

/-- The cell is submitted once, and what its answers amount to is the result of the cell. -/
theorem of_executing {code : String} {k' : Kernel} {outcome : Except Error CellResult}
    (course : Course c (.executing k code) log d (outcome, k')) (drains : c.Drains) :
    k' = k ∧ ∃ (r : Reaction) (after : List (Exchange Host)),
      owned log = k.submission code r ++ after ∧ outcome.map CellResult.result = r.outcome ∧
        evaluated log = [k.located code] ++
          if r.succeeded then [k.located k.language.takeQueue] else [] := by
  cases course with
  | @last _ _ _ _ result _ run next => cases result <;> cases next
  | @more _ _ _ _ _ first rest result _ run next later =>
    have executed := CellStage.evaluated_program run drains
    obtain ⟨r, submitted, classified⟩ := Kernel.execute_gives (run.gives drains)
    obtain ⟨drains, -⟩ := run.relay_drains drains
    have same : owned (first ++ rest) = k.submission code r ++ owned rest := by
      rw [owned_append, submitted]
    rw [evaluated_append, executed]
    cases result with
    | error e =>
      cases next
      obtain ⟨ended, stopped⟩ := later.of_stopping drains
      cases ended
      refine ⟨rfl, r, owned rest, same, classified, ?_⟩
      simp [CellStage.submits, stopped, Reaction.succeeded, ← classified]
    | ok result =>
      cases next
      obtain ⟨_, _, _, printed, -, -, ended, emptied⟩ := later.of_flushing drains
      cases ended
      refine ⟨rfl, r, owned rest, same, classified, ?_⟩
      simp [CellStage.submits, emptied, Reaction.succeeded, ← classified]

/-- Between the expansion of a cell and its submission a relay is started. If there is none, that is
the error of the cell, and nothing else happens. -/
theorem of_starting {code : String} {k' : Kernel} {outcome : Except Error CellResult}
    (course : Course .absent (.starting k code) log d (outcome, k')) :
    k' = k ∧ ∃ (starting : List (Exchange Host)) (started : Except Error Unit)
      (streamed : List Turn), log = starting.map .own ++ streamed ∧
      (Streaming.start k.chunkSize).run.Gives starting started ∧
      match started with
      | .error e => outcome = .error e ∧ streamed = [] ∧ evaluated log = []
      | .ok () =>
        ∃ (r : Reaction) (after : List (Exchange Host)),
          owned streamed = k.submission code r ++ after ∧
            outcome.map CellResult.result = r.outcome ∧
            evaluated log = [k.located code] ++
              if r.succeeded then [k.located k.language.takeQueue] else [] := by
  cases course with
  | @last _ _ _ _ started _ run next =>
    have unsubmitted := CellStage.evaluated_program run Relay.absent_drains
    have gives := run.gives Relay.absent_drains
    obtain ⟨reads, had, -, rfl, -⟩ := run.of_start
    rw [owned_map_own] at gives
    cases started with
    | ok _ => cases next
    | error e =>
      cases next
      exact ⟨rfl, _, .error e, [], (List.append_nil _).symm, gives, rfl, rfl, unsubmitted⟩
  | @more _ _ _ _ _ _ streamed started _ run next course =>
    have unsubmitted := CellStage.evaluated_program run Relay.absent_drains
    have gives := run.gives Relay.absent_drains
    have drains := (run.relay_drains Relay.absent_drains).1
    obtain ⟨reads, had, -, rfl, -⟩ := run.of_start
    rw [owned_map_own] at gives
    cases started with
    | error e => cases next
    | ok _ =>
      cases next
      obtain ⟨rfl, r, after, submitted, classified, executed⟩ := course.of_executing drains
      refine ⟨rfl, _, .ok (), streamed, rfl, gives, r, after, submitted, classified, ?_⟩
      rw [evaluated_append, unsubmitted, executed]
      rfl

/-- A cell that cannot be expanded ends there, and so does one without a relay. Any other is
submitted. -/
theorem of_expanding {source : String} {k' : Kernel} {outcome : Except Error CellResult}
    (course : Course .absent (.expanding k source) log d (outcome, k')) :
    ∃ (expanding : List (Exchange Host)) (expanded : Except ExpansionError String)
      (rest : List Turn), log = expanding.map .own ++ rest ∧
      (∀ turn ∈ expanding.map Turn.own, turn.request.Expands) ∧
      (Kernel.expand source k).Gives expanding (expanded, k') ∧
      match expanded with
      | .error e => outcome = .ok ⟨.notExpanded e, false⟩ ∧ rest = [] ∧ evaluated log = []
      | .ok code =>
        ∃ (starting : List (Exchange Host)) (started : Except Error Unit) (streamed : List Turn),
          rest = starting.map .own ++ streamed ∧
          (Streaming.start k.chunkSize).run.Gives starting started ∧
          match started with
          | .error e => outcome = .error e ∧ streamed = [] ∧ evaluated log = []
          | .ok () =>
            ∃ (r : Reaction) (after : List (Exchange Host)),
              owned streamed = k.submission code r ++ after ∧
                outcome.map CellResult.result = r.outcome ∧
                evaluated log = [k.located code] ++
                  if r.succeeded then [k.located k.language.takeQueue] else [] := by
  have expands := Kernel.expand_asks source k
  cases course with
  | @last _ _ _ _ result _ run next =>
    obtain ⟨-, turns, requests⟩ := run.alone rfl expands id
    have unsubmitted := CellStage.evaluated_program run Relay.absent_drains
    have gives := run.gives Relay.absent_drains
    obtain ⟨result, after⟩ := result
    cases result with
    | ok code => cases next
    | error e =>
      cases next
      refine ⟨owned log, .error e, [], ?_, ?_, gives, rfl, rfl, unsubmitted⟩
      · rw [← turns, List.append_nil]
      · rwa [← turns]
  | @more _ _ _ _ _ first rest result _ run next course =>
    obtain ⟨rfl, turns, requests⟩ := run.alone rfl expands id
    have unsubmitted := CellStage.evaluated_program run Relay.absent_drains
    have gives := run.gives Relay.absent_drains
    obtain ⟨result, after⟩ := result
    cases result with
    | error e => cases next
    | ok code =>
      obtain ⟨completion, rfl⟩ := Kernel.expand_kernel gives
      cases next
      obtain ⟨rfl, starting, started, streamed, rfl, starts, ended⟩ := course.of_starting
      refine ⟨owned first, .ok code, _, ?_, ?_, gives, starting, started, streamed, rfl, starts, ?_⟩
      · rw [← turns]
      · rwa [← turns]
      · rw [evaluated_append, unsubmitted]
        exact ended

/-- A context that the target does not take is the error of the cell. -/
theorem of_announcing {source : String} {parent : Json} {k' : Kernel}
    {outcome : Except Error CellResult}
    (course : Course .absent (.announcing k source parent) log d (outcome, k')) :
    ∃ (refresh : Reaction) (later : List Turn),
      log = (k.submission (k.language.setContext parent.render) refresh).map .own ++ later ∧
      (∀ turn ∈ (k.submission (k.language.setContext parent.render) refresh).map Turn.own,
        turn.request.Submits) ∧
      match refresh.refusal? with
      | some e => outcome = .error e ∧ k' = k ∧ later = []
      | none => Course .absent (.expanding k source) later d (outcome, k') := by
  have submits := k.announceRequest_asks parent
  cases course with
  | @last _ _ _ _ announced _ run next =>
    obtain ⟨-, turns, asked⟩ := run.alone rfl submits id
    obtain ⟨r, submitted, refreshed⟩ :=
      Kernel.announceRequest_gives (run.gives Relay.absent_drains)
    rw [submitted] at turns
    refine ⟨r, [], by rw [turns, List.append_nil], turns ▸ asked, ?_⟩
    cases refused : r.refusal? with
    | none =>
      rw [refused] at refreshed
      subst refreshed
      cases next
    | some e =>
      rw [refused] at refreshed
      subst refreshed
      cases next
      exact ⟨rfl, rfl, rfl⟩
  | @more _ _ _ _ _ first later announced _ run next course =>
    obtain ⟨rfl, turns, asked⟩ := run.alone rfl submits id
    obtain ⟨r, submitted, refreshed⟩ :=
      Kernel.announceRequest_gives (run.gives Relay.absent_drains)
    rw [submitted] at turns
    refine ⟨r, later, by rw [turns], turns ▸ asked, ?_⟩
    cases refused : r.refusal? with
    | some e =>
      rw [refused] at refreshed
      subst refreshed
      cases next
    | none =>
      rw [refused] at refreshed
      subst refreshed
      cases next
      exact course

end Course

/-- A cell that comes no further than its expansion leaves output alone, and all it broadcasts are
notices about completion. -/
theorem notices_of_unexpanded {announcing expanding : List Turn}
    (asked : ∀ turn ∈ announcing, turn.request.Submits)
    (expands : ∀ turn ∈ expanding, turn.request.Expands) :
    (∀ turn ∈ announcing ++ expanding, turn.request.aboutRelay = false) ∧
      ∀ turn ∈ announcing ++ expanding, ∀ m, turn.request = .broadcast m →
        ∃ s : CompletionState, m = .notification (.stdout s.notice) := by
  constructor
  · intro turn mem
    rcases List.mem_append.mp mem with mem | mem
    · exact (asked turn mem).bystands
    · exact (expands turn mem).bystands
  · intro turn mem m sent
    rcases List.mem_append.mp mem with mem | mem
    · have submits := asked turn mem
      rw [sent] at submits
      cases submits
    · have expands := expands turn mem
      rw [sent] at expands
      exact expands

/-- Before anything else a cell submits the context, behind the marker of the cell. If the target
does not take it, that is the error of the cell, and nothing else happens. If the cell cannot be
expanded, that is its result: no output is looked at, and all that is broadcast are notices about
completion. If no relay can be started for the output, that is the error of the cell, and nothing
else happens. Otherwise the cell is submitted once, its result is what the answers amount to, and
the code that empties the queue is submitted if that is a success, and only then. -/
theorem Kernel.runCell_evaluated {k k' : Kernel} {source : String} {parent : Json}
    {log : List Turn} {d : Relay} {outcome : Except Error CellResult}
    (run : Beside .absent ((runCell source parent).run.run k) log d (outcome, k')) :
    let marked (code : String) :=
      k.language.marker s!"<Cell {k.counter.toNat}>" 1 ++ "\n" ++ code
    let context := marked (k.language.setContext parent.render)
    ∃ (refresh : Reaction) (later : List Turn),
      log = (k.submission (k.language.setContext parent.render) refresh).map .own ++ later ∧
      match refresh.refusal? with
      | some e => outcome = .error e ∧ k' = k ∧ later = [] ∧ evaluated log = [context]
      | none =>
        ∃ (expanding : List (Exchange Host)) (expanded : Except ExpansionError String)
          (rest : List Turn), later = expanding.map .own ++ rest ∧
          (expand source k).Gives expanding (expanded, k') ∧
          match expanded with
          | .error e =>
            outcome = .ok ⟨.notExpanded e, false⟩ ∧ rest = [] ∧ evaluated log = [context] ∧
              (∀ turn ∈ log, turn.request.aboutRelay = false) ∧
              ∀ turn ∈ log, ∀ m, turn.request = .broadcast m →
                ∃ s : CompletionState, m = .notification (.stdout s.notice)
          | .ok code =>
            ∃ (starting : List (Exchange Host)) (started : Except Error Unit)
              (streamed : List Turn), rest = starting.map .own ++ streamed ∧
              (Streaming.start k.chunkSize).run.Gives starting started ∧
              match started with
              | .error e => outcome = .error e ∧ streamed = [] ∧ evaluated log = [context]
              | .ok () =>
                ∃ (r : Reaction) (after : List (Exchange Host)),
                  owned streamed = k.submission code r ++ after ∧
                  outcome.map CellResult.result = r.outcome ∧
                  evaluated log = [context, marked code] ++
                    if r.succeeded then [marked k.language.takeQueue] else [] := by
  intro marked context
  rw [← CellStage.whole_announcing] at run
  obtain ⟨refresh, later, rfl, asked, ended⟩ := run.course.of_announcing
  have announced := k.evaluated_submission (k.language.setContext parent.render) refresh
  refine ⟨refresh, later, rfl, ?_⟩
  rw [evaluated_append, announced]
  cases refused : refresh.refusal? with
  | some e =>
    rw [refused] at ended
    obtain ⟨rfl, rfl, rfl⟩ := ended
    exact ⟨rfl, rfl, rfl, rfl⟩
  | none =>
    rw [refused] at ended
    obtain ⟨expanding, expanded, rest, rfl, expands, gives, ended⟩ := ended.of_expanding
    refine ⟨expanding, expanded, rest, rfl, gives, ?_⟩
    cases expanded with
    | ok code =>
      obtain ⟨starting, started, streamed, rfl, starts, ended⟩ := ended
      refine ⟨starting, started, streamed, rfl, starts, ?_⟩
      cases started with
      | error e =>
        obtain ⟨rfl, rfl, unsubmitted⟩ := ended
        rw [unsubmitted]
        exact ⟨rfl, rfl, rfl⟩
      | ok _ =>
        obtain ⟨r, after, submitted, classified, executed⟩ := ended
        refine ⟨r, after, submitted, classified, ?_⟩
        rw [executed]
        rfl
    | error e =>
      obtain ⟨rfl, rfl, unsubmitted⟩ := ended
      rw [unsubmitted, List.append_nil, List.append_nil]
      exact ⟨rfl, rfl, rfl, notices_of_unexpanded asked expands⟩

/-- Nothing came of the code. -/
def Reaction.valueless : Reaction :=
  ⟨.ok .valueless, .ok default⟩

/-- The exchanges of a read when nothing is captured. -/
def Streaming.emptyRead : List (Exchange Host) :=
  [⟨Host.Request.debugger .unreadOutput, 0⟩,
    ⟨Host.Request.debugger (.takeOutput 1000), Except.ok ""⟩]

/-- The exchanges of a drain when nothing is captured and nothing was. -/
def Streaming.emptyDrain : List (Exchange Host) :=
  ⟨Host.Request.takeGuard, false⟩ :: emptyRead ++ [⟨Host.Request.releaseGuard false, ()⟩]

/-- The exchanges of a kernel in a cell with a value, which finds nothing in the queue. -/
def Kernel.valueLog (k : Kernel) : List (Exchange Host) :=
  k.submission (TargetLanguage.swift.setContext "null") .valueless ++
    Streaming.emptyRead ++ ⟨Host.Request.startPolling, .ok ()⟩ ::
    k.submission "x" ⟨.ok (.value ⟨0, 1⟩), .ok ⟨"1", some "Int", none⟩⟩ ++ Streaming.emptyDrain ++
    k.submission TargetLanguage.swift.takeQueue .valueless ++
    ⟨Host.Request.log (Log.error .kernel
      "expected value from display message drain, but got: SuccessWithoutValue"), ()⟩ ::
    ⟨Host.Request.stopPolling, ()⟩ :: Streaming.emptyDrain

theorem Kernel.runCell_valueLog (counter : UInt32) :
    ((runCell "x" .null).run.run { (default : Kernel) with counter }).Gives
      (valueLog { (default : Kernel) with counter })
      (.ok ⟨.gave ⟨⟨0, 1⟩, "1", some "Int"⟩, false⟩, { (default : Kernel) with counter }) := by
  repeat apply Program.Gives.ask
  exact .done _

/-- A cell with a value, behind which the queue is emptied. -/
theorem Kernel.runCell_evaluated_value :
    ∃ (log : List Turn) (d : Relay) (value : ShownValue),
      Beside .absent ((runCell "x" .null).run.run default) log d
        (.ok ⟨.gave value, false⟩, default) ∧
      evaluated log = [(default : Kernel).located (TargetLanguage.swift.setContext "null"),
        (default : Kernel).located "x",
        (default : Kernel).located TargetLanguage.swift.takeQueue] := by
  have gives := Kernel.runCell_valueLog (default : Kernel).counter
  have run := Beside.of_gives gives (c := .absent) rfl
  refine ⟨_, _, _, run, ?_⟩
  obtain ⟨refresh, later, -, ended⟩ := Kernel.runCell_evaluated run
  split at ended
  · cases ended.1
  · obtain ⟨expanding, expanded, rest, -, expands, ended⟩ := ended
    have whole : expanded = .ok "x" := congrArg Prod.fst expands.of_done.2
    subst whole
    obtain ⟨starting, started, streamed, -, -, ended⟩ := ended
    cases started with
    | error e => cases ended.1
    | ok _ =>
    obtain ⟨r, after, -, classified, submitted⟩ := ended
    have success : r.succeeded = true := by
      rw [Reaction.succeeded, ← classified]
      rfl
    rw [submitted, success]
    rfl

end NotebookKernel
