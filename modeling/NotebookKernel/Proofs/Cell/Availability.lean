import NotebookKernel.Kernel
import NotebookKernel.Proofs.Cell.Settled
import NotebookKernel.Proofs.Cell.Starting

/-!
Completion is there when it was asked for.

A kernel that was started runs cells and completes code, in any order. Whether it completes is
decided by its past: the debugger offered completion at the start, and a line of an earlier cell
asked for it that came to be treated (`Kernel.complete_isSome_iff`). What a cell did can be told from
its exchanges, which fall into the context, the treatments of its lines and the rest in one way only
(`Dissection.Of.unique`), so the past is the list of the calls with their exchanges.
-/

namespace NotebookKernel

/-! ## The parts of a cell -/

/-- A cell, taken apart: the answers to its context, what was done for its lines, and the rest. -/
structure Dissection where
  refresh : Reaction
  treatments : List Treatment
  rest : List Turn

namespace Dissection

variable {k : Kernel} {source : String} {parent : Json} {turns : List Turn}

/-- The turns of a cell are taken apart. Its lines are treated if the target takes the context, and
only then; and if they are not, or if one of them fails, nothing but errors is broadcast any more. -/
structure Of (x : Dissection) (k : Kernel) (source : String) (parent : Json) (turns : List Turn) :
    Prop where
  turns : turns = (k.submission (k.language.setContext parent.render) x.refresh ++
    Treatment.log x.treatments).map .own ++ x.rest
  refused : x.refresh.refusal? ≠ none → x.treatments = []
  covered : x.refresh.refusal? = none → Covered (Text.lines source.toList) x.treatments
  apt : ∀ t ∈ x.treatments, t.Apt k.expander.includePath.roots k.completion.supported
  silent : (x.refresh.refusal? ≠ none ∨ ∃ t ∈ x.treatments, t.Fails) →
    ∀ turn ∈ x.rest, ∀ m, turn.request = .broadcast m → ∃ e, m = .notification (.error e)

end Dissection

/-- Submitted code with its answers is followed by other exchanges in one way. -/
theorem Kernel.submission_unique {k : Kernel} {code : String} {r r' : Reaction}
    {more more' : List (Exchange Host)}
    (same : k.submission code r ++ more = k.submission code r' ++ more') :
    r.outcome = r'.outcome ∧ more = more' := by
  obtain ⟨evaluation, described⟩ := r
  obtain ⟨evaluation', described'⟩ := r'
  simp only [submission, Session.evaluating, List.cons_append, List.nil_append, List.cons.injEq,
    true_and, Exchange.mk.injEq, heq_eq_eq] at same
  obtain ⟨rfl, same⟩ := same
  cases evaluation with
  | error e => exact ⟨rfl, same⟩
  | ok evaluation =>
    cases evaluation with
    | valueless => exact ⟨rfl, same⟩
    | value handle | failed handle =>
      obtain ⟨first, rest⟩ := List.cons.inj same
      obtain rfl : described = described' := by simpa using first
      exact ⟨rfl, rest⟩

theorem Dissection.Of.unique {k : Kernel} {source : String} {parent : Json} {turns : List Turn}
    {x y : Dissection} (left : x.Of k source parent turns) (right : y.Of k source parent turns) :
    x.refresh.refusal? = y.refresh.refusal? ∧ x.treatments = y.treatments := by
  have same := congrArg (List.map Turn.exchange) (left.turns.symm.trans right.turns)
  have exchanges : ∀ log : List (Exchange Host), (log.map Turn.own).map Turn.exchange = log := by
    simp [Function.comp_def, Turn.own]
  simp only [List.map_append, exchanges, List.append_assoc] at same
  obtain ⟨outcome, same⟩ := Kernel.submission_unique same
  have refusal : x.refresh.refusal? = y.refresh.refusal? := by
    rw [Reaction.refusal?, Reaction.refusal?, outcome]
  refine ⟨refusal, ?_⟩
  cases refused : x.refresh.refusal? with
  | some e =>
    rw [left.refused (by simp [refused]), right.refused (by simp [← refusal, refused])]
  | none =>
    exact (left.covered refused).treatments_unique (right.covered (refusal ▸ refused)) left.apt
      right.apt same

/-- Of what the channel is offered, the messages for the sake of a line. -/
def Treatment.notices (t : Treatment) : List Broadcast :=
  t.exchanges.filterMap fun exchange => exchange.request.message?

theorem Searched.notices {name : String} {roots : List String} {log : List (Exchange Host)}
    (searched : Searched name roots log) :
    (log.filterMap fun exchange => exchange.request.message?) = [] := by
  induction searched with
  | nowhere => rfl
  | found => rfl
  | passed root e _ ih => exact ih

/-- A line that asks for completion is answered with one notice, and no other line with any. -/
theorem Treatment.Apt.notices {roots : List String} {supported : Bool} {t : Treatment}
    (apt : t.Apt roots supported) :
    (Directive.AsksCompletion t.line →
      t.notices = [.notification (.stdout (CompletionState.ofSupport supported).notice)]) ∧
    (¬ Directive.AsksCompletion t.line → t.notices = []) := by
  rw [← Directive.ofLine_eq_enableCompletion_iff]
  unfold Apt at apt
  unfold Treatment.notices
  cases directive : Directive.ofLine t.line with
  | text =>
    rw [directive] at apt
    simp [show t.exchanges = [] from apt]
  | enableCompletion =>
    rw [directive] at apt
    obtain ⟨answer, same⟩ := apt
    rw [same]
    cases answer <;> simp [noticed, Host.Request.message?]
  | includeFile name? =>
    rw [directive] at apt
    cases name? with
    | none => simp [show t.exchanges = [] from apt]
    | some name => simp [Searched.notices apt]

/-- The report about a cell that came to no execution broadcasts nothing but its error. -/
theorem Kernel.report_unexecuted {k : Kernel} {outcome : Except Error CellResult}
    (unexecuted : (∃ e, outcome = .error e) ∨ ∃ e, outcome = .ok ⟨.notExpanded e, false⟩) :
    (k.report outcome).Asks fun r : Host.Request =>
      ∀ m, r = .broadcast m → ∃ e, m = .notification (.error e) := by
  have told : ∀ traceback, (k.broadcastError traceback).Asks fun r : Host.Request =>
      ∀ m, r = .broadcast m → ∃ e, m = .notification (.error e) := by
    refine fun traceback => (Act.broadcastOrWarn_asks ?_ fun _ => nofun).bind fun _ => trivial
    rintro m ⟨⟩
    exact ⟨_, rfl⟩
  obtain ⟨e, rfl⟩ | ⟨e, rfl⟩ := unexecuted
  · exact ⟨nofun, fun _ => told _⟩
  · exact told _

/-- Every cell can be taken apart. It leaves completion on if it was, or if a line that was treated
asks for it and the debugger supports it; nothing else of the kernel changes. -/
theorem Kernel.answerCell_dissected {k k' : Kernel} {source : String} {parent : Json}
    {turns : List Turn} {d : Relay} {reply : ExecuteReply}
    (run : Beside .absent ((answerCell source parent).run k) turns d (reply, k')) :
    ∃ x : Dissection, x.Of k source parent turns ∧
      Expander.Leaves k.completion x.treatments k'.completion ∧
      k' = { k with completion := k'.completion } := by
  obtain ⟨cell, closing, outcome, rfl, rfl, course, reported⟩ := answerCell_course run
  have silent : ((∃ e, outcome = .error e) ∨ ∃ e, outcome = .ok ⟨.notExpanded e, false⟩) →
      ∀ turn ∈ closing.map Turn.own, ∀ m, turn.request = .broadcast m →
        ∃ e, m = .notification (.error e) := by
    intro unexecuted turn mem
    obtain ⟨exchange, told, rfl⟩ := List.mem_map.mp mem
    exact reported.requests (report_unexecuted unexecuted) exchange told
  obtain ⟨refresh, later, rfl, -, announced⟩ := course.of_announcing
  cases refused : refresh.refusal? with
  | some e =>
    rw [refused] at announced
    obtain ⟨rfl, rfl, rfl⟩ := announced
    refine ⟨⟨refresh, [], closing.map .own⟩, ⟨by simp [Treatment.log], fun _ => rfl, ?_,
      List.forall_mem_nil _, fun _ => silent (.inl ⟨e, rfl⟩)⟩, .refl _ (List.forall_mem_nil _), rfl⟩
    exact fun taken => absurd (refused.symm.trans taken) (Option.some_ne_none e)
  | none =>
    rw [refused] at announced
    obtain ⟨expanding, expanded, rest, rfl, -, gives, ended⟩ := announced.of_expanding
    obtain ⟨treatments, rfl, covered, apt, failures, leaves, same⟩ := Kernel.expand_treats gives
    refine ⟨⟨refresh, treatments, rest ++ closing.map .own⟩, ⟨by simp, ?_, fun _ => covered, apt, ?_⟩,
      leaves, same⟩
    · exact fun refused' => absurd refused refused'
    · rintro (refused' | failed)
      · exact absurd refused refused'
      · obtain ⟨e, rfl⟩ := failures.mp failed
        obtain ⟨rfl, rfl, -⟩ := ended
        exact silent (.inr ⟨e, rfl⟩)

/-! ## The calls of a kernel -/

/-- A call of a kernel, with what was asked during it. -/
inductive Call where
  /-- A cell, and the kernel that it came to. -/
  | cell (before : Kernel) (source : String) (parent : Json) (turns : List Turn)
  | completion (code : String) (cursor : Nat) (log : List (Exchange Host))
    (found : Option CompleteReply)

/-- A line of the cell asks for completion, and it was treated. -/
def Call.AsksCompletion : Call → Prop
  | cell before source parent turns =>
    ∃ x : Dissection, x.Of before source parent turns ∧ x.refresh.refusal? = none ∧
      ∃ t ∈ x.treatments, Directive.AsksCompletion t.line
  | completion .. => False

/-- The calls that lead from one kernel to another, the first call first. Between two of them the
number of the current cell may go on. -/
inductive Calls (k : Kernel) : List Call → Kernel → Prop
  | none : Calls k [] k
  | counted {made : List Call} {l : Kernel} : Calls k made l → Calls k made l.nextCell
  | cell {made : List Call} {l m : Kernel} {source : String} {parent : Json} {turns : List Turn}
      {d : Relay} {reply : ExecuteReply} :
    Calls k made l → Beside .absent ((Kernel.answerCell source parent).run l) turns d (reply, m) →
      Calls k (made ++ [.cell l source parent turns]) m
  | completion {made : List Call} {l : Kernel} {code : String} {cursor : Nat}
      {log : List (Exchange Host)} {found : Option CompleteReply} :
    Calls k made l → (l.complete code cursor).Gives log found →
      Calls k (made ++ [.completion code cursor log found]) l

/-- What a kernel has kept since its start: all that completion depends on, but for its state, which
the calls decide. -/
structure Since (k : Kernel) (made : List Call) (l : Kernel) : Prop where
  expander : l.expander = k.expander
  session : l.session = k.session
  supported : l.completion.supported = k.completion.supported
  enabled : l.completion.enabled = true ↔ k.completion.enabled = true ∨
    k.completion.supported = true ∧ ∃ call ∈ made, call.AsksCompletion

namespace Calls

variable {k l : Kernel} {made : List Call}

theorem since (calls : Calls k made l) : Since k made l := by
  have last : ∀ (made : List Call) (call : Call),
      (∃ c ∈ made ++ [call], c.AsksCompletion) ↔
        (∃ c ∈ made, c.AsksCompletion) ∨ call.AsksCompletion := by
    simp [or_and_right, exists_or]
  induction calls with
  | none => exact ⟨rfl, rfl, rfl, by simp⟩
  | counted _ ih => exact ⟨ih.expander, ih.session, ih.supported, ih.enabled⟩
  | @cell made l m source parent turns d reply _ run ih =>
    obtain ⟨x, of, leaves, same⟩ := Kernel.answerCell_dissected run
    have expander := congrArg Kernel.expander same
    have session := congrArg Kernel.session same
    refine ⟨expander.trans ih.expander, session.trans ih.session,
      leaves.supported.trans ih.supported, ?_⟩
    have asks : (Call.cell l source parent turns).AsksCompletion ↔
        ∃ t ∈ x.treatments, Directive.AsksCompletion t.line := by
      constructor
      · rintro ⟨y, of', -, asked⟩
        rwa [(of.unique of').2]
      · intro asked
        refine ⟨x, of, ?_, asked⟩
        by_contra refused
        rw [of.refused refused] at asked
        simp at asked
    rw [leaves.enabled, ih.enabled, ih.supported, ← asks, last, and_or_left, or_assoc]
  | completion _ _ ih =>
    refine ⟨ih.expander, ih.session, ih.supported, ?_⟩
    rw [ih.enabled, last]
    simp [Call.AsksCompletion]

/-- The run of a cell that was called. -/
theorem of_cell {before : Kernel} {source : String} {parent : Json} {turns : List Turn}
    (calls : Calls k made l) (mem : .cell before source parent turns ∈ made) :
    ∃ earlier d reply after, Calls k earlier before ∧
      Beside .absent ((Kernel.answerCell source parent).run before) turns d (reply, after) := by
  induction calls with
  | none => cases mem
  | counted _ ih => exact ih mem
  | cell calls run ih =>
    rcases List.mem_append.mp mem with mem | mem
    · exact ih mem
    · cases List.mem_singleton.mp mem
      exact ⟨_, _, _, _, calls, run⟩
  | completion _ _ ih =>
    rcases List.mem_append.mp mem with mem | mem
    · exact ih mem
    · cases List.mem_singleton.mp mem

/-- The kernel that completed code, and how it came to be. -/
theorem of_completion {earlier later : List Call} {code : String} {cursor : Nat}
    {log : List (Exchange Host)} {found : Option CompleteReply}
    (calls : Calls k (earlier ++ .completion code cursor log found :: later) l) :
    ∃ m, Calls k earlier m ∧ (m.complete code cursor).Gives log found := by
  generalize all : earlier ++ .completion code cursor log found :: later = made at calls
  have inside : ∀ {made later : List Call} {call last : Call},
      earlier ++ .completion code cursor log found :: later.concat last = made ++ [call] →
        earlier ++ .completion code cursor log found :: later = made := by
    intro made later call last all
    rw [List.concat_eq_append, ← List.cons_append, ← List.append_assoc] at all
    exact (List.append_inj' all rfl).1
  induction calls generalizing later with
  | none => simp at all
  | counted _ ih => exact ih all
  | cell calls run ih =>
    rcases List.eq_nil_or_concat later with rfl | ⟨later, last, rfl⟩
    · cases (List.append_inj' all rfl).2
    · exact ih (inside all)
  | completion calls run ih =>
    rcases List.eq_nil_or_concat later with rfl | ⟨later, last, rfl⟩
    · obtain ⟨rfl, same⟩ := List.append_inj' all rfl
      cases same
      exact ⟨_, calls, run⟩
    · exact ih (inside all)

end Calls

/-- The debugger's part in a completion: one call with the code up to the cursor while completion is
on, whatever it is answered, and nothing at all is asked while it is off. -/
theorem Kernel.complete_calls {k : Kernel} {code : String} {cursor : Nat}
    {log : List (Exchange Host)} {found : Option CompleteReply}
    (run : (k.complete code cursor).Gives log found) :
    (k.completion.enabled = true → found.isSome = true ∧ ∃ answer, calls log =
      [⟨Host.Request.debugger
        (.complete k.session.options.language (String.ofList (code.toList.take cursor))),
        answer⟩]) ∧
    (¬ k.completion.enabled = true → found = none ∧ log = []) := by
  unfold complete at run
  split at run
  · next on =>
    refine ⟨fun _ => ?_, fun off => absurd on off⟩
    obtain ⟨_, _, rfl, locked⟩ := run.of_ask
    obtain ⟨answer, _, rfl, asked⟩ := locked.of_ask
    obtain ⟨_, _, rfl, unlocked⟩ := asked.of_ask
    cases answer with
    | ok completion =>
      obtain ⟨rfl, rfl⟩ := unlocked.of_done
      exact ⟨rfl, _, rfl⟩
    | error e =>
      obtain ⟨_, _, rfl, warned⟩ := unlocked.of_ask
      obtain ⟨rfl, rfl⟩ := warned.of_done
      exact ⟨rfl, _, rfl⟩
  · next off =>
    refine ⟨fun on => absurd on off, fun _ => ?_⟩
    obtain ⟨rfl, rfl⟩ := run.of_done
    exact ⟨rfl, rfl⟩

/-- Completion is there exactly when it was asked for. The debugger is asked once at the start
whether it supports completion. Each cell treats its lines up to the first include line that fails,
if the target takes the context of the cell; a treated line that asks for completion is answered
with one notice, and no other line with any. From the first such line on code is completed, by one
request to the debugger each time, if the debugger supports it. -/
theorem Kernel.complete_isSome_iff {settings : StartPlan} {startLog : List (Exchange Host)}
    {k k' : Kernel} {made : List Call} (quiet : settings.Quiet)
    (started : (start settings).run.Gives startLog (.ok k)) (run : Calls k made k') :
    ∃ supported, startLog.filterMap Exchange.support? = [supported] ∧
      (∀ before source parent turns, Call.cell before source parent turns ∈ made →
        before.expander = ⟨settings.language, settings.includePath⟩ ∧
        before.completion.supported = supported ∧
        ∃ x : Dissection, x.Of before source parent turns ∧ ∀ t ∈ x.treatments,
          (Directive.AsksCompletion t.line →
            t.notices = [.notification (.stdout (CompletionState.ofSupport supported).notice)]) ∧
          (¬ Directive.AsksCompletion t.line → t.notices = [])) ∧
      ∀ earlier code cursor log found later,
        made = earlier ++ .completion code cursor log found :: later →
        let on := supported = true ∧ ∃ call ∈ earlier, call.AsksCompletion
        (found.isSome = true ↔ on) ∧ (¬ on → log = []) ∧
          (on → ∃ answer, calls log = [⟨Host.Request.debugger
            (.complete settings.language.name (String.ofList (code.toList.take cursor))),
            answer⟩]) := by
  obtain ⟨supported, once, completion, expander, language⟩ := start_gives quiet started
  have supports : k.completion.supported = supported := congrArg CompletionState.supported completion
  have off : k.completion.enabled = false := congrArg CompletionState.enabled completion
  refine ⟨supported, once, ?_, ?_⟩
  · intro before source parent turns mem
    obtain ⟨earlier, d, reply, after, calls, ran⟩ := run.of_cell mem
    have since := calls.since
    obtain ⟨x, of, -⟩ := answerCell_dissected ran
    have same := since.supported.trans supports
    refine ⟨since.expander.trans expander, same, x, of, fun t mem => ?_⟩
    rw [← same]
    exact (of.apt t mem).notices
  · rintro earlier code cursor log found later rfl on
    obtain ⟨m, calls, completes⟩ := run.of_completion
    have since := calls.since
    have enabled : m.completion.enabled = true ↔ on := by
      rw [since.enabled, off, supports]
      simp [on]
    obtain ⟨given, nothing⟩ := complete_calls completes
    rw [enabled] at given nothing
    rw [since.session, language] at given
    refine ⟨⟨fun some => ?_, fun is => (given is).1⟩, fun is => (nothing is).2,
      fun is => (given is).2⟩
    by_contra is
    rw [(nothing is).1] at some
    cases some

/-- A plan for Swift; its library has the communicator. -/
def StartPlan.withLibrary : StartPlan where
  language := .swift
  launch := ⟨"repl", [], [], none, none⟩
  identity := ⟨"1", "", "user"⟩
  includePath := ⟨some "lib", none, []⟩
  chunkSize := 1000
  timeout := none

/-- A debugger that gives the same value for all code, and offers nothing to complete it. -/
def Debugger.constant : (r : Debugger.Request) → Debugger.Answer r
  | .launch _ => .ok ⟨1⟩
  | .evaluate _ _ => .ok (.value ⟨0, 1⟩)
  | .describe _ => .ok ⟨"64", some "Int", none⟩
  | .children _ | .member _ _ | .storage _ | .memoryAt _ _ => Except.error .disconnected
  | .takeOutput _ => .ok ""
  | .unreadOutput => 0
  | .frames _ => .ok []
  | .interrupt | .terminate => .ok ()
  | .canComplete => true
  | .complete _ _ => Except.error .disconnected

/-- It beside a channel that is closed and files that all have the same text. -/
def Host.constant : (r : Host.Request) → Host.Answer r
  | .debugger r => Debugger.constant r
  | .broadcast _ | .reply _ _ | .openForAppend _ => Except.error .disconnected
  | .readText _ => .ok "x"
  | .log _ | .lockTarget | .unlockTarget | .setBusy _ => ()
  | .startPolling => .ok ()
  | .stopPolling | .releaseGuard _ => ()
  | .isBusy | .takeGuard => false

/-- The kernel that is started with them. -/
def Kernel.constant : Kernel :=
  ((start .withLibrary).run.play Host.constant).2.toOption.getD default

/-- A kernel for Swift completes no code, and completes it after a cell that asked for that, although
nobody could be told and the debugger refuses. -/
theorem Kernel.complete_isSome_iff_swift :
    ∃ (startLog : List (Exchange Host)) (k' : Kernel) (turns : List Turn)
      (log log' : List (Exchange Host)) (found : CompleteReply),
      (start .withLibrary).run.Gives startLog (.ok .constant) ∧
      Calls .constant [.completion "x" 1 log none, .cell .constant "%enableCompletion" .null turns,
        .completion "x" 1 log' (some found)] k' ∧
      (Call.cell .constant "%enableCompletion" .null turns).AsksCompletion ∧
      ∃ answer, calls log' = [⟨Host.Request.debugger (.complete "swift" "x"), answer⟩] := by
  have succeeds : ((start .withLibrary).run.play Host.constant).2.isOk = true := by
    decide +kernel
  have started := Program.gives_play Host.constant (start .withLibrary).run
  have result : ((start .withLibrary).run.play Host.constant).2 = .ok .constant := by
    unfold Kernel.constant
    cases result : ((start .withLibrary).run.play Host.constant).2 with
    | error e =>
      rw [result] at succeeds
      cases succeeds
    | ok k => rfl
  rw [result] at started
  have before := Program.gives_play Host.constant (Kernel.constant.complete "x" 1)
  have cell := Beside.of_gives (c := .absent) (Program.gives_play Host.constant
    ((answerCell "%enableCompletion" .null).run .constant)) rfl
  have after := Program.gives_play Host.constant ((((answerCell "%enableCompletion" .null).run
    Kernel.constant).play Host.constant).2.2.complete "x" 1)
  have found : ((((answerCell "%enableCompletion" .null).run
      Kernel.constant).play Host.constant).2.2.complete "x" 1 |>.play Host.constant).2 =
        some (.empty 1) := by
    decide +kernel
  rw [found] at after
  have made := ((Calls.none.completion before).cell cell).completion after
  obtain ⟨supported, -, -, available⟩ :=
    complete_isSome_iff (StartPlan.quiet_swift rfl) started made
  obtain ⟨first, -, -⟩ := available [] "x" 1 _ _ [_, _] rfl
  obtain ⟨last, -, called⟩ := available [_, _] "x" 1 _ _ [] rfl
  have none : (((Kernel.constant.complete "x" 1).play Host.constant).2) = none := by
    rw [← Option.not_isSome_iff_eq_none, first]
    simp
  obtain ⟨-, call, mem, asks⟩ := last.mp rfl
  rw [none] at made mem
  refine ⟨_, _, _, _, _, .empty 1, started, made, ?_, called (last.mp rfl)⟩
  rcases List.mem_pair.mp mem with rfl | rfl
  · exact asks.elim
  · exact asks

end NotebookKernel
