import Mathlib.Data.List.TakeWhile
import NotebookKernel.Proofs.Serve.Answers

/-!
The lines of an input that count.

A line counts if it decodes as a request, up to the first request for the end. Serving an input and
serving the lines of it that count come to the same (`Serve.traces_heeded`): a blank line is no
request, and all that any other line leads to that is none is a warning in the log.
`Serve.all_answered` goes on from there: each of those requests is answered once, in order, under
the number and with the completion that are due at that point.
-/

namespace NotebookKernel

/-! ## Blank lines -/

theorem Text.isBlank_of_trim_eq_nil {text : List Char} (blank : Text.trim text = []) :
    ∀ c ∈ text, Text.isBlank c = true := by
  have emptied : (text.dropWhile Text.isBlank).reverse.dropWhile Text.isBlank = [] :=
    List.reverse_eq_nil_iff.mp blank
  have inner : ∀ c ∈ text.dropWhile Text.isBlank, Text.isBlank c = true := fun c mem =>
    List.dropWhile_eq_nil_iff.mp emptied c (List.mem_reverse.mpr mem)
  -- what is left starts with no white space, so nothing is left
  have gone : text.dropWhile Text.isBlank = [] := by
    by_contra left
    have starts := List.head_dropWhile_not Text.isBlank left
    rw [inner _ (List.head_mem left)] at starts
    cases starts
  exact List.dropWhile_eq_nil_iff.mp gone

namespace Json

theorem readNumber_of_blank {c : Char} (blank : Text.isBlank c = true) (rest : List Char) :
    readNumber (c :: rest) = none := by
  have undigit : Numeral.isDigit c = false := by
    by_contra digit
    simp only [Text.isBlank, Numeral.isDigit, Char.le_def, UInt32.le_iff_toNat_le,
      Bool.not_eq_false, Bool.and_eq_true, Bool.or_eq_true, decide_eq_true_eq] at blank digit
    change 48 ≤ c.toNat ∧ c.toNat ≤ 57 at digit
    omega
  have nonzero : c ≠ '0' := fun same => by subst same; cases undigit
  have unsigned : ∀ negative, readMagnitude negative (c :: rest) = none := fun negative => by
    simp [readMagnitude, nonzero, undigit]
  unfold readNumber
  split
  · next same => cases same; cases blank
  · exact unsigned false

/-- No value starts with white space, not even with such as may not stand between tokens. -/
theorem readValue_of_blank {text : List Char} (blank : ∀ c ∈ text, Text.isBlank c = true)
    (fuel depth : Nat) : readValue (fuel + 1) depth text = none := by
  have rest : ∀ c ∈ skipSpace text, Text.isBlank c = true := fun c mem =>
    blank c ((List.dropWhile_sublist _).mem mem)
  rw [readValue]
  cases skipped : skipSpace text with
  | nil => rfl
  | cons c cs =>
    have here : Text.isBlank c = true := rest c (by simp [skipped])
    split
    all_goals first | exact readNumber_of_blank here cs | (next same => cases same; cases here)

end Json

/-- A blank line is no request. -/
theorem Request.ofLine?_of_blank {text : List Char} (blank : Text.trim text = []) :
    Request.ofLine? text = none := by
  rw [ofLine?, Json.parseRaw?, Json.readValue_of_blank (Text.isBlank_of_trim_eq_nil blank)]
  rfl

/-! ## What counts -/

/-- The answer to a log record; there is no other. -/
def Host.Request.logged : (r : Host.Request) → Option (Host.Answer r)
  | .log _ => some ()
  | _ => none

/-- The turns in which no record is logged. -/
def unlogged (log : List Turn) : List Turn :=
  log.filter fun turn => turn.request.logged.isNone

theorem unlogged_append (first second : List Turn) :
    unlogged (first ++ second) = unlogged first ++ unlogged second :=
  List.filter_append ..

namespace Serve

/-- The request that a line decodes as. -/
def request? (bytes : Bytes) : Option Request :=
  match Utf8.decode bytes with
  | .ok text => Request.ofLine? text
  | .error _ => none

/-- The lines up to the first that asks for the end, that one included. -/
def throughShutdown : List Bytes → List Bytes
  | [] => []
  | bytes :: rest =>
    match request? bytes with
    | some (.shutdown _) => [bytes]
    | _ => bytes :: throughShutdown rest

/-- The lines that count: those that decode as a request, up to the first request for the end. -/
def heeded (lines : List Bytes) : List Bytes :=
  throughShutdown (lines.filter fun bytes => (request? bytes).isSome)

/-- The requests in the lines that count. -/
def requests (lines : List Bytes) : List Request :=
  (heeded lines).filterMap request?

section Lines

variable {bytes : Bytes} {rest : List Bytes}

theorem heeded_cons_none (none : request? bytes = none) : heeded (bytes :: rest) = heeded rest := by
  rw [heeded, List.filter_cons_of_neg (by simp [none])]
  rfl

theorem heeded_cons_some {request : Request} (some : request? bytes = some request) :
    heeded (bytes :: rest) =
      bytes :: match request.served with
        | .more => heeded rest
        | .finished => [] := by
  rw [heeded, List.filter_cons_of_pos (by simp [some]), throughShutdown, some]
  cases request <;> rfl

theorem requests_cons_none (none : request? bytes = none) :
    requests (bytes :: rest) = requests rest := by
  rw [requests, heeded_cons_none none, requests]

theorem requests_cons_some {request : Request} (some : request? bytes = some request) :
    requests (bytes :: rest) =
      request :: match request.served with
        | .more => requests rest
        | .finished => [] := by
  rw [requests, heeded_cons_some some, List.filterMap_cons_some some]
  cases request <;> rfl

/-- A line that is no request is passed over, perhaps with a warning. -/
theorem all_cons_none {text : List Char} (decoded : Utf8.decode bytes = .ok text)
    (none : request? bytes = none) (k : Kernel) (rest : List Bytes) :
    (all (bytes :: rest)).run.run k = (all rest).run.run k ∨
      ∃ record, (all (bytes :: rest)).run.run k =
        .ask (.log record) fun _ => (all rest).run.run k := by
  rw [request?, decoded] at none
  rw [all, decoded]
  by_cases blank : Text.trim text = []
  · left
    simp only [line, blank, if_true]
    rfl
  · right
    simp only [line, blank, if_false, none]
    exact ⟨_, rfl⟩

/-- What follows the answer to a request. -/
def next (rest : List Bytes) : Except Error Served × Kernel → Act (Except Error Unit × Kernel)
  | (.ok .more, k) => (all rest).run.run k
  | (.ok .finished, k) => .done (.ok (), k)
  | (.error e, k) => .done (.error e, k)

/-- A line that is a request is answered. -/
theorem all_cons_some {request : Request} (some : request? bytes = some request) (k : Kernel) :
    (all (bytes :: rest)).run.run k = ((answer request).run.run k).bind (next rest) := by
  rw [request?] at some
  cases decoded : Utf8.decode bytes with
  | error e => rw [decoded] at some; cases some
  | ok text =>
    rw [decoded] at some
    have reads : Request.ofLine? text = Option.some request := some
    have unblank : Text.trim text ≠ [] := fun blank => by
      rw [Request.ofLine?_of_blank blank] at reads
      cases reads
    have answered : line text = answer request := by
      simp only [line, unblank, if_false, reads]
    rw [all, decoded]
    change (line text >>= _ : KernelAction Unit).run.run k = _
    rw [answered, Layers.run_bind]
    congr 1
    funext ending
    obtain ⟨result, l⟩ := ending
    cases result with
    | error e => rfl
    | ok served => cases served <;> rfl

end Lines

/-! ## Runs without records -/

/-- Serving lines may go so, from a kernel to an ending, when records do not count. -/
def Traces (lines : List Bytes) (k : Kernel) (trace : List Turn) (d : Relay)
    (ending : Except Error Unit × Kernel) : Prop :=
  ∃ log, Beside .absent ((all lines).run.run k) log d ending ∧ unlogged log = trace

variable {bytes : Bytes} {rest : List Bytes} {k : Kernel} {trace : List Turn} {d : Relay}
  {ending : Except Error Unit × Kernel}

/-- A line that is no request leaves no trace. -/
theorem traces_cons_none {text : List Char} (decoded : Utf8.decode bytes = .ok text)
    (none : request? bytes = none) :
    Traces (bytes :: rest) k trace d ending ↔ Traces rest k trace d ending := by
  unfold Traces
  obtain same | ⟨record, same⟩ := all_cons_none decoded none k rest
  · rw [same]
  · rw [same]
    constructor
    · rintro ⟨_, run, rfl⟩
      obtain ⟨_, log, rfl, later⟩ := run.of_ask_absent fun _ => rfl
      exact ⟨log, later, rfl⟩
    · rintro ⟨log, run, rfl⟩
      exact ⟨.own ⟨.log record, ()⟩ :: log, Beside.ask_absent (r := .log record) () rfl run, rfl⟩

/-- A line that is a request leaves the trace of its answer, and after it that of the lines that
follow if there is more to be done. -/
theorem traces_cons_some {request : Request} (some : request? bytes = some request) :
    Traces (bytes :: rest) k trace d ending ↔
      ∃ (turns second : List Turn) (answered : Except Error Served × Kernel),
        Beside .absent ((answer request).run.run k) turns .absent answered ∧
          (∃ later, Beside .absent (next rest answered) later d ending ∧ unlogged later = second) ∧
            unlogged turns ++ second = trace := by
  unfold Traces
  rw [all_cons_some some]
  constructor
  · rintro ⟨_, run, rfl⟩
    obtain ⟨turns, later, _, answered, rfl, here, there⟩ := run.of_bind
    obtain ⟨_, _, _, -, rfl, -⟩ := answer_answers here
    exact ⟨turns, _, answered, here, ⟨later, there, rfl⟩, (unlogged_append _ _).symm⟩
  · rintro ⟨turns, _, answered, here, ⟨later, there, rfl⟩, rfl⟩
    exact ⟨turns ++ later, here.bind there, unlogged_append _ _⟩

/-- One way to answer it is alone. -/
theorem traces_cons_answered {request : Request} {l : Kernel} {served : Served}
    {exchanges : List (Exchange Host)} (some : request? bytes = some request)
    (gives : ((answer request).run.run k).Gives exchanges (.ok served, l))
    (absent : exchanges.foldl Relay.after .absent = .absent)
    (later : ∃ later, Beside .absent (next rest (.ok served, l)) later d ending ∧
      unlogged later = trace) :
    Traces (bytes :: rest) k (unlogged (exchanges.map .own) ++ trace) d ending := by
  have ran := Beside.of_gives gives (c := .absent) rfl
  rw [absent] at ran
  exact (traces_cons_some some).mpr ⟨_, _, _, ran, later, rfl⟩

/-- Serving lines leaves the traces of serving those that count. -/
theorem traces_heeded {lines : List Bytes}
    (text : ∀ bytes ∈ lines, ∃ text, Utf8.decode bytes = .ok text) :
    Traces lines k trace d ending ↔ Traces (heeded lines) k trace d ending := by
  induction lines generalizing k trace with
  | nil => rfl
  | cons bytes rest ih =>
    have later : ∀ {k trace},
        Traces rest k trace d ending ↔ Traces (heeded rest) k trace d ending :=
      ih fun bytes mem => text bytes (List.mem_cons_of_mem _ mem)
    cases decodes : request? bytes with
    | none =>
      obtain ⟨decoded, same⟩ := text bytes List.mem_cons_self
      rw [traces_cons_none same decodes, heeded_cons_none decodes, later]
    | some request =>
      rw [heeded_cons_some decodes, traces_cons_some decodes, traces_cons_some decodes]
      refine exists_congr fun turns => exists_congr fun second => exists_congr fun answered =>
        and_congr_right fun here => and_congr_left' ?_
      obtain ⟨result, l⟩ := answered
      obtain ⟨_, _, written, -, -, rfl, -⟩ := answer_answers here
      cases written with
      | error e => rfl
      | ok _ =>
        cases request with
        | execute header code => exact later
        | complete code cursor => exact later
        | shutdown restart => rfl

/-! ## What is written -/

end Serve

/-- The line that an exchange has written. -/
def Exchange.line? : Exchange Host → Option String
  | ⟨.broadcast m, .ok ()⟩ => some m.line
  | ⟨.reply kind content, .ok ()⟩ => some (replyLine kind content)
  | _ => none

/-- A line could not be written. -/
def Exchange.unwritten : Exchange Host → Bool
  | ⟨.broadcast _, .error _⟩ | ⟨.reply _ _, .error _⟩ => true
  | _ => false

/-- All that is written, line by line. -/
def output (log : List Turn) : String :=
  String.join (log.filterMap fun turn => turn.exchange.line?)

/-- The calls of the debugger, of kernel and relay. -/
def called (log : List Turn) : List Turn :=
  log.filter fun turn => turn.request.isCall

/-- Kind and content of a reply. -/
def Host.Request.reply? : Host.Request → Option (String × Json)
  | .reply kind content => some (kind, content)
  | _ => none

/-- The replies, in order. -/
def replies (log : List Turn) : List (String × Json) :=
  log.filterMap fun turn => turn.request.reply?

theorem replies_append (first second : List Turn) :
    replies (first ++ second) = replies first ++ replies second :=
  List.filterMap_append

section Unlogged

variable (log : List Turn)

/-- Records are no part of what can be seen in other turns. -/
theorem filterMap_unlogged {β : Type} {f : Turn → Option β}
    (unseen : ∀ turn, turn.request.logged ≠ none → f turn = none) :
    (unlogged log).filterMap f = log.filterMap f := by
  rw [unlogged, List.filterMap_filter]
  refine List.filterMap_congr fun turn _ => ?_
  split
  · rfl
  · next logged => exact (unseen turn fun none => logged (by rw [none]; rfl)).symm

theorem output_unlogged : output (unlogged log) = output log := by
  rw [output, filterMap_unlogged]
  · rfl
  · rintro ⟨_, ⟨r, answer⟩⟩ logged
    cases r <;> first | rfl | exact absurd rfl logged

theorem replies_unlogged : replies (unlogged log) = replies log := by
  refine filterMap_unlogged log ?_
  rintro ⟨_, ⟨r, answer⟩⟩ logged
  cases r <;> first | rfl | exact absurd rfl logged

/-- A record is no reply that could not be written. -/
theorem written_of_unlogged {log : List Turn}
    (written : ∀ turn ∈ unlogged log, turn.exchange.unwritten = false) :
    ∀ turn ∈ log, turn.exchange.unwritten = false := by
  intro turn mem
  cases logged : turn.request.logged.isNone with
  | true => exact written turn (List.mem_filter.mpr ⟨mem, logged⟩)
  | false =>
    obtain ⟨_, ⟨r, answer⟩⟩ := turn
    cases r <;> first | rfl | cases logged

theorem called_unlogged : called (unlogged log) = called log := by
  rw [called, unlogged, List.filter_filter]
  refine List.filter_congr fun turn _ => ?_
  obtain ⟨_, ⟨r, answer⟩⟩ := turn
  cases r <;> rfl

end Unlogged

end NotebookKernel
