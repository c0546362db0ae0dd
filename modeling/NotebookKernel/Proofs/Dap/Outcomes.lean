import NotebookKernel.Dap.Client
import NotebookKernel.Proofs.Program.Trace

/-!
What the requests of the client come to.

`Client.Requested` lists the three courses of a request to the debugger: its response is fetched,
none can arrive any more, or it could not be written. The lemmas after it read off a finished run
what its answer was made of.
-/

namespace NotebookKernel.Dap.Client

/-! ## Requests -/

/-- The exchanges of a request up to its response. -/
def asked (command : String) (arguments : Json) (seq : Nat) (answer : Option Response) :
    List (Exchange Link) :=
  [⟨.allocate, seq⟩, ⟨.expect seq, ()⟩, ⟨.write ⟨seq, command, arguments⟩, .ok ()⟩,
    ⟨.await seq, answer⟩]

/-- What a request comes to. -/
inductive Requested (command : String) (arguments : Json) :
    List (Exchange Link) → Except Error Response → Prop
  | answered (seq : Nat) (r : Response) :
    Requested command arguments (asked command arguments seq (some r)) (.ok r)
  | closed (seq : Nat) :
    Requested command arguments (asked command arguments seq none) (.error .disconnected)
  | unwritten (seq : Nat) (e : Error) :
    Requested command arguments
      [⟨.allocate, seq⟩, ⟨.expect seq, ()⟩, ⟨.write ⟨seq, command, arguments⟩, .error e⟩,
        ⟨.forget seq, ()⟩] (.error e)

variable {command : String} {arguments : Json} {log : List (Exchange Link)} {c d : Client}

theorem send_gives {sent : Except Error Nat} (run : (send command arguments).Gives log sent) :
    ∃ seq, (sent = .ok seq ∧ log = [⟨.allocate, seq⟩, ⟨.expect seq, ()⟩,
        ⟨.write ⟨seq, command, arguments⟩, .ok ()⟩]) ∨
      ∃ e, sent = .error e ∧ log = [⟨.allocate, seq⟩, ⟨.expect seq, ()⟩,
        ⟨.write ⟨seq, command, arguments⟩, .error e⟩, ⟨.forget seq, ()⟩] := by
  rcases run.of_ask with ⟨seq, _, rfl, allocated⟩
  rcases allocated.of_ask with ⟨_, _, rfl, expected⟩
  rcases expected.of_ask with ⟨answer, _, rfl, written⟩
  refine ⟨seq, ?_⟩
  cases answer with
  | ok _ =>
    rcases written.of_done with ⟨rfl, rfl⟩
    exact .inl ⟨rfl, rfl⟩
  | error e =>
    rcases written.of_ask with ⟨_, _, rfl, forgotten⟩
    rcases forgotten.of_done with ⟨rfl, rfl⟩
    exact .inr ⟨e, rfl, rfl⟩

theorem request_gives {result : Except Error Response}
    (run : (request command arguments).Gives log result) :
    Requested command arguments log result := by
  rcases Program.Gives.of_bind run with ⟨front, back, sent, rfl, sending, waiting⟩
  rcases send_gives sending with ⟨seq, ⟨rfl, rfl⟩ | ⟨e, rfl, rfl⟩⟩
  · rcases waiting.of_ask with ⟨answer, _, rfl, fetched⟩
    cases answer with
    | some r =>
      rcases fetched.of_done with ⟨rfl, rfl⟩
      exact .answered seq r
    | none =>
      rcases fetched.of_done with ⟨rfl, rfl⟩
      exact .closed seq
  · rcases waiting.of_done with ⟨rfl, rfl⟩
    exact .unwritten seq e

/-- Each of the courses is one that a request can take. -/
theorem Requested.gives {result : Except Error Response}
    (requested : Requested command arguments log result) :
    (request command arguments).Gives log result := by
  cases requested with
  | answered seq r =>
    refine .ask (I := Link) .allocate seq (.ask (I := Link) (.expect seq) () ?_)
    refine .ask (I := Link) (.write ⟨seq, command, arguments⟩) (Except.ok ()) ?_
    exact .ask (I := Link) (.await seq) (some r) (.done _)
  | closed seq =>
    refine .ask (I := Link) .allocate seq (.ask (I := Link) (.expect seq) () ?_)
    refine .ask (I := Link) (.write ⟨seq, command, arguments⟩) (Except.ok ()) ?_
    exact .ask (I := Link) (.await seq) none (.done _)
  | unwritten seq e =>
    refine .ask (I := Link) .allocate seq (.ask (I := Link) (.expect seq) () ?_)
    refine .ask (I := Link) (.write ⟨seq, command, arguments⟩) (Except.error e) ?_
    exact .ask (I := Link) (.forget seq) () (.done _)

/-- A request that has to succeed. -/
theorem requestBody_gives_iff {result : Except Error Json} :
    (requestBody command arguments).Gives log result ↔
      ∃ responded, Requested command arguments log responded ∧
        result = responded >>= bodyOf command := by
  have steps : requestBody command arguments =
      (request command arguments).bind fun responded => .done (responded >>= bodyOf command) := by
    refine congrArg (Program.bind _) (funext fun responded => ?_)
    cases responded <;> rfl
  rw [steps, Program.gives_convert_iff]
  exact exists_congr fun _ => and_congr_left fun _ => ⟨request_gives, Requested.gives⟩

/-- The arguments of a request for the innermost frame of a thread. -/
def frameArguments (thread : ThreadId) : Json :=
  .object [("threadId", .int thread.number), ("startFrame", .int 0), ("levels", .int 1)]

/-- The number of the first frame that a response describes. -/
def frameIn (body : Json) : Option Int :=
  match (body.get "stackFrames").items? with
  | some (first :: _) => (first.get "id").int64?
  | _ => none

theorem innermostFrame_gives_iff {thread : ThreadId} {result : Except Error (Option Int)} :
    (innermostFrame thread).Gives log result ↔
      ∃ responded, Requested "stackTrace" (frameArguments thread) log responded ∧
        result = frameIn <$> (responded >>= bodyOf "stackTrace") := by
  have steps : innermostFrame thread =
      (requestBody "stackTrace" (frameArguments thread)).bind
        fun outcome => .done (frameIn <$> outcome) := by
    refine congrArg (Program.bind _) (funext fun outcome => ?_)
    cases outcome with
    | error e => rfl
    | ok body =>
      change (match (body.get "stackFrames").items? with
        | some (first :: _) => Program.done (Except.ok (first.get "id").int64?)
        | _ => Program.done (Except.ok none)) = Program.done (Except.ok (frameIn body))
      unfold frameIn
      split <;> rfl
  rw [steps, Program.gives_convert_iff]
  constructor
  · rintro ⟨outcome, run, rfl⟩
    obtain ⟨responded, requested, rfl⟩ := requestBody_gives_iff.mp run
    exact ⟨responded, requested, rfl⟩
  · rintro ⟨responded, requested, rfl⟩
    exact ⟨_, requestBody_gives_iff.mpr ⟨responded, requested, rfl⟩, rfl⟩

/-! ## Steps of the client -/

theorem linked_gives {α : Type} {act : LinkAct (Except Error α)} {result : Except Error α}
    (run : ((linked act).run.run c).Gives log (result, d)) : d = c ∧ act.Gives log result := by
  rcases Program.Gives.of_bind run with ⟨front, back, a, rfl, acted, rest⟩
  rcases rest.of_done with ⟨rfl, same⟩
  cases same
  rw [List.append_nil]
  exact ⟨rfl, acted⟩

theorem liftExcept_gives {α : Type} {value result : Except Error α}
    (run : ((liftExcept value : ClientAction α).run.run c).Gives log (result, d)) :
    d = c ∧ log = [] ∧ result = value := by
  cases value with
  | ok a =>
    rcases run.of_done with ⟨rfl, same⟩
    cases same
    exact ⟨rfl, rfl, rfl⟩
  | error e =>
    rcases run.of_done with ⟨rfl, same⟩
    cases same
    exact ⟨rfl, rfl, rfl⟩

/-- What an act over the connection answers, with what the client remembers. -/
theorem keep_gives {α : Type} {act : Client → LinkAct α} {a : α}
    (run : ((keep act).run c).Gives log (a, d)) : d = c ∧ (act c).Gives log a := by
  rcases Program.Gives.of_bind run with ⟨front, back, a, rfl, acted, rest⟩
  rcases rest.of_done with ⟨rfl, same⟩
  cases same
  rw [List.append_nil]
  exact ⟨rfl, acted⟩

/-- An action either ends at its first step with an error, or goes on. -/
theorem gives_bind {α β : Type} {action : ClientAction α} {f : α → ClientAction β}
    {result : Except Error β} (run : ((action >>= f).run.run c).Gives log (result, d)) :
    (∃ e, (action.run.run c).Gives log (.error e, d) ∧ result = .error e) ∨
      ∃ first second a middle, log = first ++ second ∧
        (action.run.run c).Gives first (.ok a, middle) ∧
        ((f a).run.run middle).Gives second (result, d) := by
  rw [Layers.run_bind] at run
  rcases run.of_bind with ⟨first, second, ⟨outcome, middle⟩, rfl, left, right⟩
  cases outcome with
  | error e =>
    rcases right.of_done with ⟨rfl, same⟩
    cases same
    rw [List.append_nil]
    exact .inl ⟨e, left, rfl⟩
  | ok a => exact .inr ⟨first, second, a, middle, rfl, left, right⟩

/-! ## Evaluations -/

/-- A client for which an evaluation has begun. -/
def evaluating (c : Client) : Client :=
  { c with values := c.values.nextGeneration }

/-- A client that has remembered one more value. -/
def remembering (c : Client) (entry : KnownValue) : Client :=
  { c with values := (c.values.insert entry).2 }

/-- What an evaluation comes to when its response has been fetched. -/
inductive Understood (c : Client) (r : Response) : Evaluation → Client → Prop
  | valueless : meaningOf r = .valueless → Understood c r .valueless c
  | value {entry : KnownValue} : meaningOf r = .value entry →
    Understood c r (.value (c.values.insert entry).1) (c.remembering entry)
  | failed {entry : KnownValue} : meaningOf r = .failed entry →
    Understood c r (.failed (c.values.insert entry).1) (c.remembering entry)

/-- An evaluation has no outcome but that of its response, which it fetches last. -/
theorem evaluate_gives {code : String} {options : RunOptions} {result : Except Error Evaluation}
    (run : ((evaluate code options).run.run c).Gives log (result, d)) :
    (∃ e, result = .error e ∧ d = c.evaluating) ∨
      ∃ outcome front frame seq r, result = .ok outcome ∧
        log = front ++ asked "evaluate" (evaluateArguments code options frame) seq (some r) ∧
        Understood c.evaluating r outcome d := by
  unfold evaluate at run
  rcases gives_bind run with ⟨e, begun, -⟩ | ⟨_, _, _, _, rfl, begun, looking⟩
  · cases begun.of_done.2
  rcases begun.of_done with ⟨rfl, same⟩
  cases same
  rcases gives_bind looking with ⟨e, got, -⟩ | ⟨_, _, _, _, rfl, got, checking⟩
  · cases got.of_done.2
  rcases got.of_done with ⟨rfl, same⟩
  cases same
  rcases gives_bind checking with ⟨e, checked, rfl⟩ | ⟨_, _, thread, _, rfl, checked, finding⟩
  · exact .inl ⟨e, rfl, (liftExcept_gives checked).1⟩
  rcases liftExcept_gives checked with ⟨rfl, rfl, -⟩
  rcases gives_bind finding with ⟨e, found, rfl⟩ | ⟨front, _, frame, _, rfl, found, asking⟩
  · exact .inl ⟨e, rfl, (linked_gives found).1⟩
  rcases linked_gives found with ⟨rfl, -⟩
  rcases gives_bind asking with ⟨e, responded, rfl⟩ | ⟨_, _, r, _, rfl, responded, reading⟩
  · exact .inl ⟨e, rfl, (linked_gives responded).1⟩
  rcases linked_gives responded with ⟨rfl, requested⟩
  cases request_gives requested with
  | answered seq _ =>
    cases meaning : meaningOf r with
    | valueless =>
      simp only [meaning] at reading
      rcases reading.of_done with ⟨rfl, same⟩
      cases same
      exact .inr ⟨_, front, frame, seq, r, rfl, by simp, .valueless meaning⟩
    | value entry =>
      simp only [meaning] at reading
      rcases reading.of_done with ⟨rfl, same⟩
      cases same
      exact .inr ⟨_, front, frame, seq, r, rfl, by simp, .value meaning⟩
    | failed entry =>
      simp only [meaning] at reading
      rcases reading.of_done with ⟨rfl, same⟩
      cases same
      exact .inr ⟨_, front, frame, seq, r, rfl, by simp, .failed meaning⟩

end NotebookKernel.Dap.Client
