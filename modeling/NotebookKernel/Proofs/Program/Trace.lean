import NotebookKernel.Program

/-!
What a program can come to, whatever its surroundings answer.

`Program.Gives p log a` says that `p` ends with `a` when its requests are answered as `log` has
it. A statement about every log is a statement about every behaviour of the surroundings, those
that answer one request differently at different times included. The inversions below follow the
layers that the programs of this project are written in: plain sequencing, a state, and an error
that ends the work.
-/

namespace NotebookKernel

/-- A request and the answer it got. -/
structure Exchange (I : Interface) where
  request : I.Request
  answer : I.Answer request

namespace Program

variable {I : Interface} {α β : Type}

/-- The program ends with a result when it is answered as in a log, the first answer first. -/
inductive Gives : Program I α → List (Exchange I) → α → Prop
  | done (a : α) : Gives (.done a) [] a
  | ask (r : I.Request) {next : I.Answer r → Program I α} (answer : I.Answer r)
      {log : List (Exchange I)} {a : α} :
    Gives (next answer) log a → Gives (.ask r next) (⟨r, answer⟩ :: log) a

theorem Gives.of_done {a b : α} {log : List (Exchange I)}
    (run : (Program.done a : Program I α).Gives log b) : log = [] ∧ b = a := by
  cases run with
  | done => exact ⟨rfl, rfl⟩

theorem Gives.of_ask {r : I.Request} {next : I.Answer r → Program I α} {a : α}
    {log : List (Exchange I)} (run : (Program.ask r next).Gives log a) :
    ∃ answer rest, log = ⟨r, answer⟩ :: rest ∧ (next answer).Gives rest a := by
  cases run with
  | ask _ answer rest => exact ⟨answer, _, rfl, rest⟩

/-- A sequence of two programs is answered one after the other. -/
theorem Gives.of_bind {p : Program I α} {f : α → Program I β} {b : β} :
    ∀ {log : List (Exchange I)}, (p.bind f).Gives log b →
      ∃ first second a, log = first ++ second ∧ p.Gives first a ∧ (f a).Gives second b := by
  induction p with
  | done a => exact fun {log} run => ⟨[], log, a, rfl, .done a, run⟩
  | ask r next ih =>
    intro log run
    obtain ⟨answer, rest, rfl, later⟩ := run.of_ask
    obtain ⟨first, second, a, rfl, left, right⟩ := ih answer later
    exact ⟨⟨r, answer⟩ :: first, second, a, rfl, .ask r answer left, right⟩

theorem Gives.bind {p : Program I α} {f : α → Program I β} {a : α} {b : β}
    {first second : List (Exchange I)} (left : p.Gives first a) (right : (f a).Gives second b) :
    (p.bind f).Gives (first ++ second) b := by
  induction left with
  | done a => exact right
  | ask r answer _ ih => exact .ask r answer (ih right)

/-- A result that is only converted costs no further exchange. -/
theorem gives_convert_iff {p : Program I α} {f : α → β} {b : β} {log : List (Exchange I)} :
    (p.bind fun a => .done (f a)).Gives log b ↔ ∃ a, p.Gives log a ∧ b = f a := by
  constructor
  · intro run
    obtain ⟨first, second, a, rfl, left, right⟩ := run.of_bind
    obtain ⟨rfl, rfl⟩ := right.of_done
    exact ⟨a, by simpa using left, rfl⟩
  · rintro ⟨a, run, rfl⟩
    have whole := run.bind (f := fun a => done (f a)) (.done (f a))
    rwa [List.append_nil] at whole

/-- The answers decide what a program ends with. -/
theorem Gives.unique {p : Program I α} {a b : α} {log : List (Exchange I)} (run : p.Gives log a)
    (other : p.Gives log b) : b = a := by
  induction run with
  | done a => exact other.of_done.2
  | ask r answer _ ih =>
    obtain ⟨_, _, same, later⟩ := other.of_ask
    cases same
    exact ih later

/-- The run of a program whose requests are answered by a function. -/
def play (answer : (r : I.Request) → I.Answer r) : Program I α → List (Exchange I) × α
  | done a => ([], a)
  | ask r next =>
    let rest := (next (answer r)).play answer
    (⟨r, answer r⟩ :: rest.1, rest.2)

theorem gives_play (answer : (r : I.Request) → I.Answer r) (p : Program I α) :
    p.Gives (p.play answer).1 (p.play answer).2 := by
  induction p with
  | done a => exact .done a
  | ask r next ih => exact .ask r (answer r) (ih (answer r))

/-- Such a run has the answers of the function. -/
theorem answer_of_mem_play {answer : (r : I.Request) → I.Answer r} {p : Program I α}
    {exchange : Exchange I} (mem : exchange ∈ (p.play answer).1) :
    exchange.answer = answer exchange.request := by
  induction p with
  | done a => exact absurd mem List.not_mem_nil
  | ask r next ih =>
    obtain same | later := List.mem_cons.mp mem
    · rw [same]
    · exact ih (answer r) later

end Program

/-! ## Programs with a state that may end in an error -/

section Layers

variable {I : Interface} {σ ε α β : Type}

/-- What a step with a state and a possible error leaves to the steps after it. -/
theorem Layers.run_bind (p : ExceptT ε (StateT σ (Program I)) α)
    (f : α → ExceptT ε (StateT σ (Program I)) β) (s : σ) :
    (p >>= f).run.run s = (p.run.run s).bind fun
      | (.ok a, s) => (f a).run.run s
      | (.error e, s) => .done (.error e, s) := by
  change Program.bind _ _ = Program.bind _ _
  congr 1
  funext result
  rcases result with ⟨result, s⟩
  cases result <;> rfl

/-- A step that asks for nothing can be left out. -/
theorem Layers.run_next {p : ExceptT ε (StateT σ (Program I)) α}
    {f : α → ExceptT ε (StateT σ (Program I)) β} {s t : σ} {a : α}
    (step : p.run.run s = .done (.ok a, t)) : (p >>= f).run.run s = (f a).run.run t := by
  rw [Layers.run_bind, step]
  rfl

/-- A step that succeeds is followed by the next one. -/
theorem Layers.gives_bind {p : ExceptT ε (StateT σ (Program I)) α}
    {f : α → ExceptT ε (StateT σ (Program I)) β} {s t : σ} {a : α} {result : Except ε β × σ}
    {first second : List (Exchange I)} (left : (p.run.run s).Gives first (.ok a, t))
    (right : ((f a).run.run t).Gives second result) :
    ((p >>= f).run.run s).Gives (first ++ second) result := by
  rw [Layers.run_bind]
  exact left.bind right

/-- Two steps that succeed together succeed one after the other. -/
theorem Layers.gives_bind_ok {p : ExceptT ε (StateT σ (Program I)) α}
    {f : α → ExceptT ε (StateT σ (Program I)) β} {s t : σ} {b : β} {log : List (Exchange I)}
    (run : ((p >>= f).run.run s).Gives log (.ok b, t)) :
    ∃ first second a middle, log = first ++ second ∧
      (p.run.run s).Gives first (.ok a, middle) ∧
      ((f a).run.run middle).Gives second (.ok b, t) := by
  rw [Layers.run_bind] at run
  obtain ⟨first, second, ⟨result, middle⟩, rfl, left, right⟩ := run.of_bind
  cases result with
  | error e => cases right.of_done.2
  | ok a => exact ⟨first, second, a, middle, rfl, left, right⟩

/-- Two steps fail together if the first fails, or if it succeeds and the second fails. -/
theorem Layers.gives_bind_error {p : ExceptT ε (StateT σ (Program I)) α}
    {f : α → ExceptT ε (StateT σ (Program I)) β} {s t : σ} {e : ε} {log : List (Exchange I)}
    (run : ((p >>= f).run.run s).Gives log (.error e, t)) :
    ∃ first second, log = first ++ second ∧ ((p.run.run s).Gives first (.error e, t) ∨
      ∃ a middle, (p.run.run s).Gives first (.ok a, middle) ∧
        ((f a).run.run middle).Gives second (.error e, t)) := by
  rw [Layers.run_bind] at run
  obtain ⟨first, second, ⟨result, middle⟩, rfl, left, right⟩ := run.of_bind
  refine ⟨first, second, rfl, ?_⟩
  cases result with
  | error e =>
    obtain ⟨-, same⟩ := right.of_done
    cases same
    exact .inl left
  | ok a => exact .inr ⟨a, middle, left, right⟩

/-- A program of the surroundings alone leaves the state as it is and succeeds. -/
theorem Layers.run_lift (p : Program I α) (s : σ) :
    (liftM p : ExceptT ε (StateT σ (Program I)) α).run.run s =
      p.bind fun a => .done (.ok a, s) := by
  change (p.bind _).bind _ = _
  rw [Program.bind_assoc]
  rfl

theorem Layers.gives_lift {p : Program I α} {s t : σ} {result : Except ε α}
    {log : List (Exchange I)}
    (run : ((liftM p : ExceptT ε (StateT σ (Program I)) α).run.run s).Gives log (result, t)) :
    ∃ a, result = .ok a ∧ t = s ∧ p.Gives log a := by
  rw [Layers.run_lift] at run
  obtain ⟨first, second, a, rfl, left, right⟩ := run.of_bind
  obtain ⟨rfl, same⟩ := right.of_done
  obtain ⟨rfl, rfl⟩ := Prod.mk.inj same
  exact ⟨a, rfl, rfl, by simpa using left⟩

end Layers

end NotebookKernel
