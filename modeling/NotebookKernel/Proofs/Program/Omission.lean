import NotebookKernel.Proofs.Program.Conduct

/-!
Programs without some of their requests.

Some requests only tell the surroundings something. `Program.without` is a program with such requests
left out, as if each had been answered in a given way, and a program ignores them if its rest does
not depend on how they are answered. Then two runs that differ in those answers alone are two runs
of one program without the requests, and a statement about both is a statement about that program.
-/

namespace NotebookKernel

namespace Program

variable {I : Interface} {α β : Type} {given : (r : I.Request) → Option (I.Answer r)}

/-- The program without the requests for which an answer is given, as if they had that answer. -/
def without (given : (r : I.Request) → Option (I.Answer r)) : Program I α → Program I α
  | done a => done a
  | ask r next =>
    match given r with
    | some answer => (next answer).without given
    | none => ask r fun answer => (next answer).without given

/-- Without those requests the program is the same, however they are answered. -/
def Ignores (given : (r : I.Request) → Option (I.Answer r)) : Program I α → Prop
  | done _ => True
  | ask r next => (∀ answer, (next answer).Ignores given) ∧
    ∀ known, given r = some known →
      ∀ answer, (next answer).without given = (next known).without given

section Without

variable {r : I.Request} {next : I.Answer r → Program I α}

theorem without_ask_none (kept : given r = none) :
    (ask r next).without given = ask r fun answer => (next answer).without given := by
  rw [without, kept]

/-- A request that is left out leaves what follows it, whatever it was answered. -/
theorem Ignores.without_ask (ignores : (ask r next).Ignores given) (omitted : given r ≠ none)
    (answer : I.Answer r) : (ask r next).without given = (next answer).without given := by
  obtain ⟨known, same⟩ := Option.ne_none_iff_exists'.mp omitted
  rw [without, same, ignores.2 known same answer]

end Without

theorem without_bind (p : Program I α) (f : α → Program I β) :
    (p.bind f).without given = (p.without given).bind fun a => (f a).without given := by
  induction p with
  | done a => rfl
  | ask r next ih =>
    rw [bind, without, without]
    cases given r with
    | some answer => exact ih answer
    | none => exact congrArg (ask r) (funext ih)

theorem Ignores.bind {p : Program I α} {f : α → Program I β} (ignores : p.Ignores given)
    (later : ∀ a, (f a).Ignores given) : (p.bind f).Ignores given := by
  induction p with
  | done a => exact later a
  | ask r next ih =>
    refine ⟨fun answer => ih answer (ignores.1 answer), fun known same answer => ?_⟩
    rw [without_bind, without_bind, ignores.2 known same answer]

/-- A program ignores requests that can be answered in one way only. -/
theorem Asks.ignores {p : Program I α} {allowed : I.Request → Prop} (asks : p.Asks allowed)
    (one : ∀ r, allowed r → ∀ known, given r = some known → ∀ answer, answer = known) :
    p.Ignores given := by
  induction p with
  | done a => trivial
  | ask r next ih =>
    refine ⟨fun answer => ih answer (asks.2 answer), fun known same answer => ?_⟩
    rw [one r asks.1 known same answer]

end Program

/-! ## Sequences of actions -/

section Layers

variable {I : Interface} {σ ε α β : Type} {given : (r : I.Request) → Option (I.Answer r)}

/-- An action with a state that may end in an error ignores what its steps ignore. -/
theorem Layers.ignores_bind {p : ExceptT ε (StateT σ (Program I)) α}
    {f : α → ExceptT ε (StateT σ (Program I)) β} {s : σ}
    (ignores : (p.run.run s).Ignores given) (later : ∀ a t, ((f a).run.run t).Ignores given) :
    ((p >>= f).run.run s).Ignores given := by
  rw [Layers.run_bind]
  refine ignores.bind fun result => ?_
  obtain ⟨result, t⟩ := result
  cases result with
  | ok a => exact later a t
  | error e => trivial

theorem Layers.ignores_lift {p : Program I α} {s : σ} (ignores : p.Ignores given) :
    ((liftM p : ExceptT ε (StateT σ (Program I)) α).run.run s).Ignores given := by
  rw [Layers.run_lift]
  exact ignores.bind fun _ => trivial

end Layers

end NotebookKernel
