import NotebookKernel.Proofs.Program.Trace

/-!
How a program behaves towards its surroundings.

A conduct says which exchanges a program may take part in, and how a state that it keeps for the
purpose moves along with them. `Program.Keeps` says that every exchange of a program is one that the
conduct allows at that moment, whatever the surroundings answer. This is what a program can promise
to the programs that run beside it: the promise is about each exchange, so it holds however they
interleave.
-/

namespace NotebookKernel

/-- What a program promises to its surroundings. -/
structure Conduct (I : Interface) (σ : Type) where
  allows : σ → Exchange I → Prop
  after : σ → Exchange I → σ

namespace Program

variable {I : Interface} {σ α β : Type} {R : Conduct I σ}

/-- The program behaves as the conduct has it, and what holds when it is done. -/
def Keeps (R : Conduct I σ) : Program I α → σ → (σ → α → Prop) → Prop
  | done a, s, Q => Q s a
  | ask r next, s, Q => ∀ answer,
    R.allows s ⟨r, answer⟩ ∧ (next answer).Keeps R (R.after s ⟨r, answer⟩) Q

theorem keeps_bind {p : Program I α} {f : α → Program I β} {s : σ} {Q : σ → β → Prop} :
    (p.bind f).Keeps R s Q ↔ p.Keeps R s fun t a => (f a).Keeps R t Q := by
  induction p generalizing s with
  | done a => exact Iff.rfl
  | ask r next ih =>
    refine forall_congr' fun answer => and_congr_right fun _ => ?_
    exact ih answer

theorem Keeps.imp {p : Program I α} {s : σ} {P Q : σ → α → Prop} (keeps : p.Keeps R s P)
    (weaker : ∀ t a, P t a → Q t a) : p.Keeps R s Q := by
  induction p generalizing s with
  | done a => exact weaker s a keeps
  | ask r next ih => exact fun answer => ⟨(keeps answer).1, ih answer (keeps answer).2⟩

/-- A program that behaves well at each exchange does so after the one before it. -/
theorem Keeps.bind {p : Program I α} {f : α → Program I β} {s : σ} {P : σ → α → Prop}
    {Q : σ → β → Prop} (keeps : p.Keeps R s P) (later : ∀ t a, P t a → (f a).Keeps R t Q) :
    (p.bind f).Keeps R s Q :=
  keeps_bind.mpr (keeps.imp later)

/-! ## Programs that need no state for their promise -/

/-- Every request of the program is one of some requests. -/
def Asks (allowed : I.Request → Prop) : Program I α → Prop
  | done _ => True
  | ask r next => allowed r ∧ ∀ answer, (next answer).Asks allowed

variable {allowed : I.Request → Prop}

theorem Asks.bind {p : Program I α} {f : α → Program I β} (asks : p.Asks allowed)
    (later : ∀ a, (f a).Asks allowed) : (p.bind f).Asks allowed := by
  induction p with
  | done a => exact later a
  | ask r next ih => exact ⟨asks.1, fun answer => ih answer (asks.2 answer)⟩

theorem Asks.mono {p : Program I α} {wider : I.Request → Prop} (asks : p.Asks allowed)
    (more : ∀ r, allowed r → wider r) : p.Asks wider := by
  induction p with
  | done a => trivial
  | ask r next ih => exact ⟨more r asks.1, fun answer => ih answer (asks.2 answer)⟩

/-- What a program asks in one of its runs is what it may ask. -/
theorem Gives.requests {p : Program I α} {log : List (Exchange I)} {a : α} (run : p.Gives log a)
    (asks : p.Asks allowed) : ∀ exchange ∈ log, allowed exchange.request := by
  induction run with
  | done a => exact fun _ mem => nomatch mem
  | ask r answer _ ih =>
    intro exchange mem
    rcases List.mem_cons.mp mem with rfl | mem
    · exact asks.1
    · exact ih (asks.2 answer) exchange mem

/-- Requests that are always allowed and change nothing need no further care. -/
theorem Asks.keeps {p : Program I α} {s : σ} (asks : p.Asks allowed)
    (calm : ∀ r, allowed r → ∀ answer, R.allows s ⟨r, answer⟩ ∧ R.after s ⟨r, answer⟩ = s) :
    p.Keeps R s fun t _ => t = s := by
  induction p with
  | done a => rfl
  | ask r next ih =>
    intro answer
    obtain ⟨fine, same⟩ := calm r asks.1 answer
    refine ⟨fine, ?_⟩
    rw [same]
    exact ih answer (asks.2 answer)

end Program

/-! ## Sequences of actions -/

section Layers

variable {I : Interface} {σ ε α β : Type} {allowed : I.Request → Prop}

/-- An action that may end in an error asks what its steps ask. -/
theorem Program.Asks.bindExcept {p : ExceptT ε (Program I) α} {f : α → ExceptT ε (Program I) β}
    (asks : p.run.Asks allowed) (later : ∀ a, (f a).run.Asks allowed) :
    (p >>= f).run.Asks allowed := by
  refine Program.Asks.bind asks fun result => ?_
  cases result with
  | ok a => exact later a
  | error e => trivial

/-- So does one that has a state as well. -/
theorem Layers.asks_bind {p : ExceptT ε (StateT σ (Program I)) α}
    {f : α → ExceptT ε (StateT σ (Program I)) β} {s : σ}
    (asks : (p.run.run s).Asks allowed) (later : ∀ a t, ((f a).run.run t).Asks allowed) :
    ((p >>= f).run.run s).Asks allowed := by
  rw [Layers.run_bind]
  refine asks.bind fun result => ?_
  obtain ⟨result, t⟩ := result
  cases result with
  | ok a => exact later a t
  | error e => trivial

/-- Behaviour of one step after the other; an error ends the work. -/
theorem Layers.keeps_bind {τ : Type} {R : Conduct I τ} {p : ExceptT ε (StateT σ (Program I)) α}
    {f : α → ExceptT ε (StateT σ (Program I)) β} {s : σ} {h : τ}
    {P : τ → Except ε α × σ → Prop} {Q : τ → Except ε β × σ → Prop}
    (keeps : (p.run.run s).Keeps R h P)
    (later : ∀ t a u, P t (.ok a, u) → ((f a).run.run u).Keeps R t Q)
    (failed : ∀ t e u, P t (.error e, u) → Q t (.error e, u)) :
    ((p >>= f).run.run s).Keeps R h Q := by
  rw [Layers.run_bind]
  refine keeps.bind fun t result holds => ?_
  obtain ⟨result, u⟩ := result
  cases result with
  | ok a => exact later t a u holds
  | error e => exact failed t e u holds

theorem Layers.asks_lift {p : Program I α} {s : σ} (asks : p.Asks allowed) :
    ((liftM p : ExceptT ε (StateT σ (Program I)) α).run.run s).Asks allowed := by
  rw [Layers.run_lift]
  exact asks.bind fun _ => trivial

end Layers

end NotebookKernel
