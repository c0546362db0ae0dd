import Mathlib.Data.List.Forall2
import NotebookKernel.Proofs.Cell.Requests

/-!
A debugger that shows a fixed target.

What can be asked about values is a tree: a value has a description, children, members and storage,
and each of these may be refused. The debugger speaks of values by handles, which it gives out with
its answers and forgets at the next evaluation. A `Showing` is what it has given out, and it only
grows until then. `Target.Explores` is about a program that looks at values this way: it asks about
no handle that was not given out, and what it comes to is a matter of the tree.
-/

namespace NotebookKernel

/-! ## The target -/

/-- A value with all that can be asked about it. -/
structure TargetValue where
  view : Except Error ValueView
  children : Except Error (List TargetValue)
  member : String → Except Error (Option TargetValue)
  storage : Except Error Storage

/-- What comes of evaluating code in the target. -/
inductive Yield where
  | nothing
  | value (value : TargetValue)
  | failed (value : TargetValue)

/-- A target that answers everything in the same way each time. -/
structure Target where
  yield : Except Error Yield
  memory : (address length : Nat) → Except Error Bytes

/-- The handles that were given out: the generation they belong to, and the values they stand for.
-/
structure Showing where
  generation : Nat
  value? : Nat → Option TargetValue

namespace Showing

/-- The value that a handle stands for. There is none if the handle is stale or unknown. -/
def at? (s : Showing) (h : Handle) : Option TargetValue :=
  if h.generation = s.generation then s.value? h.id else none

/-- Handles stand for values, one for each. -/
def Shows (s : Showing) : List Handle → List TargetValue → Prop :=
  List.Forall₂ fun h v => s.at? h = some v

/-- More handles were given out since, and no evaluation has come between. -/
structure Extends (s t : Showing) : Prop where
  generation : t.generation = s.generation
  values : ∀ id v, s.value? id = some v → t.value? id = some v

/-- All handles that a request is about stand for values. -/
def Knows (s : Showing) : Host.Request → Prop
  | .debugger (.describe h) | .debugger (.children h) => (s.at? h).isSome
  | .debugger (.member h _) | .debugger (.storage h) => (s.at? h).isSome
  | _ => True

variable {s t u : Showing}

theorem Extends.refl (s : Showing) : s.Extends s :=
  ⟨rfl, fun _ _ same => same⟩

theorem Extends.trans (first : s.Extends t) (second : t.Extends u) : s.Extends u :=
  ⟨second.generation.trans first.generation, fun id v same =>
    second.values id v (first.values id v same)⟩

theorem Extends.at? (grown : s.Extends t) {h : Handle} {v : TargetValue}
    (known : s.at? h = some v) : t.at? h = some v := by
  obtain ⟨current, same⟩ := Option.ite_none_right_eq_some.mp known
  rw [Showing.at?, if_pos (current.trans grown.generation.symm)]
  exact grown.values _ _ same

theorem Extends.shows (grown : s.Extends t) {handles : List Handle} {values : List TargetValue}
    (shown : s.Shows handles values) : t.Shows handles values :=
  shown.imp fun _ _ known => grown.at? known

end Showing

namespace Target

variable (target : Target)

/-- The debugger answers an exchange as the target has it. An evaluation begins a new generation; on
a handle that stands for no value there is an error. -/
def Answers (s : Showing) : Exchange Host → Showing → Prop
  | ⟨.debugger (.evaluate _ _), answer⟩, t => s.generation < t.generation ∧
    match target.yield with
    | .error e => answer = .error e
    | .ok .nothing => answer = .ok .valueless
    | .ok (.value v) => ∃ h, answer = .ok (.value h) ∧ t.at? h = some v
    | .ok (.failed v) => ∃ h, answer = .ok (.failed h) ∧ t.at? h = some v
  | ⟨.debugger (.describe h), answer⟩, t => t = s ∧
    match s.at? h with
    | none => ∃ e, answer = .error e
    | some v => answer = v.view
  | ⟨.debugger (.children h), answer⟩, t => s.Extends t ∧
    match s.at? h with
    | none => ∃ e, answer = .error e
    | some v =>
      match v.children with
      | .error e => answer = .error e
      | .ok values => ∃ handles, answer = .ok handles ∧ t.Shows handles values
  | ⟨.debugger (.member h name), answer⟩, t => s.Extends t ∧
    match s.at? h with
    | none => ∃ e, answer = .error e
    | some v =>
      match v.member name with
      | .error e => answer = .error e
      | .ok none => answer = .ok none
      | .ok (some w) => ∃ h', answer = .ok (some h') ∧ t.at? h' = some w
  | ⟨.debugger (.storage h), answer⟩, t => t = s ∧
    match s.at? h with
    | none => ∃ e, answer = .error e
    | some v => answer = v.storage
  | ⟨.debugger (.memoryAt address length), answer⟩, t =>
    t = s ∧ answer = target.memory address length
  | _, t => t = s

/-- A program ends with a result against the target. Each exchange stands beside what was given out
before it. -/
inductive Runs {α : Type} :
    Showing → Act α → List (Showing × Exchange Host) → Showing → α → Prop
  | done (s : Showing) (a : α) : Runs s (.done a) [] s a
  | ask {s t u : Showing} {r : Host.Request} {next : Host.Answer r → Act α}
      {log : List (Showing × Exchange Host)} {a : α} (answer : Host.Answer r) :
    target.Answers s ⟨r, answer⟩ t → Runs t (next answer) log u a →
      Runs s (.ask r next) ((s, ⟨r, answer⟩) :: log) u a

end Target

/-- The address and the length of a read of memory. -/
def Host.Request.memory? : Host.Request → Option (Nat × Nat)
  | .debugger (.memoryAt address length) => some (address, length)
  | _ => none

/-- The reads of memory, in order. -/
def memoryReads (log : List (Showing × Exchange Host)) : List (Nat × Nat) :=
  log.filterMap fun step => step.2.request.memory?

/-- Every handle that is asked about stands for a value at that moment. -/
def Known (log : List (Showing × Exchange Host)) : Prop :=
  ∀ step ∈ log, step.1.Knows step.2.request

/-! ## Answers about values -/

namespace Target.Answers

variable {target : Target} {s t : Showing} {h : Handle} {v : TargetValue}

theorem of_describe {answer : Except Error ValueView} (known : s.at? h = some v)
    (answers : target.Answers s ⟨.debugger (.describe h), answer⟩ t) : t = s ∧ answer = v.view := by
  obtain ⟨same, answers⟩ := answers
  rw [known] at answers
  exact ⟨same, answers⟩

theorem of_children {answer : Except Error (List Handle)} (known : s.at? h = some v)
    (answers : target.Answers s ⟨.debugger (.children h), answer⟩ t) :
    s.Extends t ∧ match v.children with
      | .error e => answer = .error e
      | .ok values => ∃ handles, answer = .ok handles ∧ t.Shows handles values := by
  obtain ⟨grown, answers⟩ := answers
  rw [known] at answers
  exact ⟨grown, answers⟩

theorem of_member {name : String} {answer : Except Error (Option Handle)}
    (known : s.at? h = some v)
    (answers : target.Answers s ⟨.debugger (.member h name), answer⟩ t) :
    s.Extends t ∧ match v.member name with
      | .error e => answer = .error e
      | .ok none => answer = .ok none
      | .ok (some w) => ∃ h', answer = .ok (some h') ∧ t.at? h' = some w := by
  obtain ⟨grown, answers⟩ := answers
  rw [known] at answers
  exact ⟨grown, answers⟩

theorem of_storage {answer : Except Error Storage} (known : s.at? h = some v)
    (answers : target.Answers s ⟨.debugger (.storage h), answer⟩ t) :
    t = s ∧ answer = v.storage := by
  obtain ⟨same, answers⟩ := answers
  rw [known] at answers
  exact ⟨same, answers⟩

end Target.Answers

section Logs

variable {s : Showing} {exchange : Exchange Host} {first second : List (Showing × Exchange Host)}

theorem Known.nil : Known [] :=
  fun _ mem => nomatch mem

theorem Known.cons (here : s.Knows exchange.request) (later : Known first) :
    Known ((s, exchange) :: first) := by
  intro step mem
  rcases List.mem_cons.mp mem with rfl | mem
  · exact here
  · exact later step mem

theorem Known.append (left : Known first) (right : Known second) : Known (first ++ second) :=
  fun step mem => (List.mem_append.mp mem).elim (left step) (right step)

theorem memoryReads_cons (s : Showing) (exchange : Exchange Host)
    (log : List (Showing × Exchange Host)) :
    memoryReads ((s, exchange) :: log) = exchange.request.memory?.toList ++ memoryReads log := by
  cases read : exchange.request.memory? <;> simp [memoryReads, read]

theorem memoryReads_append (first second : List (Showing × Exchange Host)) :
    memoryReads (first ++ second) = memoryReads first ++ memoryReads second :=
  List.filterMap_append

end Logs

theorem Showing.isSome_at? {s : Showing} {h : Handle} {v : TargetValue}
    (known : s.at? h = some v) : (s.at? h).isSome := by
  rw [known]
  rfl

/-! ## Programs against a target -/

namespace Target

variable {target : Target} {α β : Type} {s : Showing}

namespace Runs

variable {t : Showing} {log : List (Showing × Exchange Host)}

theorem of_done {a b : α} (run : target.Runs s (.done a) log t b) : log = [] ∧ t = s ∧ b = a := by
  cases run with
  | done => exact ⟨rfl, rfl, rfl⟩

theorem of_ask {r : Host.Request} {next : Host.Answer r → Act α} {a : α}
    (run : target.Runs s (.ask r next) log t a) :
    ∃ answer middle rest, log = (s, ⟨r, answer⟩) :: rest ∧ target.Answers s ⟨r, answer⟩ middle ∧
      target.Runs middle (next answer) rest t a := by
  cases run with
  | ask answer answers later => exact ⟨answer, _, _, rfl, answers, later⟩

/-- A program that asks may go on with any answer of the target. -/
theorem exists_ask {u : Showing} {r : Host.Request} {next : Host.Answer r → Act α} {a : α}
    (answer : Host.Answer r) (answers : target.Answers s ⟨r, answer⟩ u)
    (later : ∃ log, target.Runs u (next answer) log t a) :
    ∃ log, target.Runs s (.ask r next) log t a :=
  let ⟨_, run⟩ := later
  ⟨_, .ask answer answers run⟩

/-- A sequence of two programs runs one after the other. -/
theorem of_bind {p : Act α} {f : α → Act β} {b : β} :
    ∀ {s : Showing} {log : List (Showing × Exchange Host)}, target.Runs s (p.bind f) log t b →
      ∃ first second middle a, log = first ++ second ∧ target.Runs s p first middle a ∧
        target.Runs middle (f a) second t b := by
  induction p with
  | done a => exact fun {s log} run => ⟨[], log, s, a, rfl, .done s a, run⟩
  | ask r next ih =>
    intro s log run
    obtain ⟨answer, middle, rest, rfl, answers, later⟩ := run.of_ask
    obtain ⟨first, second, end', a, rfl, left, right⟩ := ih answer later
    exact ⟨_ :: first, second, end', a, rfl, .ask answer answers left, right⟩

end Runs

/-- Against the target the program asks about no handle that was not given out, begins no new
generation, and what holds of the memory it reads and of its result. -/
def Explores (target : Target) (s : Showing) (p : Act α)
    (Q : List (Nat × Nat) → Showing → α → Prop) : Prop :=
  ∀ log t a, target.Runs s p log t a → Known log ∧ s.Extends t ∧ Q (memoryReads log) t a

namespace Explores

variable {Q : List (Nat × Nat) → Showing → α → Prop}

theorem done {a : α} (holds : Q [] s a) : target.Explores s (.done a) Q := by
  intro log t b run
  obtain ⟨rfl, rfl, rfl⟩ := run.of_done
  exact ⟨.nil, .refl _, holds⟩

theorem imp {p : Act α} {P : List (Nat × Nat) → Showing → α → Prop}
    (explores : target.Explores s p P) (weaker : ∀ reads t a, P reads t a → Q reads t a) :
    target.Explores s p Q :=
  fun log t a run =>
    let ⟨known, grown, holds⟩ := explores log t a run
    ⟨known, grown, weaker _ _ _ holds⟩

/-- One request, and what the program does with its answer. -/
theorem ask {r : Host.Request} {next : Host.Answer r → Act α} (known : s.Knows r)
    (later : ∀ answer t, target.Answers s ⟨r, answer⟩ t → s.Extends t ∧
      target.Explores t (next answer) fun reads => Q (r.memory?.toList ++ reads)) :
    target.Explores s (.ask r next) Q := by
  intro log t a run
  obtain ⟨answer, middle, rest, rfl, answers, run⟩ := run.of_ask
  obtain ⟨grown, explores⟩ := later answer middle answers
  obtain ⟨others, grownLater, holds⟩ := explores _ _ _ run
  refine ⟨.cons known others, grown.trans grownLater, ?_⟩
  rw [memoryReads_cons]
  exact holds

/-- Programs explore a target one after the other. -/
theorem bind {β : Type} {p : Act α} {f : α → Act β} {R : List (Nat × Nat) → Showing → β → Prop}
    (first : target.Explores s p Q)
    (later : ∀ reads t a, Q reads t a → s.Extends t →
      target.Explores t (f a) fun more => R (reads ++ more)) :
    target.Explores s (p.bind f) R := by
  intro log t b run
  obtain ⟨left, right, middle, a, rfl, here, there⟩ := run.of_bind
  obtain ⟨known, grown, holds⟩ := first _ _ _ here
  obtain ⟨others, grownLater, ends⟩ := later _ _ _ holds grown _ _ _ there
  refine ⟨known.append others, grown.trans grownLater, ?_⟩
  rw [memoryReads_append]
  exact ends

end Explores

/-- What an action that may fail comes to against the target: the memory it reads, and its result if
it has one. -/
def Fetches (target : Target) (s : Showing) (action : Action α) (reads : List (Nat × Nat))
    (value : Option α) : Prop :=
  target.Explores s action.run fun made _ result => made = reads ∧ result.toOption = value

namespace Fetches

theorem lift {result : Except Error α} :
    target.Fetches s (liftExcept result) [] result.toOption := by
  cases result with
  | ok a => exact Explores.done (a := Except.ok a) ⟨rfl, rfl⟩
  | error e => exact Explores.done (a := Except.error e) ⟨rfl, rfl⟩

/-- Of two actions the second counts if the first succeeds. -/
theorem bind {action : Action α} {f : α → Action β} {reads : List (Nat × Nat)} {value : Option α}
    {more : α → List (Nat × Nat)} {g : α → Option β} (first : target.Fetches s action reads value)
    (later : ∀ a t, s.Extends t → value = some a → target.Fetches t (f a) (more a) (g a)) :
    target.Fetches s (action >>= f) (reads ++ value.elim [] more) (value.bind g) := by
  refine Explores.bind first ?_
  rintro _ t result ⟨rfl, rfl⟩ grown
  cases result with
  | error e => exact Explores.done ⟨rfl, rfl⟩
  | ok a =>
    refine (later a t grown rfl).imp ?_
    rintro _ _ _ ⟨rfl, same⟩
    exact ⟨rfl, same⟩

theorem map {action : Action α} {f : α → β} {reads : List (Nat × Nat)} {value : Option α}
    (fetches : target.Fetches s action reads value) :
    target.Fetches s (action >>= fun a => pure (f a)) reads (value.map f) := by
  have later : ∀ a t, s.Extends t → value = some a →
      target.Fetches t (pure (f a)) [] (some (f a)) :=
    fun a _ _ _ => Explores.done (a := Except.ok (f a)) ⟨rfl, rfl⟩
  have both := fetches.bind later
  cases value with
  | none =>
    rw [Option.elim_none, List.append_nil] at both
    exact both
  | some a =>
    rw [Option.elim_some, List.append_nil] at both
    exact both

/-- Looking at values alone reads no memory. -/
theorem look {action : Action α} {f : α → Action β} {value : Option α} {g : α → Option β}
    (first : target.Fetches s action [] value)
    (later : ∀ a t, s.Extends t → target.Fetches t (f a) [] (g a)) :
    target.Fetches s (action >>= f) [] (value.bind g) := by
  have both := bind first fun a t grown _ => later a t grown
  cases value <;> exact both

end Fetches

end Target

end NotebookKernel
