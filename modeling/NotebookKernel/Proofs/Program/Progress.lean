import NotebookKernel.Proofs.Program.Conduct

/-!
How far a program has come.

`Program.Comes p log q` says that after the exchanges of `log` what is left of `p` is `q`. A whole
run is one that has come to its end, and what a program promises about its exchanges holds for those
it has taken part in so far. So a statement about a program in the middle of its work is a statement
about its log.
-/

namespace NotebookKernel.Program

variable {I : Interface} {σ α β : Type} {R : Conduct I σ} {p q : Program I α}
  {log rest : List (Exchange I)}

/-- What is left of a program after some exchanges, the first exchange first. -/
inductive Comes (p : Program I α) : List (Exchange I) → Program I α → Prop
  | start : Comes p [] p
  | answered {r : I.Request} {next : I.Answer r → Program I α} {log : List (Exchange I)} :
    Comes p log (.ask r next) → (answer : I.Answer r) →
      Comes p (log ++ [⟨r, answer⟩]) (next answer)


/-- What is left ends as the whole does. -/
theorem Comes.gives (comes : p.Comes log q) {a : α} (run : q.Gives rest a) :
    p.Gives (log ++ rest) a := by
  induction comes generalizing rest with
  | start => exact run
  | answered comes answer ih =>
    rw [List.append_assoc]
    exact ih (.ask _ answer run)

/-- A program that has come to its end has run. -/
theorem Comes.gives_done {a : α} (comes : p.Comes log (.done a)) : p.Gives log a := by
  have run := comes.gives (.done a)
  rw [List.append_nil] at run
  exact run

/-- A program that is done comes no further. -/
theorem Comes.of_done {a : α} (comes : (Program.done a : Program I α).Comes log q) :
    log = [] ∧ q = .done a := by
  induction comes with
  | start => exact ⟨rfl, rfl⟩
  | answered _ _ ih => cases ih.2

/-- A program has not begun, or its first request was answered. -/
theorem Comes.of_ask {r : I.Request} {next : I.Answer r → Program I α}
    (comes : (Program.ask r next).Comes log q) :
    log = [] ∧ q = .ask r next ∨
      ∃ answer rest, log = ⟨r, answer⟩ :: rest ∧ (next answer).Comes rest q := by
  induction comes with
  | start => exact .inl ⟨rfl, rfl⟩
  | answered _ answer ih =>
    right
    rcases ih with ⟨rfl, same⟩ | ⟨first, rest, rfl, later⟩
    · cases same
      exact ⟨answer, [], rfl, .start⟩
    · exact ⟨first, _, List.cons_append .., later.answered answer⟩

/-- Of a sequence of two programs the first is under way, or it has run. -/
theorem Comes.of_bind {f : α → Program I β} {q : Program I β} (comes : (p.bind f).Comes log q) :
    (∃ rest, p.Comes log rest ∧ q = rest.bind f) ∨
      ∃ first second a, log = first ++ second ∧ p.Gives first a ∧ (f a).Comes second q := by
  induction comes with
  | start => exact .inl ⟨p, .start, rfl⟩
  | @answered r next log _ answer ih =>
    rcases ih with ⟨rest, comes, same⟩ | ⟨first, second, a, rfl, run, later⟩
    · cases rest with
      | done a =>
        refine .inr ⟨log, [⟨r, answer⟩], a, rfl, comes.gives_done, ?_⟩
        rw [← show Program.ask r next = f a from same]
        exact .answered .start answer
      | ask s rest =>
        cases same
        exact .inl ⟨rest answer, comes.answered answer, rfl⟩
    · exact .inr ⟨first, _, a, List.append_assoc .., run, later.answered answer⟩

/-- The first request is answered, and the rest comes as far as it does. -/
theorem Comes.ask (r : I.Request) {next : I.Answer r → Program I α} (answer : I.Answer r)
    (comes : (next answer).Comes log q) : (Program.ask r next).Comes (⟨r, answer⟩ :: log) q := by
  induction comes with
  | start => exact .answered .start answer
  | answered _ later ih => exact ih.answered later

/-- A program that has run has come to its end. -/
theorem Gives.comes {a : α} (run : p.Gives log a) : p.Comes log (.done a) := by
  induction run with
  | done => exact .start
  | ask r answer _ ih => exact ih.ask r answer

/-- A program that has run came to each of its exchanges. -/
theorem Gives.comes_to {a : α} (run : p.Gives log a) {exchange : Exchange I}
    (mem : exchange ∈ log) : ∃ front next, p.Comes front (.ask exchange.request next) := by
  induction run with
  | done => cases mem
  | ask r answer _ ih =>
    rcases List.mem_cons.mp mem with rfl | mem
    · exact ⟨[], _, .start⟩
    · obtain ⟨front, next, comes⟩ := ih mem
      exact ⟨_, next, comes.ask r answer⟩

/-- What is left after some exchanges comes further by others. -/
theorem Comes.trans {more : List (Exchange I)} {r : Program I α} (comes : p.Comes log q)
    (further : q.Comes more r) : p.Comes (log ++ more) r := by
  induction further with
  | start =>
    rw [List.append_nil]
    exact comes
  | answered _ answer ih =>
    rw [← List.append_assoc]
    exact ih.answered answer

/-- The first of two programs has run, and the second is left. -/
theorem Gives.comes_bind {a : α} {f : α → Program I β} (run : p.Gives log a) :
    (p.bind f).Comes log (f a) := by
  induction run with
  | done => exact .start
  | ask r answer _ ih => exact ih.ask r answer

/-- What is left of a program asks for no more than the program. -/
theorem Comes.asks {allowed : I.Request → Prop} (comes : p.Comes log q) (asks : p.Asks allowed) :
    q.Asks allowed := by
  induction comes with
  | start => exact asks
  | answered _ answer ih => exact ih.2 answer

/-- What is left of a program behaves as the program promised. -/
theorem Comes.keeps (comes : p.Comes log q) {s : σ} {Q : σ → α → Prop} (keeps : p.Keeps R s Q) :
    q.Keeps R (log.foldl R.after s) Q := by
  induction comes with
  | start => exact keeps
  | answered comes answer ih =>
    rw [List.foldl_append]
    exact (ih answer).2

/-- So did it at each of its exchanges so far. -/
theorem Comes.allowed (comes : p.Comes log q) {s : σ} {Q : σ → α → Prop} (keeps : p.Keeps R s Q)
    {front back : List (Exchange I)} {exchange : Exchange I}
    (within : log = front ++ exchange :: back) : R.allows (front.foldl R.after s) exchange := by
  induction comes generalizing back with
  | start => simp at within
  | @answered r next log comes answer ih =>
    rcases List.eq_nil_or_concat back with rfl | ⟨back, last, rfl⟩
    · rcases List.append_inj' within rfl with ⟨rfl, same⟩
      cases same
      exact ((comes.keeps keeps) answer).1
    · have longer : log ++ [⟨r, answer⟩] = (front ++ exchange :: back) ++ [last] := by
        simpa using within
      exact ih (List.append_inj' longer rfl).1

/-- A run ends as the program promised. -/
theorem Keeps.ends {a : α} {s : σ} {Q : σ → α → Prop} (keeps : p.Keeps R s Q)
    (run : p.Gives log a) : Q (log.foldl R.after s) a := by
  induction run generalizing s with
  | done => exact keeps
  | ask r answer _ ih => exact ih (keeps answer).2

end NotebookKernel.Program
