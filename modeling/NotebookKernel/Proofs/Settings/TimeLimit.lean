import Mathlib.Algebra.Group.Nat.Defs
import NotebookKernel.CommandLine
import NotebookKernel.Proofs.Cell.Availability
import NotebookKernel.Proofs.Dap.Evaluations
import NotebookKernel.Proofs.Dap.Handles
import NotebookKernel.Proofs.Serve.Options

/-!
The time limit on its way to the debugger.

Settings give the limit of an evaluation in milliseconds, the options of a kernel have it in
microseconds, and an evaluate request has room for 64 bits of that. `Settings.limit_told_iff` says
what a debugger is told: the limit as long as the microseconds fit, and what is left of them modulo
`2 ^ 64` otherwise. That may be zero, which stands for no limit.
-/

namespace NotebookKernel

open CommandLine Dap

/-! ## From settings to requests -/

/-- The limit of settings in microseconds, zero for none. -/
theorem Settings.timeout_getD (s : Settings) : s.timeout.getD 0 = 1000 * s.timeoutMs := by
  unfold timeout
  split
  · rfl
  · next none => rw [Option.getD_none, Nat.eq_zero_of_not_pos none]

/-- A kernel is started with the limit of its settings. -/
theorem CommandLine.startPlan_timeout {o : Options} {s : Settings} {place : Place}
    {plan : StartPlan} (planned : startPlan o s place = .ok plan) : plan.timeout = s.timeout := by
  unfold startPlan at planned
  cases language : languageOf s.target.language with
  | error e =>
    rw [language] at planned
    cases planned
  | ok l =>
    rw [language] at planned
    dsimp only [Except.bind, bind] at planned
    split at planned
    · cases planned
    · cases planned
      rfl

/-- The time limit that the arguments of an evaluation give, in microseconds. -/
def Dap.timeLimit (arguments : Json) : Json :=
  (arguments.get "options").get "timeoutMicros"

theorem Dap.timeLimit_evaluateArguments (code : String) (options : RunOptions)
    (frame : Option Int) : timeLimit (Client.evaluateArguments code options frame) =
      .int (options.timeout.getD 0 % 2 ^ 64 : Nat) := by
  unfold timeLimit Client.evaluateArguments Client.frameField
  cases frame <;> simp [Json.get_object, List.lookup_cons]

/-- A kernel that is started with some settings comes to write a request: it asks the debugger for
something, at any moment of its life, and for that the client writes the request. -/
inductive Settings.Writes (s : Settings) (r : Dap.Request) : Prop
  | intro {o : Options} {place : Place} {plan : StartPlan} {lines : List Bytes}
      {log : List (Exchange Host)} {task : Debugger.Request}
      {rest : Debugger.Answer task → Act (Except Error Unit)} {c : Client}
      {wire : List (Exchange Link)}
      {after : Except Error Unit → LinkAct (Debugger.Answer task × Client)} :
    startPlan o s place = .ok plan →
    (Kernel.life plan lines).Comes log (.ask (.debugger task) rest) →
    ((Client.answer task).run c).Comes wire (.ask (.write r) after) → Writes s r

namespace Settings

variable {s : Settings} {r : Dap.Request}

/-- An evaluate request has as much of the limit as 64 bits hold. -/
theorem Writes.timeLimit (writes : s.Writes r) (evaluates : r.command = "evaluate") :
    timeLimit r.arguments = .int (1000 * s.timeoutMs % 2 ^ 64 : Nat) := by
  obtain ⟨planned, asks, writes⟩ := writes
  obtain ⟨code, options, frame, rfl, arguments⟩ := Client.answer_evaluates writes evaluates
  rw [arguments, timeLimit_evaluateArguments, Kernel.life_options asks, RunOptions.forCells,
    startPlan_timeout planned, timeout_getD]

end Settings

/-! ## Kernels that evaluate -/

/-- The request is an evaluation. -/
def Host.Request.evaluates : Host.Request → Bool
  | .debugger (.evaluate _ _) => true
  | _ => false

/-- The request to the connection is to write an evaluate request. -/
def Dap.Link.Request.evaluates : Link.Request → Bool
  | .write r => r.command = "evaluate"
  | _ => false

/-- A client with a target comes to write an evaluate request. -/
theorem exists_written (code : String) (options : RunOptions) :
    ∃ c wire r after, r.command = "evaluate" ∧
      ((Client.answer (.evaluate code options)).run c).Comes wire (.ask (.write r) after) := by
  let act := (Client.answer (.evaluate code options)).run ⟨.null, some ⟨1⟩, .empty⟩
  have some : (act.play (Client.obliging .null)).1.any (·.request.evaluates) := rfl
  obtain ⟨⟨r, written⟩, mem, evaluates⟩ := List.any_eq_true.mp some
  have run := Program.gives_play (Client.obliging .null) act
  obtain ⟨wire, after, comes⟩ := run.comes_to mem
  cases r with
  | write r => exact ⟨_, wire, r, after, of_decide_eq_true evaluates, comes⟩
  | _ => cases evaluates

/-- The place of a kernel whose library is beside it. -/
def besideLibrary : Place :=
  ⟨[], "lib", none, "1"⟩

namespace Settings

variable {s : Settings} {r : Dap.Request}

/-- A kernel in whose life there is an evaluation writes an evaluate request. -/
theorem exists_writes {plan : StartPlan}
    (planned : startPlan { program := some "repl" } s besideLibrary = .ok plan)
    (some : ((Kernel.life plan []).play Host.constant).1.any (·.request.evaluates)) :
    ∃ r, s.Writes r ∧ r.command = "evaluate" := by
  obtain ⟨⟨request, answer⟩, mem, evaluates⟩ := List.any_eq_true.mp some
  have run := Program.gives_play Host.constant (Kernel.life plan [])
  obtain ⟨log, rest, asks⟩ := run.comes_to mem
  cases request with
  | debugger task =>
    cases task with
    | evaluate code options =>
      obtain ⟨c, wire, r, after, evaluates, writes⟩ := exists_written code options
      exact ⟨r, .intro planned asks writes, evaluates⟩
    | _ => cases evaluates
  | _ => cases evaluates

/-! ## What a debugger is told -/

/-- The limit that settings give reaches the debugger exactly as long as its microseconds fit into
64 bits. Beyond, every evaluate request has what is left of them modulo `2 ^ 64`, which is less. -/
theorem limit_told_iff (writes : s.Writes r) (evaluates : r.command = "evaluate") :
    ∃ told : Nat, timeLimit r.arguments = .int told ∧ told = 1000 * s.timeoutMs % 2 ^ 64 ∧
      (told = 1000 * s.timeoutMs ↔ s.timeoutMs ≤ 18446744073709551) ∧
      (18446744073709551 < s.timeoutMs → told < 1000 * s.timeoutMs) := by
  refine ⟨_, writes.timeLimit evaluates, rfl, ?_, ?_⟩
  · omega
  · omega

/-- A limit of five seconds is told. -/
theorem limit_told_iff_fiveSeconds :
    ∃ r, Writes { timeoutMs := 5000 } r ∧ r.command = "evaluate" ∧
      timeLimit r.arguments = .int 5000000 := by
  have ⟨r, writes, evaluates⟩ : ∃ r, Writes { timeoutMs := 5000 } r ∧ r.command = "evaluate" :=
    exists_writes rfl (by decide +kernel)
  obtain ⟨told, tells, amount, -⟩ := limit_told_iff writes evaluates
  subst amount
  exact ⟨r, writes, evaluates, tells⟩

/-- A limit of `2 ^ 61` milliseconds, which a document may give, is told as none. -/
theorem limit_untold :
    ∃ s, ofText? "[evaluation]\ntimeout_ms = 2305843009213693952\n" = some s ∧
      s.timeoutMs = 2 ^ 61 ∧ ∃ r, s.Writes r ∧ r.command = "evaluate" ∧
        timeLimit r.arguments = .int 0 ∧ timeLimit r.arguments ≠ .int (1000 * s.timeoutMs) := by
  have ⟨r, writes, evaluates⟩ : ∃ r, Writes { timeoutMs := 2 ^ 61 } r ∧ r.command = "evaluate" :=
    exists_writes rfl (by decide +kernel)
  have tells : timeLimit r.arguments = .int 0 := writes.timeLimit evaluates
  refine ⟨{ timeoutMs := 2 ^ 61 }, by decide +kernel, rfl, r, writes, evaluates, tells, ?_⟩
  rw [tells]
  simp

end Settings

end NotebookKernel
