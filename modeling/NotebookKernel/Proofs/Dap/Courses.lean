import NotebookKernel.Proofs.Dap.Traffic
import NotebookKernel.Proofs.Program.Progress

/-!
What each thread has done for its task.

The history of a connection is that of all its threads. `exchangesOf i` is what it tells of one of
them, and `Traffic.Reachable.course` says that the last exchanges of a thread at work are those of
its task so far: what is left of it is what they have left of the whole task.
-/

namespace NotebookKernel.Dap

/-! ## The exchanges of a thread -/

/-- What a thread took part in, the earliest first. -/
def exchangesOf (i : Nat) : List Occurrence → List (Exchange Link)
  | [] => []
  | .exchanged j exchange :: earlier =>
    if j = i then exchangesOf i earlier ++ [exchange] else exchangesOf i earlier
  | _ :: earlier => exchangesOf i earlier

theorem exchangesOf_self (i : Nat) (exchange : Exchange Link) (earlier : List Occurrence) :
    exchangesOf i (.exchanged i exchange :: earlier) = exchangesOf i earlier ++ [exchange] := by
  rw [exchangesOf, if_pos rfl]

theorem exchangesOf_other {i j : Nat} (other : j ≠ i) (exchange : Exchange Link)
    (earlier : List Occurrence) :
    exchangesOf i (.exchanged j exchange :: earlier) = exchangesOf i earlier := by
  rw [exchangesOf, if_neg other]

theorem exchangesOf_append (i : Nat) (later earlier : List Occurrence) :
    exchangesOf i (later ++ earlier) = exchangesOf i earlier ++ exchangesOf i later := by
  induction later with
  | nil => simp [exchangesOf]
  | cons o later ih =>
    cases o with
    | exchanged j exchange =>
      by_cases thread : j = i
      · subst thread
        rw [List.cons_append, exchangesOf_self, exchangesOf_self, ih, List.append_assoc]
      · rw [List.cons_append, exchangesOf_other thread, exchangesOf_other thread, ih]
    | received | ended | died => exact ih

/-- An exchange of a thread happened when the thread had taken part in those before it. -/
theorem place_of_exchangesOf {i : Nat} {history : List Occurrence}
    {front back : List (Exchange Link)} {exchange : Exchange Link}
    (split : exchangesOf i history = front ++ exchange :: back) :
    ∃ earlier, .exchanged i exchange :: earlier <:+ history ∧ exchangesOf i earlier = front := by
  induction history generalizing back with
  | nil => simp [exchangesOf] at split
  | cons o history ih =>
    have deeper : ∀ {back}, exchangesOf i history = front ++ exchange :: back →
        ∃ earlier, .exchanged i exchange :: earlier <:+ o :: history ∧
          exchangesOf i earlier = front := by
      intro back split
      rcases ih split with ⟨earlier, within, same⟩
      exact ⟨earlier, within.trans (List.suffix_cons o history), same⟩
    cases o with
    | exchanged j last =>
      by_cases thread : j = i
      · subst thread
        rw [exchangesOf_self] at split
        rcases List.eq_nil_or_concat back with rfl | ⟨back, other, rfl⟩
        · rcases List.append_inj' split rfl with ⟨same, last⟩
          cases last
          exact ⟨history, List.suffix_rfl, same⟩
        · have longer :
              exchangesOf j history ++ [last] = (front ++ exchange :: back) ++ [other] := by
            simpa using split
          exact deeper (List.append_inj' longer rfl).1
      · rw [exchangesOf_other thread] at split
        exact deeper split
    | received | ended | died => exact deeper split

/-! ## Threads at work -/

/-- A thread has come so far with its task: the exchanges of `log` are its last ones. -/
structure Worker.Course (w : Worker) (i : Nat) (history : List Occurrence) (c : Client)
    (log : List (Exchange Link)) : Prop where
  comes : (Worker.start w.task c).rest.Comes log w.rest
  last : ∃ before, exchangesOf i history = before ++ log

namespace Traffic

/-- Every thread at work has come to what is left of its task. -/
def OnCourse (t : Traffic) : Prop :=
  ∀ i w, t.workers i = some w → ∃ c log, w.Course i t.history c log

section Steps

variable {t : Traffic} {i : Nat} {task : Debugger.Request}

theorem OnCourse.exchanged (courses : t.OnCourse) {r : Link.Request}
    {next : Link.Answer r → LinkAct Unit} (worker : t.workers i = some ⟨task, .ask r next⟩)
    (answer : Link.Answer r) (d : Connection) :
    (t.exchanged i task ⟨r, answer⟩ (next answer) d).OnCourse := by
  intro j w at_work
  by_cases thread : j = i
  · subst thread
    change Function.update t.workers j _ j = some w at at_work
    rw [Function.update_self] at at_work
    cases at_work
    rcases courses j _ worker with ⟨c, log, comes, before, last⟩
    refine ⟨c, log ++ [⟨r, answer⟩], comes.answered answer, before, ?_⟩
    change exchangesOf j (.exchanged j ⟨r, answer⟩ :: t.history) = _
    rw [exchangesOf_self, last, List.append_assoc]
  · change Function.update t.workers i _ j = some w at at_work
    rw [Function.update_of_ne thread] at at_work
    rcases courses j w at_work with ⟨c, log, comes, before, last⟩
    refine ⟨c, log, comes, before, ?_⟩
    change exchangesOf j (.exchanged i ⟨r, answer⟩ :: t.history) = _
    rw [exchangesOf_other (Ne.symm thread), last]

/-- What does not change the exchanges of threads leaves them on course. -/
theorem OnCourse.of_same (courses : t.OnCourse) {u : Traffic} (workers : u.workers = t.workers)
    (same : ∀ j, exchangesOf j u.history = exchangesOf j t.history) : u.OnCourse := by
  intro j w at_work
  rw [workers] at at_work
  rcases courses j w at_work with ⟨c, log, comes, before, last⟩
  exact ⟨c, log, comes, before, (same j).trans last⟩

theorem OnCourse.begun (courses : t.OnCourse) (task : Debugger.Request) (c : Client) :
    { t with workers := Function.update t.workers i (some (.start task c)) }.OnCourse := by
  intro j w at_work
  by_cases thread : j = i
  · subst thread
    change Function.update t.workers j _ j = some w at at_work
    rw [Function.update_self] at at_work
    cases at_work
    exact ⟨c, [], .start, exchangesOf j t.history, by simp⟩
  · change Function.update t.workers i _ j = some w at at_work
    rw [Function.update_of_ne thread] at at_work
    exact courses j w at_work

theorem OnCourse.finished (courses : t.OnCourse) :
    { t with workers := Function.update t.workers i none }.OnCourse := by
  intro j w at_work
  by_cases thread : j = i
  · subst thread
    change Function.update t.workers j none j = some w at at_work
    rw [Function.update_self] at at_work
    cases at_work
  · change Function.update t.workers i none j = some w at at_work
    rw [Function.update_of_ne thread] at at_work
    exact courses j w at_work

theorem OnCourse.step {may : Traffic → Debugger.Request → Prop} {u : Traffic}
    (courses : t.OnCourse) (step : Step may t u) : u.OnCourse := by
  cases step with
  | begin task c _ _ => exact courses.begun task c
  | @answer i task r next answer d worker _ => exact courses.exchanged worker answer d
  | @free i task r next answer worker _ => exact courses.exchanged worker answer t.connection
  | finish worker => exact courses.finished
  | arrive bytes _ => exact courses.of_same rfl fun _ => rfl
  | read _ _ => exact courses.of_same rfl fun _ => rfl
  | fail _ _ => exact courses.of_same rfl fun _ => rfl
  | die _ _ => exact courses.of_same rfl fun _ => rfl
  | «break» _ => exact courses.of_same rfl fun _ => rfl

end Steps

/-- The last exchanges of a thread at work are those of its task. -/
theorem Reachable.course {t : Traffic} (reachable : t.Reachable) {i : Nat} {w : Worker}
    (worker : t.workers i = some w) : ∃ c log, w.Course i t.history c log := by
  have courses : t.OnCourse := by
    clear worker
    induction reachable with
    | refl => exact fun i w worker => nomatch worker
    | tail _ step ih => exact ih.step step
  exact courses i w worker

end Traffic
end NotebookKernel.Dap
