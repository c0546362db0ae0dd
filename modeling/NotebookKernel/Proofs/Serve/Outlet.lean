import Mathlib.Data.List.Forall2
import Mathlib.Logic.Function.Basic
import NotebookKernel.Proofs.Serve.Calls

/-!
One outlet for the lines of many threads.

A thread makes the line of its call, takes the lock of the outlet, writes the line in as many pieces
as the sink likes and gives the lock back. Between the pieces the other threads go on, but none of
them writes, so what is written is always the lines of the calls in the order in which they took the
lock, except for what the holder has still to write (`Outlet.Reachable.kept`). The bytes alone are
then enough to get the calls back (`Outlet.Reachable.calls_recovered`).
-/

namespace NotebookKernel

/-- An outlet that several threads write to. -/
structure Outlet (Thread : Type) where
  /-- The call that a thread waits with for the lock. -/
  waiting : Thread → Option Outlet.Call
  /-- The thread that has the lock, and the bytes of its line that are not written yet. -/
  holder : Option (Thread × Bytes)
  /-- The bytes that the sink has taken. -/
  written : Bytes
  /-- The calls that each thread has made, in order. -/
  made : Thread → List Outlet.Call
  /-- The calls that took the lock, in order, each with its thread. -/
  order : List (Thread × Outlet.Call)

namespace Outlet

variable {Thread : Type} [DecidableEq Thread] {o o' : Outlet Thread}

/-- An outlet that was not used yet. -/
def initial : Outlet Thread where
  waiting _ := none
  holder := none
  written := []
  made _ := []
  order := []

/-- What can happen at an outlet whose sink takes whatever it is given. -/
inductive Step : Outlet Thread → Outlet Thread → Prop
  /-- A thread that is in no call makes one. -/
  | call (o : Outlet Thread) (t : Thread) (call : Call) : o.waiting t = none →
    (∀ held ∈ o.holder, held.1 ≠ t) →
    Step o { o with
      waiting := Function.update o.waiting t (some call)
      made := Function.update o.made t (o.made t ++ [call]) }
  /-- A thread that waits takes the lock. -/
  | take (o : Outlet Thread) (t : Thread) (call : Call) : o.waiting t = some call →
    o.holder = none →
    Step o { o with
      waiting := Function.update o.waiting t none
      holder := some (t, Utf8.encodeString call.line)
      order := o.order ++ [(t, call)] }
  /-- The sink takes some of the bytes that the holder has left. -/
  | write (o : Outlet Thread) (t : Thread) (piece left : Bytes) :
    o.holder = some (t, piece ++ left) →
    Step o { o with holder := some (t, left), written := o.written ++ piece }
  /-- A holder that has nothing left gives the lock back, and its call returns. -/
  | release (o : Outlet Thread) (t : Thread) : o.holder = some (t, []) →
    Step o { o with holder := none }

/-- The outlets that can come about. -/
inductive Reachable : Outlet Thread → Prop
  | start : Reachable initial
  | step {o o' : Outlet Thread} : Reachable o → Step o o' → Reachable o'

/-! ## What every step keeps -/

/-- The bytes that the holder has still to write. -/
def left (o : Outlet Thread) : Bytes :=
  o.holder.elim [] Prod.snd

/-- The calls of one thread that took the lock. -/
def taken (o : Outlet Thread) (t : Thread) : List Call :=
  (o.order.filter fun entry => entry.1 = t).map Prod.snd

structure Kept (o : Outlet Thread) : Prop where
  /-- The lines of the calls, one after the other, but for the end of the last. -/
  bytes : o.written ++ o.left = o.order.flatMap fun entry => Utf8.encodeString entry.2.line
  /-- A call took the lock, or it waits for it. -/
  calls : ∀ t, o.taken t ++ (o.waiting t).toList = o.made t

theorem kept_initial : (initial : Outlet Thread).Kept where
  bytes := rfl
  calls _ := rfl

theorem Kept.step (kept : o.Kept) (step : Step o o') : o'.Kept := by
  obtain ⟨bytes, calls⟩ := kept
  cases step with
  | call t call idle _ =>
    refine ⟨bytes, fun u => ?_⟩
    have before := calls u
    by_cases same : u = t
    · subst same
      rw [idle] at before
      dsimp only
      rw [Function.update_self, Function.update_self, ← before]
      simp [taken]
    · dsimp only
      rw [Function.update_of_ne same, Function.update_of_ne same]
      exact before
  | take t call waits free =>
    refine ⟨?_, fun u => ?_⟩
    · rw [left, free] at bytes
      change o.written ++ _ = _
      rw [List.flatMap_append, ← bytes]
      simp [left]
    · have before := calls u
      by_cases same : u = t
      · subst same
        rw [waits] at before
        dsimp only
        rw [Function.update_self, ← before]
        simp [taken]
      · have other : ¬ t = u := fun eq => same eq.symm
        dsimp only
        rw [Function.update_of_ne same, ← before]
        simp [taken, other]
  | write t piece rest holds =>
    refine ⟨?_, calls⟩
    rw [left, holds] at bytes
    rw [← bytes]
    simp [left]
  | release t holds =>
    refine ⟨?_, calls⟩
    rw [left, holds] at bytes
    rw [← bytes]
    rfl

theorem Reachable.kept (run : o.Reachable) : o.Kept := by
  induction run with
  | start => exact kept_initial
  | step _ step ih => exact ih.step step

/-! ## Getting the calls back -/

/-- Lines that end in a separator and do not contain it are cut apart at it. -/
theorem splitOn_flatMap {α β : Type} [BEq β] [LawfulBEq β] {separator : β} {line : α → List β}
    {l : List α} (clean : ∀ a ∈ l, separator ∉ line a) :
    (l.flatMap fun a => line a ++ [separator]).splitOn separator = l.map line ++ [[]] := by
  induction l with
  | nil => rfl
  | cons a l ih =>
    rw [List.forall_mem_cons] at clean
    rw [List.flatMap_cons, List.append_assoc, List.singleton_append,
      List.splitOn_append_cons_self_of_not_mem clean.1, ih clean.2]
    rfl

/-- Once no one has the lock, the lines of the calls are all that is written. -/
theorem Kept.written_eq (kept : o.Kept) (free : o.holder = none) :
    o.written = o.order.flatMap fun entry => entry.2.body ++ [0x0A] := by
  have bytes := kept.bytes
  have nothing : o.left = [] := by
    rw [left, free]
    rfl
  rw [nothing, List.append_nil] at bytes
  simpa only [Call.encodeString_line] using bytes

/-- Once no one has the lock, the bytes that were written, cut apart at line feeds, are one line for
each call, in the order in which the calls took the lock, and a last piece that is empty; and each
call is recovered from its line. Each thread's calls are all among those, in the order in which it
made them, but for one that waits for the lock. -/
theorem Reachable.calls_recovered (run : o.Reachable) (free : o.holder = none)
    (proper : ∀ entry ∈ o.order, entry.2.Proper) :
    (∀ t, o.taken t ++ (o.waiting t).toList = o.made t) ∧
    ∃ lines : List Bytes, o.written.splitOn 0x0A = lines ++ [[]] ∧
      List.Forall₂ (fun line entry => entry.2.RecoveredFrom line) lines o.order := by
  refine ⟨run.kept.calls, o.order.map fun entry => entry.2.body, ?_, ?_⟩
  · rw [run.kept.written_eq free]
    exact splitOn_flatMap fun entry _ => entry.2.lineFeed_not_mem_body
  · rw [List.forall₂_map_left_iff, List.forall₂_same]
    exact fun entry mem => entry.2.recoveredFrom_body (proper entry mem)

/-- Two threads, of which the one that calls first takes the lock last. -/
theorem Reachable.calls_recovered_two_threads :
    ∃ o : Outlet Bool, o.Reachable ∧ o.holder = none ∧
      o.order = [(true, .publish (.parts [[0x0A, 0xFF], []])),
        (false, .publish (.notification (.textResult 2 "a\n\"b\""))),
        (true, .reply "complete" (.arr [.int (-1), .null]))] ∧
      (∀ entry ∈ o.order, entry.2.Proper) ∧
      (∀ t, o.taken t ++ (o.waiting t).toList = o.made t) ∧
      ∃ lines : List Bytes, o.written.splitOn 0x0A = lines ++ [[]] ∧
        List.Forall₂ (fun line entry => entry.2.RecoveredFrom line) lines o.order := by
  have cut : ∀ (t : Bool) (bytes : Bytes),
      some (t, bytes) = some (t, bytes.take 7 ++ bytes.drop 7) := fun t bytes => by
    rw [List.take_append_drop]
  have all : ∀ (t : Bool) (bytes : Bytes), some (t, bytes) = some (t, bytes ++ []) :=
    fun t bytes => by rw [List.append_nil]
  have unused : (initial : Outlet Bool).Reachable := .start
  have asked := (unused.step (.call _ false
    (.publish (.notification (.textResult 2 "a\n\"b\""))) rfl nofun)).step
    (.call _ true (.publish (.parts [[0x0A, 0xFF], []])) rfl nofun)
  have first := (((asked.step (.take _ true _ rfl rfl)).step (.write _ true _ _ (cut _ _))).step
    (.write _ true _ _ (all _ _))).step (.release _ true rfl)
  have again := ((first.step (.call _ true (.reply "complete" (.arr [.int (-1), .null])) rfl
    nofun)).step (.take _ false _ rfl rfl)).step (.write _ false _ _ (all _ _))
  have run := (((again.step (.release _ false rfl)).step (.take _ true _ rfl rfl)).step
    (.write _ true _ _ (all _ _))).step (.release _ true rfl)
  have content : (Json.arr [.int (-1), .null]).Plain ∧ (Json.arr [.int (-1), .null]).Sorted :=
    ⟨⟨⟨by decide, by decide⟩, True.intro, True.intro⟩, True.intro, True.intro, True.intro⟩
  have result : (Notification.textResult 2 "a\n\"b\"").Proper :=
    ⟨List.pairwise_singleton _ _, True.intro, .nil, True.intro⟩
  have proper : ∀ entry ∈ [(true, Call.publish (.parts [[0x0A, 0xFF], []])),
      (false, .publish (.notification (.textResult 2 "a\n\"b\""))),
      (true, .reply "complete" (.arr [.int (-1), .null]))], entry.2.Proper := by
    rw [List.forall_mem_cons, List.forall_mem_cons, List.forall_mem_singleton]
    exact ⟨True.intro, result, content⟩
  exact ⟨_, run, rfl, rfl, proper, run.calls_recovered rfl proper⟩

end Outlet

end NotebookKernel
