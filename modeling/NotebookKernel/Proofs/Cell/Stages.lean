import NotebookKernel.Cell.Run
import NotebookKernel.Proofs.Program.Conduct

/-!
A cell run, cut where its relay comes and goes.

`Kernel.runCell` is one program. Statements about output have to tell apart what a cell does while
its relay starts, while it flushes, while it stops, and the rest of the time; `CellStage` names
these stretches, and `CellStage.next` says which one follows. `CellStage.whole_announcing` says that
a cell run is its stages, one after the other.
-/

namespace NotebookKernel

/-- A stretch of a cell run, with what the stretches before it left. -/
inductive CellStage where
  | announcing (k : Kernel) (source : String) (parent : Json)
  | expanding (k : Kernel) (source : String)
  | starting (k : Kernel) (code : String)
  | executing (k : Kernel) (code : String)
  | flushing (k : Kernel) (result : Outcome)
  | publishing (k : Kernel) (result : CellResult)
  | stopping (k : Kernel) (outcome : Except Error CellResult)

namespace CellStage

/-- What a stage leaves. -/
abbrev Result : CellStage → Type
  | announcing .. => Except Error Unit
  | expanding .. => Except ExpansionError String × Kernel
  | starting .. => Except Error Unit
  | executing .. => Except Error Outcome
  | flushing .. => Bool
  | publishing .. => Unit
  | stopping .. => Bool

/-- What a stage does. -/
def program : (stage : CellStage) → Act stage.Result
  | announcing k _ parent => (k.announceRequest parent).run
  | expanding k source => Kernel.expand source k
  | starting k _ => (Streaming.start k.chunkSize).run
  | executing k code => (k.execute code).run
  | flushing k _ => Streaming.drain k.chunkSize
  | publishing k _ => QueuedMessage.publish k
  | stopping k _ => Streaming.stop k.chunkSize

/-- What a cell run comes to. -/
abbrev Ending := Except Error CellResult × Kernel

/-- What follows a stage: another one, or the end of the run. -/
def next : (stage : CellStage) → stage.Result → CellStage ⊕ Ending
  | announcing k _ _, .error e => .inr (.error e, k)
  | announcing k source _, .ok () => .inl (expanding k source)
  | expanding _ _, (.error e, k) => .inr (.ok ⟨.notExpanded e, false⟩, k)
  | expanding _ _, (.ok code, k) => .inl (starting k code)
  | starting k _, .error e => .inr (.error e, k)
  | starting k code, .ok () => .inl (executing k code)
  | executing k _, .error e => .inl (stopping k (.error e))
  | executing k _, .ok result => .inl (flushing k result)
  | flushing k result, printed =>
    if result.succeeded then .inl (publishing k ⟨result, printed⟩)
    else .inl (stopping k (.ok ⟨result, printed⟩))
  | publishing k result, () => .inl (stopping k (.ok result))
  | stopping k outcome, _ => .inr (outcome, k)

/-- How many stages may follow. -/
def left : CellStage → Nat
  | announcing .. => 6
  | expanding .. => 5
  | starting .. => 4
  | executing .. => 3
  | flushing .. => 2
  | publishing .. => 1
  | stopping .. => 0

theorem left_lt_of_next {stage later : CellStage} {result : stage.Result}
    (h : stage.next result = .inl later) : later.left < stage.left := by
  cases stage with
  | announcing k source parent =>
    cases result with
    | error e => cases h
    | ok _ => cases h; simp [left]
  | expanding k source =>
    obtain ⟨result, k⟩ := result
    cases result with
    | error e => cases h
    | ok code => cases h; simp [left]
  | starting k code =>
    cases result with
    | error e => cases h
    | ok _ => cases h; simp [left]
  | executing k code =>
    cases result with
    | error e => cases h; simp [left]
    | ok result => cases h; simp [left]
  | flushing k result =>
    rw [next] at h
    split at h <;> cases h <;> simp [left]
  | publishing k result => cases h; simp [left]
  | stopping k outcome => cases h

/-- A stage and all that follow. -/
def whole (stage : CellStage) : Act Ending :=
  stage.program.bind fun result =>
    match _follows : stage.next result with
    | .inl later => later.whole
    | .inr ending => .done ending
termination_by stage.left
decreasing_by exact left_lt_of_next ‹_›

/-- All that follows a turn. -/
def onward : CellStage ⊕ Ending → Act Ending
  | .inl stage => stage.whole
  | .inr ending => .done ending

theorem whole_eq (stage : CellStage) :
    stage.whole = stage.program.bind fun result => onward (stage.next result) := by
  rw [whole]
  congr 1
  funext result
  split <;> next follows => rw [follows, onward]

/-- Running code while a relay runs is the stages from the execution to the end of the relay. -/
theorem whole_executing (k : Kernel) (code : String) :
    (executing k code).whole = (k.runRelayed code).run.bind fun outcome => .done (outcome, k) := by
  have stopped : ∀ outcome : Except Error CellResult, (stopping k outcome).whole =
      ((Streaming.stop k.chunkSize).bind fun _ => .done outcome).bind
        fun outcome => .done (outcome, k) := by
    intro outcome
    rw [whole_eq, Program.bind_assoc]
    rfl
  rw [whole_eq]
  change _ = (Program.bind _ _).bind _
  rw [Program.bind_assoc]
  congr 1
  funext result
  cases result with
  | error e => exact stopped (.error e)
  | ok result =>
    change (flushing k result).whole = (Program.bind _ _).bind _
    rw [whole_eq, Program.bind_assoc]
    congr 1
    funext printed
    change onward (if result.succeeded then _ else _) =
      Program.bind (if result.succeeded then Program.bind _ _ else Program.bind _ _) _
    cases result.succeeded with
    | true =>
      change (publishing k ⟨result, printed⟩).whole = (Program.bind _ _).bind _
      rw [whole_eq, Program.bind_assoc]
      congr 1
      funext _
      exact stopped (.ok ⟨result, printed⟩)
    | false => exact stopped (.ok ⟨result, printed⟩)

/-- Running code under a relay is the stages from the start of the relay to its end. -/
theorem whole_starting (k : Kernel) (code : String) :
    (starting k code).whole = (k.runStreaming code).run.bind fun outcome => .done (outcome, k) := by
  rw [whole_eq]
  change _ = (Program.bind _ _).bind _
  rw [Program.bind_assoc]
  congr 1
  funext started
  cases started with
  | error e => rfl
  | ok _ => exact whole_executing k code

/-- A cell run is its stages, one after the other. -/
theorem whole_announcing (k : Kernel) (source : String) (parent : Json) :
    (announcing k source parent).whole = (Kernel.runCell source parent).run.run k := by
  have announced : (KernelAction.reading (·.announceRequest parent)).run.run k =
      (k.announceRequest parent).run.bind fun result => .done (result, k) :=
    rfl
  have expanded : (liftM (Kernel.expand source) :
      KernelAction (Except ExpansionError String)).run.run k =
      (Kernel.expand source k).bind fun result => .done (.ok result.1, result.2) :=
    rfl
  rw [whole_eq, Kernel.runCell, Layers.run_bind, announced, Program.bind_assoc]
  congr 1
  funext result
  cases result with
  | error e => rfl
  | ok _ =>
    change (expanding k source).whole = _
    rw [whole_eq]
    simp only [Program.bind]
    rw [Layers.run_bind, expanded, Program.bind_assoc]
    congr 1
    funext result
    obtain ⟨result, k⟩ := result
    cases result with
    | error e => rfl
    | ok code => exact whole_starting k code

end CellStage
end NotebookKernel
