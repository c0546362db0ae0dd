import NotebookKernel.Proofs.Cell.StageLogs

/-!
The phases of a relay in a history.

A relay is absent until it is started, polls until it is stopped, and then drains a last time. It
comes into a phase by an event of the latest cell (`RelayTrace.exists_of_phase`), and goes out of it
by the next such event or with the next cell.
-/

namespace NotebookKernel

/-- The phase after an exchange with a given effect. -/
def Phase.after (phase : Phase) : Effect → Phase
  | .started => polling
  | .stopped => stopped
  | .counted _ => phase.counted
  | _ => phase

namespace RelayTrace

variable {event : Event} {history since before earlier : List Event}

theorem phase_of_cons (going : event ≠ .began) :
    (of (event :: history)).phase = (of history).phase.after event.drained := by
  rw [of_cons going]
  cases event.drained with
  | started | stopped => rfl
  | counted unread => exact phase_counted _
  | _ => exact phase_later _

/-- A relay that was there is there until the next cell. -/
theorem phase_of_append_ne_absent (going : ∀ event ∈ since, event ≠ .began)
    (some : (of earlier).phase ≠ .absent) : (of (since ++ earlier)).phase ≠ .absent := by
  induction since with
  | nil => exact some
  | cons event rest ih =>
    obtain ⟨here, going⟩ := List.forall_mem_cons.mp going
    rw [List.cons_append, phase_of_cons here]
    have still := ih going
    cases event.drained with
    | counted unread =>
      cases phase : (of (rest ++ earlier)).phase with
      | absent => exact absurd phase still
      | _ => exact nofun
    | started | stopped => exact nofun
    | _ => exact still

/-- A relay comes into a phase by an event, unless it was in it when the cell began. -/
theorem exists_of_phase {P : Phase → Prop} {effect : Effect} (unborn : ¬ P .absent)
    (only : ∀ phase happened, P (phase.after happened) → happened = effect ∨ P phase)
    (now : P (of history).phase) : ∃ event ∈ thisCell history, event.drained = effect := by
  induction history with
  | nil => exact absurd now unborn
  | cons event earlier ih =>
    have going : event ≠ .began := by
      rintro rfl
      exact unborn now
    rw [phase_of_cons going] at now
    rw [thisCell_cons going]
    rcases only _ _ now with here | before
    · exact ⟨event, List.mem_cons_self, here⟩
    · obtain ⟨other, mem, here⟩ := ih before
      exact ⟨other, List.mem_cons_of_mem _ mem, here⟩

/-- A relay that polls was started. -/
theorem exists_started (polls : (of history).phase = .polling) :
    ∃ event ∈ thisCell history, event.drained = .started := by
  refine exists_of_phase (P := (· = .polling)) nofun (fun phase effect now => ?_) polls
  cases effect with
  | started => exact .inl rfl
  | stopped => cases now
  | counted unread => exact .inr (Phase.of_counted now)
  | _ => exact .inr now

/-- A relay that is at its end was stopped. -/
theorem exists_stopped (ceased : (of history).phase = .stopped ∨ (of history).phase = .sweeping) :
    ∃ event ∈ thisCell history, event.drained = .stopped := by
  refine exists_of_phase (P := fun phase => phase = .stopped ∨ phase = .sweeping) (by decide)
    (fun phase effect now => ?_) ceased
  cases effect with
  | started => rcases now with now | now <;> cases now
  | stopped => exact .inl rfl
  | counted unread =>
    cases phase with
    | stopped => exact .inr (.inl rfl)
    | _ => exact .inr now
  | _ => exact .inr now

/-- Before the latest event of a final drain it was under way as well. -/
theorem of_sweeping_cons (trace : of history = sweeping before (event :: since)) :
    ∃ earlier, history = event :: earlier ∧ of earlier = sweeping before since := by
  cases history with
  | nil => cases trace
  | cons other earlier =>
    have going : other ≠ .began := by
      rintro rfl
      cases trace
    rw [of_cons going] at trace
    have same : ∃ rest, event :: since = other :: rest ∧ of earlier = sweeping before rest := by
      split at trace
      · cases trace
      · cases trace
      · rcases counted_eq_sweeping trace with ⟨-, none, -⟩ | known
        · cases none
        · exact known
      · exact later_eq_sweeping trace
    obtain ⟨rest, split, here⟩ := same
    obtain ⟨rfl, rfl⟩ := List.cons.inj split
    exact ⟨earlier, rfl, here⟩

/-- The events of a final drain are among all events. -/
theorem mem_of_sweeping (trace : of history = sweeping before since) :
    ∀ event ∈ since, event ∈ history := by
  induction since generalizing history with
  | nil => exact List.forall_mem_nil _
  | cons event rest ih =>
    obtain ⟨earlier, rfl, still⟩ := of_sweeping_cons trace
    exact List.forall_mem_cons.mpr
      ⟨List.mem_cons_self, fun other mem => List.mem_cons_of_mem _ (ih still other mem)⟩

end RelayTrace

end NotebookKernel
