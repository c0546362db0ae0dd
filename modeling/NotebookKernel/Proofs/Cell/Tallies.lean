import NotebookKernel.Proofs.Cell.Drains

/-!
What someone who drains knows of the relay's output.

A `Tally` is kept beside the exchanges of a program. Under the guard it is what the relay has had so
far: the answer to the request for the guard, and whether something was taken since. The guard is
given back with just that, and a drain returns it. Before there is a relay, its start reads what was
left; then the tally is how much of what was counted is still to be taken, and the relay is started
when nothing is.
-/

namespace NotebookKernel

/-- What someone who drains knows. -/
inductive Tally where
  /-- There is no relay, and its start has not begun to read. -/
  | fresh
  /-- The start of the relay reads, and no more than `due` of what was counted is to be taken. -/
  | opening (due : Nat)
  /-- There is a relay. -/
  | free
  /-- The guard is held; the relay has had output so far, or not. -/
  | holding (printed : Bool)
  /-- The guard was given back with what the relay is to remember. -/
  | gave (printed : Bool)

/-- The effect takes something. -/
def Effect.takes : Effect → Bool
  | .took text => decide (text ≠ [])
  | _ => false

/-- The effect gives the guard back. -/
def Effect.unlocks : Effect → Bool
  | .unlocked _ => true
  | _ => false

theorem Effect.unlocks_iff {effect : Effect} :
    effect.unlocks = true ↔ ∃ printed, effect = .unlocked printed := by
  cases effect with
  | unlocked printed => exact ⟨fun _ => ⟨printed, rfl⟩, fun _ => rfl⟩
  | _ => exact ⟨(nomatch ·), fun ⟨_, same⟩ => nomatch same⟩

namespace Tally

/-- What is known of the relay's output by someone who holds the guard. -/
def known? : Tally → Option Bool
  | holding printed => some printed
  | _ => none

/-- The relay was not started. -/
def isEarly : Tally → Bool
  | fresh | opening _ => true
  | _ => false

/-- What is allowed. -/
def Allows (t : Tally) : Effect → Prop
  | .took _ | .failed => (∃ due, t = opening due) ∨ ∃ printed, t = holding printed
  | .counted _ => t = fresh ∨ ∃ printed, t = holding printed
  | .started => t = opening 0
  | .locked _ | .stopped => t = free
  | .unlocked printed => t = holding printed
  | _ => True

/-- What is known afterwards. -/
def after : Tally → Effect → Tally
  | fresh, .counted unread => opening unread
  | opening due, .took text => opening (if text = [] then 0 else due - 1)
  | opening _, .failed => opening 0
  | holding printed, .took text => holding (printed || decide (text ≠ []))
  | _, .started => free
  | _, .locked printed => holding printed
  | _, .unlocked printed => gave printed
  | t, _ => t

/-- The conduct of someone who keeps a tally. -/
def rules : Conduct Host Tally where
  allows t exchange := t.Allows exchange.effect
  after t exchange := t.after exchange.effect

/-- What is not about the relay is always allowed and changes no tally. -/
theorem bystander_calm {r : Host.Request} (other : r.aboutRelay = false) (t : Tally)
    (answer : Host.Answer r) :
    rules.allows t ⟨r, answer⟩ ∧ rules.after t ⟨r, answer⟩ = t := by
  have outside : ∀ effect : Effect, (∃ text, effect = .sent text) ∨ effect = .unsent ∨
      effect = .other → t.Allows effect ∧ t.after effect = t := by
    rintro effect (⟨text, rfl⟩ | rfl | rfl)
    · exact ⟨trivial, by cases t <;> rfl⟩
    · exact ⟨trivial, by cases t <;> rfl⟩
    · exact ⟨trivial, by cases t <;> rfl⟩
  exact outside _ (Exchange.effect_of_bystander other answer)

section Laws

variable {t : Tally} {effect : Effect}

theorem running_of_late (allowed : t.Allows effect) (late : t.isEarly = false) :
    effect ≠ .started := by
  rintro rfl
  rw [show t = .opening 0 from allowed] at late
  cases late

/-- What is allowed leaves someone where they were: before the start of the relay, under the guard,
without it, or behind a drain. -/
theorem after_cases (allowed : t.Allows effect) (running : effect ≠ .started) :
    (t.isEarly = true ∧ (t.after effect).isEarly = true) ∨
      (∃ before, t = .holding before ∧
        (t.after effect = .holding (before || effect.takes) ∨ effect = .unlocked before)) ∨
      (t = .free ∧ ∃ before, effect = .locked before) ∨
      t.isEarly = false ∧ t.known? = none ∧ t.after effect = t := by
  cases effect with
  | started => exact absurd rfl running
  | took text =>
    obtain ⟨due, rfl⟩ | ⟨before, rfl⟩ := allowed
    · exact .inl ⟨rfl, rfl⟩
    · exact .inr (.inl ⟨before, rfl, .inl rfl⟩)
  | failed =>
    obtain ⟨due, rfl⟩ | ⟨before, rfl⟩ := allowed
    · exact .inl ⟨rfl, rfl⟩
    · exact .inr (.inl ⟨before, rfl, .inl (by simp [after, Effect.takes])⟩)
  | counted unread =>
    obtain rfl | ⟨before, rfl⟩ := allowed
    · exact .inl ⟨rfl, rfl⟩
    · exact .inr (.inl ⟨before, rfl, .inl (by simp [after, Effect.takes])⟩)
  | locked before =>
    obtain rfl := allowed
    exact .inr (.inr (.inl ⟨rfl, before, rfl⟩))
  | unlocked before =>
    obtain rfl := allowed
    exact .inr (.inl ⟨before, rfl, .inr rfl⟩)
  | stopped =>
    obtain rfl := allowed
    exact .inr (.inr (.inr ⟨rfl, rfl, rfl⟩))
  | _ =>
    cases t with
    | fresh | opening _ => exact .inl ⟨rfl, rfl⟩
    | holding before => exact .inr (.inl ⟨before, rfl, .inl (by simp [after, Effect.takes])⟩)
    | free | gave _ => exact .inr (.inr (.inr ⟨rfl, rfl, rfl⟩))

/-- Only with the start of the relay its start is over. -/
theorem isEarly_after (allowed : t.Allows effect) (running : effect ≠ .started) :
    (t.after effect).isEarly = t.isEarly := by
  obtain ⟨early, still⟩ | ⟨before, rfl, still | rfl⟩ | ⟨rfl, before, rfl⟩ | ⟨-, -, same⟩ :=
    after_cases allowed running
  · rw [early, still]
  · rw [still]
    rfl
  · rfl
  · rfl
  · rw [same]

/-- Only with the guard someone gives back what they know. -/
theorem after_eq_gave_iff (printed : Bool) (allowed : t.Allows effect) (running : effect ≠ .started)
    (keeps : effect.unlocks = false) : t.after effect = .gave printed ↔ t = .gave printed := by
  obtain ⟨early, still⟩ | ⟨before, rfl, still | rfl⟩ | ⟨rfl, before, rfl⟩ | ⟨-, -, same⟩ :=
    after_cases allowed running
  · refine ⟨fun gave => ?_, fun gave => ?_⟩
    · rw [gave] at still
      cases still
    · rw [gave] at early
      cases early
  · rw [still]
    exact ⟨(nomatch ·), (nomatch ·)⟩
  · cases keeps
  · exact ⟨(nomatch ·), (nomatch ·)⟩
  · rw [same]

/-- Who gave the guard back does nothing about the relay. -/
theorem gave_calm {printed draining : Bool} {s u : Shared} (allowed : (gave printed).Allows effect)
    (answered : s.Answers draining effect u) : u = s ∧ effect ≠ .stopped := by
  cases effect with
  | took text | failed => obtain ⟨due, same⟩ | ⟨before, same⟩ := allowed <;> cases same
  | counted unread => obtain same | ⟨before, same⟩ := allowed <;> cases same
  | started | stopped | locked _ | unlocked _ => cases allowed
  | sent _ | unsent | other => exact ⟨answered, (nomatch ·)⟩

end Laws
end Tally

/-! ## Drains -/

namespace Streaming

variable (chunk : Nat)

/-- The reads of a drain go on, under an invariant of what may still be read and what was taken, up
to the first that is empty or fails. -/
theorem collect_rule {σ : Type} {R : Conduct Host σ} {I : Nat → String → σ → Prop}
    {Q : σ → String → Prop} (spent : ∀ taken s, I 0 taken s → Q s taken)
    (empty : ∀ reads taken s, I (reads + 1) taken s →
      R.allows s ⟨.debugger (.takeOutput chunk), Except.ok ""⟩ ∧
        Q (R.after s ⟨.debugger (.takeOutput chunk), Except.ok ""⟩) taken)
    (some : ∀ reads taken s text, text ≠ "" → I (reads + 1) taken s →
      R.allows s ⟨.debugger (.takeOutput chunk), Except.ok text⟩ ∧
        I reads (taken ++ text) (R.after s ⟨.debugger (.takeOutput chunk), Except.ok text⟩))
    (failed : ∀ reads taken s e, I (reads + 1) taken s →
      R.allows s ⟨.debugger (.takeOutput chunk), Except.error e⟩ ∧
        Q (R.after s ⟨.debugger (.takeOutput chunk), Except.error e⟩) taken)
    (logs : ∀ s record, R.allows s ⟨.log record, ()⟩ ∧ R.after s ⟨.log record, ()⟩ = s) :
    ∀ {reads : Nat} {taken : String} {s : σ}, I reads taken s →
      (collect chunk reads taken).Keeps R s Q := by
  intro reads
  induction reads with
  | zero => exact fun holds => spent _ _ holds
  | succ reads ih =>
    intro taken s holds answer
    cases answer with
    | error e =>
      obtain ⟨allowed, ends⟩ := failed reads taken s e holds
      refine ⟨allowed, fun _ => ⟨(logs _ _).1, ?_⟩⟩
      change Q (R.after _ ⟨.log _, ()⟩) taken
      rwa [(logs _ _).2]
    | ok text =>
      change _ ∧ Program.Keeps _ (if text = "" then _ else _) _ _
      by_cases none : text = ""
      · subst none
        exact empty reads taken s holds
      · rw [if_neg none]
        obtain ⟨allowed, later⟩ := some reads taken s text none holds
        exact ⟨allowed, ih later⟩

theorem logs_calm (t : Tally) (record : Log.Record) :
    Tally.rules.allows t ⟨.log record, ()⟩ ∧ Tally.rules.after t ⟨.log record, ()⟩ = t :=
  Tally.bystander_calm (r := .log record) rfl t ()

/-- Enough reads take all that was counted. -/
theorem collect_opening (reads : Nat) (taken : String) {due : Nat} (enough : due ≤ reads) :
    (collect chunk reads taken).Keeps Tally.rules (.opening due) fun t _ => t = .opening 0 := by
  refine collect_rule (I := fun reads _ t => ∃ due, t = .opening due ∧ due ≤ reads) chunk
    ?_ ?_ ?_ ?_ logs_calm ⟨due, rfl, enough⟩
  · rintro _ _ ⟨due, rfl, none⟩
    rw [Nat.le_zero.mp none]
  · rintro reads taken _ ⟨due, rfl, -⟩
    exact ⟨.inl ⟨due, rfl⟩, rfl⟩
  · rintro reads taken _ text some ⟨due, rfl, enough⟩
    have some : text.toList ≠ [] := by simpa using some
    refine ⟨.inl ⟨due, rfl⟩, due - 1, ?_, by omega⟩
    change Tally.opening (if text.toList = [] then 0 else due - 1) = _
    rw [if_neg some]
  · rintro reads taken _ e ⟨due, rfl, -⟩
    exact ⟨.inl ⟨due, rfl⟩, rfl⟩

/-- Under the guard it is remembered whether something was taken. -/
theorem collect_holding (reads : Nat) (before : Bool) :
    (collect chunk reads "").Keeps Tally.rules (.holding before) fun t text =>
      t = .holding (before || decide (text ≠ "")) := by
  refine collect_rule (I := fun _ taken t => t = .holding (before || decide (taken ≠ ""))) chunk
    ?_ ?_ ?_ ?_ logs_calm (by simp)
  · exact fun _ _ same => same
  · rintro reads taken _ rfl
    refine ⟨.inr ⟨_, rfl⟩, ?_⟩
    change Tally.holding (_ || decide (([] : List Char) ≠ [])) = _
    simp
  · rintro reads taken _ text some rfl
    refine ⟨.inr ⟨_, rfl⟩, ?_⟩
    change Tally.holding (_ || decide (text.toList ≠ [])) = _
    simp [some]
  · rintro reads taken _ e rfl
    exact ⟨.inr ⟨_, rfl⟩, rfl⟩

theorem broadcast_calm (t : Tally) (text : String) :
    (Act.broadcastOrWarn .relay "publish target stdout:"
      (.notification (.stdout text))).Keeps Tally.rules t fun u _ => u = t := by
  have asks : (Act.broadcastOrWarn .relay "publish target stdout:"
      (.notification (.stdout text))).Asks fun r : Host.Request => r.aboutRelay = false :=
    Act.broadcastOrWarn_asks rfl fun _ => rfl
  exact asks.keeps fun r other answer => Tally.bystander_calm other t answer

/-- The start of a relay takes all that was left. -/
theorem broadcastUnread_opening :
    (broadcastUnread chunk).Keeps Tally.rules .fresh fun t _ => t = .opening 0 := by
  intro unread
  refine ⟨.inl rfl, (collect_opening chunk (unread + 1) "" (Nat.le_succ unread)).bind ?_⟩
  rintro _ text rfl
  by_cases empty : text = ""
  · rw [if_pos empty]
    rfl
  · rw [if_neg empty]
    exact (broadcast_calm _ text).bind fun _ _ same => same

/-- A drain under the guard tells whether something was taken. -/
theorem broadcastUnread_holding (before : Bool) :
    (broadcastUnread chunk).Keeps Tally.rules (.holding before) fun t more =>
      t = .holding (before || more) := by
  intro unread
  refine ⟨.inr ⟨_, rfl⟩, (collect_holding chunk (unread + 1) before).bind ?_⟩
  rintro _ text rfl
  by_cases empty : text = ""
  · rw [if_pos empty]
    change Tally.holding (before || decide (text ≠ "")) = .holding (before || false)
    simp [empty]
  · rw [if_neg empty]
    refine (broadcast_calm _ text).bind ?_
    rintro _ _ rfl
    change Tally.holding (before || decide (text ≠ "")) = .holding (before || true)
    simp [empty]

/-- A drain gives the guard back with what it returns. -/
theorem drain_tallies :
    (drain chunk).Keeps Tally.rules .free fun t printed => t = .gave printed := by
  intro before
  refine ⟨rfl, (broadcastUnread_holding chunk before).bind ?_⟩
  rintro _ more rfl
  exact fun _ => ⟨rfl, rfl⟩

/-- When a relay is to be started nothing is left to be taken, whether there is one then or not. -/
theorem start_tallies :
    (start chunk).run.Keeps Tally.rules .fresh fun t started =>
      t = if started.isOk then .free else .opening 0 := by
  refine (broadcastUnread_opening chunk).bind ?_
  rintro _ _ rfl started
  cases started with
  | error e => exact ⟨trivial, rfl⟩
  | ok _ => exact ⟨rfl, rfl⟩

theorem stop_tallies :
    (stop chunk).Keeps Tally.rules .free fun t printed => t = .gave printed :=
  fun _ => ⟨rfl, drain_tallies chunk⟩

end Streaming

/-! ## Stages -/

namespace CellStage

/-- What is known when a stage begins. -/
def opens : CellStage → Tally
  | announcing .. | expanding .. | starting .. => .fresh
  | _ => .free

/-- What is known when a stage has left its result. -/
def Tells : (stage : CellStage) → stage.Result → Tally → Prop
  | announcing .., _, t | expanding .., _, t => t = .fresh
  | starting .., started, t => t = if started.isOk then .free else .opening 0
  | executing .., _, t | publishing .., _, t => t = .free
  | flushing .., printed, t | stopping .., printed, t => t = .gave printed

/-- Every stage keeps the tally, and a drain that the kernel makes tells it. -/
theorem tallies (stage : CellStage) :
    stage.program.Keeps Tally.rules stage.opens fun t result => stage.Tells result t := by
  by_cases role : stage.role = .bystander
  · refine ((program_bystands role).keeps fun r other answer =>
      Tally.bystander_calm other _ answer).imp ?_
    rintro _ result rfl
    cases stage <;> first | rfl | cases role
  · cases stage with
    | starting k code => exact Streaming.start_tallies k.chunkSize
    | flushing k result => exact Streaming.drain_tallies k.chunkSize
    | stopping k outcome => exact Streaming.stop_tallies k.chunkSize
    | _ => exact absurd rfl role

end CellStage

end NotebookKernel
