import NotebookKernel.Proofs.Cell.Bystanders
import NotebookKernel.Proofs.Cell.Surroundings

/-!
What a drain promises to those beside it.

Someone who takes output keeps a `Hold`: what was taken and not yet broadcast, whether the guard is
held, and how much of what was counted is still to be taken. `Hold.rules` says how it moves, and
what is allowed: output is taken under the guard while the relay polls, a broadcast sends all that
was taken, and the guard is given back with nothing in hand. Every stage of a cell and every drain
of the relay behave that way, and a drain without a failed read leaves nothing of what was counted.
-/

namespace NotebookKernel

/-- The relay, as far as its polling goes. -/
inductive Phase where
  | absent
  | polling
  | stopped
  | sweeping
  deriving DecidableEq

/-- The phase that a history leads to. -/
def RelayTrace.phase : RelayTrace → Phase
  | absent => .absent
  | polling => .polling
  | stopped => .stopped
  | sweeping _ _ => .sweeping

/-- A drain began to read. -/
def Phase.counted : Phase → Phase
  | stopped => sweeping
  | phase => phase

theorem Phase.of_counted {phase : Phase} (polling : phase.counted = .polling) :
    phase = .polling := by
  cases phase <;> first | rfl | cases polling

/-- No relay is there: none was started, or it is at its final drain. -/
def Phase.Over (phase : Phase) : Prop :=
  phase = absent ∨ phase = sweeping

theorem Phase.Over.ne_polling {phase : Phase} (quiet : phase.Over) : phase ≠ polling := by
  obtain rfl | rfl := quiet <;> exact fun same => nomatch same

/-- What someone who drains keeps track of. -/
structure Hold where
  phase : Phase
  guarded : Bool
  /-- What was taken and not yet broadcast. -/
  text : List Char
  /-- How much of what was counted is not yet taken at most, if it was counted. -/
  due : Option Nat

namespace Hold

/-- Nothing is held. -/
def Free (h : Hold) : Prop :=
  h.guarded = false ∧ h.text = []

/-- Nobody else may drain. -/
def Alone (h : Hold) : Prop :=
  h.phase = .polling → h.guarded = true

/-- What is allowed to someone with a given role. -/
def Allows (role : CellStage.Role) (h : Hold) : Effect → Prop
  | .took _ | .failed | .counted _ => role ≠ .bystander ∧ h.Alone
  | .sent text => role ≠ .bystander → text = h.text ∧ h.Alone
  | .unsent => role ≠ .bystander → h.Alone
  | .started => role = .owning ∧ h.phase = .absent ∧ h.Free
  | .stopped => role = .owning ∧ h.phase = .polling ∧ h.Free
  | .locked _ => role ≠ .bystander ∧ h.Free
  | .unlocked _ => role ≠ .bystander ∧ h.guarded = true ∧ h.text = []
  | .other => True

/-- What is held afterwards. -/
def after (role : CellStage.Role) (h : Hold) : Effect → Hold
  | .took text =>
    { h with
      text := h.text ++ text
      due := if text = [] then some 0 else h.due.map (· - 1) }
  | .failed => { h with due := some 0 }
  | .counted unread => { h with phase := h.phase.counted, due := some unread }
  | .sent _ | .unsent => if role = .bystander then h else { h with text := [] }
  | .started => { h with phase := .polling }
  | .stopped => { h with phase := .stopped }
  | .locked _ => { h with guarded := true }
  | .unlocked _ => { h with guarded := false }
  | .other => h

/-- What is held after everything that was counted was taken and broadcast. -/
def swept (h : Hold) : Hold :=
  { h with phase := h.phase.counted, due := some 0 }

/-- The conduct of someone with a given role. -/
def rules (role : CellStage.Role) : Conduct Host Hold where
  allows h exchange := h.Allows role exchange.effect
  after h exchange := h.after role exchange.effect

end Hold

/-! ## Drains -/

namespace Streaming

variable {role : CellStage.Role} {h : Hold} (chunk : Nat)

/-- As many reads as were counted, or an empty one, take all that was counted. -/
theorem collect_keeps (drains : role ≠ .bystander) (alone : h.Alone) (reads : Nat)
    (taken : String) {n : Nat} (same : h.text = taken.toList) (due : h.due = some n)
    (enough : n ≤ reads) :
    (collect chunk reads taken).Keeps (Hold.rules role) h fun t text =>
      t = { h with text := text.toList, due := some 0 } := by
  induction reads generalizing h n taken with
  | zero =>
    obtain rfl : n = 0 := by omega
    change h = { h with text := taken.toList, due := some 0 }
    rw [← same, ← due]
  | succ reads ih =>
    intro answer
    refine ⟨?_, ?_⟩
    · cases answer <;> exact ⟨drains, alone⟩
    cases answer with
    | error e =>
      refine fun _ => ⟨trivial, ?_⟩
      change { h with due := some 0 } = { h with text := taken.toList, due := some 0 }
      rw [← same]
    | ok text =>
      change Program.Keeps _ (if text = "" then _ else _) (h.after role (.took text.toList)) _
      by_cases empty : text = ""
      · subst empty
        change { h with text := h.text ++ [], due := some 0 } =
          { h with text := taken.toList, due := some 0 }
        rw [List.append_nil, ← same]
      · have some : text.toList ≠ [] := by simpa using empty
        have left : (h.after role (.took text.toList)).due = .some (n - 1) := by
          simp [Hold.after, some, due]
        rw [if_neg empty]
        exact ih (h := h.after role (.took text.toList)) alone (taken ++ text)
          (by simp [Hold.after, same]) left (by omega)

/-- Everything that was counted is broadcast, and nothing stays in hand. -/
theorem broadcastUnread_keeps (drains : role ≠ .bystander) (alone : h.Alone) (none : h.text = []) :
    (broadcastUnread chunk).Keeps (Hold.rules role) h fun t _ => t = h.swept := by
  intro unread
  refine ⟨⟨drains, alone⟩, ?_⟩
  replace alone : Hold.Alone { h with phase := h.phase.counted } :=
    fun polling => alone (Phase.of_counted polling)
  have collected := collect_keeps (h := { h with phase := h.phase.counted, due := some unread })
    chunk drains alone (unread + 1) "" none rfl (by omega)
  refine collected.bind ?_
  rintro _ text rfl
  by_cases empty : text = ""
  · subst empty
    change { h.swept with text := [] } = h.swept
    rw [← none]
    rfl
  · rw [if_neg empty]
    intro answer
    have sent : Hold.after role { h.swept with text := text.toList } (Exchange.effect
        ⟨.broadcast (.notification (.stdout text)), answer⟩) = h.swept := by
      cases answer <;>
        simp [Exchange.effect, Notification.stdout, Hold.after, Hold.swept, drains, none]
    refine ⟨?_, ?_⟩
    · cases answer with
      | error e => exact fun _ => alone
      | ok _ => exact fun _ => ⟨rfl, alone⟩
    · change Program.Keeps _ _ (Hold.after role { h.swept with text := text.toList } _) _
      rw [sent]
      cases answer with
      | error e => exact fun _ => ⟨trivial, rfl⟩
      | ok _ => rfl

/-- A drain takes the guard and gives it back. -/
theorem drain_keeps (drains : role ≠ .bystander) (free : h.Free) :
    (drain chunk).Keeps (Hold.rules role) h fun t _ => t = h.swept := by
  obtain ⟨unguarded, none⟩ := free
  intro before
  refine ⟨⟨drains, unguarded, none⟩, ?_⟩
  have broadcast := broadcastUnread_keeps (h := { h with guarded := true }) chunk drains
    (fun _ => rfl) none
  refine broadcast.bind ?_
  rintro _ more rfl
  intro _
  refine ⟨⟨drains, rfl, none⟩, ?_⟩
  change { h.swept with guarded := false } = h.swept
  rw [← unguarded]
  rfl

/-- Nothing stays in hand; the relay polls if it could be started. -/
theorem start_keeps (free : h.Free) (absent : h.phase = .absent) :
    (start chunk).run.Keeps (Hold.rules .owning) h fun t started =>
      t = { h with phase := if started.isOk then .polling else .absent, due := some 0 } := by
  have alone : h.Alone := fun polling => by rw [absent] at polling; cases polling
  refine (broadcastUnread_keeps chunk (by decide) alone free.2).bind ?_
  rintro _ _ rfl
  have still : h.phase.counted = .absent := by
    rw [absent]
    rfl
  intro started
  cases started with
  | error e =>
    refine ⟨trivial, ?_⟩
    change h.swept = { h with phase := .absent, due := some 0 }
    rw [Hold.swept, still]
  | ok _ => exact ⟨⟨rfl, still, free⟩, rfl⟩

theorem stop_keeps (free : h.Free) (polling : h.phase = .polling) :
    (stop chunk).Keeps (Hold.rules .owning) h fun t _ =>
      t = { h with phase := .sweeping, due := some 0 } := by
  intro _
  refine ⟨⟨rfl, polling, free⟩, ?_⟩
  exact drain_keeps (h := { h with phase := .stopped }) chunk (by decide) free

end Streaming

/-! ## Stages -/

/-- What is not about the relay broadcasts at most. -/
theorem Exchange.effect_of_bystander {r : Host.Request} (other : r.aboutRelay = false)
    (answer : Host.Answer r) :
    (∃ text, Exchange.effect ⟨r, answer⟩ = .sent text) ∨
      Exchange.effect ⟨r, answer⟩ = .unsent ∨ Exchange.effect ⟨r, answer⟩ = .other := by
  cases r with
  | debugger r => cases r <;> first | exact .inr (.inr rfl) | cases other
  | broadcast m =>
    cases m with
    | parts _ => exact .inr (.inr rfl)
    | notification n =>
      cases n with
      | stream name text =>
        cases answer with
        | ok _ => exact .inl ⟨_, rfl⟩
        | error e => exact .inr (.inl rfl)
      | executeResult _ _ _ => exact .inr (.inr rfl)
      | error _ => exact .inr (.inr rfl)
  | startPolling => cases other
  | stopPolling => cases other
  | takeGuard => cases other
  | releaseGuard _ => cases other
  | _ => exact .inr (.inr rfl)

/-- A bystander may do what is not about the relay. -/
theorem Hold.bystander_calm {r : Host.Request} (other : r.aboutRelay = false) {h : Hold}
    (answer : Host.Answer r) :
    (Hold.rules .bystander).allows h ⟨r, answer⟩ ∧
      (Hold.rules .bystander).after h ⟨r, answer⟩ = h := by
  have outside : ∀ effect : Effect, (∃ text, effect = .sent text) ∨ effect = .unsent ∨
      effect = .other → h.Allows .bystander effect ∧ h.after .bystander effect = h := by
    rintro effect (⟨text, rfl⟩ | rfl | rfl)
    · exact ⟨fun drains => absurd rfl drains, rfl⟩
    · exact ⟨fun drains => absurd rfl drains, rfl⟩
    · exact ⟨trivial, rfl⟩
  exact outside _ (Exchange.effect_of_bystander other answer)

namespace CellStage

/-- The phase in which a stage begins. -/
def entry : CellStage → Phase
  | announcing .. | expanding .. | starting .. => .absent
  | _ => .polling

/-- The phase in which it ends: there is no relay if none could be started. -/
def exit : (stage : CellStage) → stage.Result → Phase
  | announcing .., _ | expanding .., _ => .absent
  | starting .., .ok () => .polling
  | starting .., .error _ => .absent
  | stopping .., _ => .sweeping
  | executing .., _ | flushing .., _ | publishing .., _ => .polling

/-- What is held at the end of a stage. -/
def Leaves (stage : CellStage) (result : stage.Result) (h : Hold) : Prop :=
  h.Free ∧ h.phase = stage.exit result ∧ (h.phase = .sweeping → h.due = some 0)

theorem entry_ne_sweeping (stage : CellStage) : stage.entry ≠ .sweeping := by
  cases stage <;> exact fun same => nomatch same

theorem entry_of_next {stage later : CellStage} {result : stage.Result}
    (h : stage.next result = .inl later) : later.entry = stage.exit result := by
  cases stage with
  | announcing k source parent =>
    cases result with
    | error e => cases h
    | ok _ => cases h; rfl
  | expanding k source =>
    obtain ⟨result, k⟩ := result
    cases result with
    | error e => cases h
    | ok code => cases h; rfl
  | starting k code =>
    cases result with
    | error e => cases h
    | ok _ => cases h; rfl
  | executing k code =>
    cases result with
    | error e => cases h; rfl
    | ok result => cases h; rfl
  | flushing k result =>
    rw [next] at h
    split at h <;> cases h <;> rfl
  | publishing k result => cases h; rfl
  | stopping k outcome => cases h

theorem exit_of_end {stage : CellStage} {result : stage.Result} {ending : Ending}
    (h : stage.next result = .inr ending) : (stage.exit result).Over := by
  cases stage with
  | announcing k source parent => exact .inl rfl
  | expanding k source => exact .inl rfl
  | starting k code =>
    cases result with
    | error e => exact .inl rfl
    | ok _ => cases h
  | executing k code => cases result <;> cases h
  | flushing k result =>
    rw [next] at h
    split at h <;> cases h
  | publishing k result => cases h
  | stopping k outcome => exact .inr rfl

theorem exit_of_bystander {stage : CellStage} (role : stage.role = .bystander)
    (result : stage.Result) : stage.exit result = stage.entry := by
  cases stage <;> first | rfl | cases role

theorem program_bystands {stage : CellStage} (role : stage.role = .bystander) :
    stage.program.Bystands := by
  cases stage with
  | announcing k source parent => exact k.announceRequest_bystands parent
  | expanding k source => exact Kernel.expand_bystands source k
  | starting k code => cases role
  | executing k code => exact k.execute_bystands code
  | flushing k result => cases role
  | publishing k result => exact QueuedMessage.publish_bystands k
  | stopping k outcome => cases role

/-- A stage that has nothing to do with the relay leaves what is held as it is. -/
theorem keeps_of_bystander {stage : CellStage} (role : stage.role = .bystander) {h : Hold}
    (free : h.Free) (phase : h.phase = stage.entry) :
    stage.program.Keeps (Hold.rules stage.role) h fun t result => stage.Leaves result t := by
  rw [role]
  refine ((program_bystands role).keeps fun r other answer =>
    Hold.bystander_calm other answer).imp ?_
  rintro _ result rfl
  exact ⟨free, phase.trans (exit_of_bystander role result).symm,
    fun quiet => absurd (phase.symm.trans quiet) stage.entry_ne_sweeping⟩

/-- Every stage behaves as its role has it. -/
theorem keeps (stage : CellStage) {h : Hold} (free : h.Free) (phase : h.phase = stage.entry) :
    stage.program.Keeps (Hold.rules stage.role) h fun t result => stage.Leaves result t := by
  by_cases role : stage.role = .bystander
  · exact keeps_of_bystander role free phase
  cases stage with
  | starting k code =>
    refine (Streaming.start_keeps k.chunkSize free phase).imp ?_
    rintro _ started rfl
    exact ⟨free, by cases started <;> rfl, fun _ => rfl⟩
  | flushing k result =>
    refine (Streaming.drain_keeps k.chunkSize role free).imp ?_
    rintro _ _ rfl
    exact ⟨free, congrArg Phase.counted phase, fun _ => rfl⟩
  | stopping k outcome =>
    refine (Streaming.stop_keeps k.chunkSize free phase).imp ?_
    rintro _ _ rfl
    exact ⟨free, rfl, fun _ => rfl⟩
  | _ => exact absurd rfl role

end CellStage

end NotebookKernel
