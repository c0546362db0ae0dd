import NotebookKernel.Proofs.Cell.Windows

/-!
What relay and kernel know of a window.

The relay remembers under the guard whether it had output, and each drain adds what it took itself.
So the memory, or what someone who holds the guard knows instead, always agrees with what was taken
since the relay was started; `Memory` says so. The flush behind the evaluation reads it off, and the
later stages carry it along: `CellStage.Expects` says how far each of them got.
-/

namespace NotebookKernel

/-! ## The relay's memory -/

/-- The relay's memory, or what someone who holds the guard knows instead, is of what was taken. -/
structure Memory (s : Shared) (mine? its? had? : Option Bool) : Prop where
  guarded : s.guarded = (mine?.isSome || its?.isSome)
  apart : mine? = none ∨ its? = none
  same : ∀ had, had? = some had → (mine?.or its?).getD s.printed = had

namespace Memory

variable {s t : Shared} {draining : Bool} {effect : Effect} {mine? its? other? had? : Option Bool}
  {tally : Tally}

theorem symm (memory : Memory s mine? its? had?) : Memory s its? mine? had? where
  guarded := by rw [memory.guarded, Bool.or_comm]
  apart := memory.apart.symm
  same had here := by
    have same := memory.same had here
    obtain rfl | rfl := memory.apart
    · simpa using same
    · simpa using same

/-- An exchange by someone who keeps a tally leaves the memory right. -/
theorem after (memory : Memory s tally.known? other? had?) (allowed : tally.Allows effect)
    (running : effect ≠ .started) (early : tally.isEarly = true → had? = none)
    (answered : s.Answers draining effect t) :
    Memory t (tally.after effect).known? other? (had?.map (· || effect.takes)) := by
  obtain ⟨guarded, apart, same⟩ := memory
  have still : effect.takes = false → had?.map (· || effect.takes) = had? := fun none => by
    simp [none]
  cases effect with
  | took text =>
    rw [answered.2.2]
    obtain ⟨due, rfl⟩ | ⟨before, rfl⟩ := allowed
    · exact ⟨guarded, apart, fun had here => by simp [early rfl] at here⟩
    · refine ⟨guarded, apart.imp_left (nomatch ·), fun had here => ?_⟩
      obtain ⟨had, earlier, rfl⟩ := Option.map_eq_some_iff.mp here
      rw [← same had earlier]
      rfl
  | failed =>
    obtain rfl : t = s := answered
    rw [still rfl]
    obtain ⟨due, rfl⟩ | ⟨before, rfl⟩ := allowed <;> exact ⟨guarded, apart, same⟩
  | counted unread =>
    obtain rfl := answered.2
    rw [still rfl]
    obtain rfl | ⟨before, rfl⟩ := allowed <;> exact ⟨guarded, apart, same⟩
  | started => exact absurd rfl running
  | stopped =>
    obtain rfl : tally = .free := allowed
    rw [still rfl, answered.2]
    exact ⟨guarded, apart, same⟩
  | locked before =>
    obtain rfl : tally = .free := allowed
    obtain ⟨free, rfl, rfl⟩ := answered
    have none : other? = none := by simpa [free, Tally.known?] using guarded
    subst none
    rw [still rfl]
    exact ⟨rfl, .inr rfl, same⟩
  | unlocked before =>
    obtain rfl : tally = .holding before := allowed
    obtain rfl : t = _ := answered
    obtain known | rfl := apart
    · cases known
    · rw [still rfl]
      exact ⟨rfl, .inl rfl, same⟩
  | _ =>
    obtain rfl : t = s := answered
    rw [still rfl]
    cases tally <;> exact ⟨guarded, apart, same⟩

/-- So the memory is right for a history that goes on. -/
theorem exchange {event : Event} {history : List Event}
    (memory : Memory s tally.known? other? (Window.of history).had?)
    (allowed : tally.Allows event.drained) (going : event ≠ .began)
    (running : event.drained ≠ .started)
    (early : tally.isEarly = true → RelayTrace.of history = .absent)
    (answered : s.Answers draining event.drained t) :
    Memory t (tally.after event.drained).known? other? (Window.of (event :: history)).had? := by
  rw [Window.of_cons going running, Window.had?_after]
  refine memory.after allowed running (fun still => ?_) answered
  rw [Window.of_eq_absent (early still)]
  rfl

end Memory

/-! ## What stages expect -/

namespace CellStage

/-- How far a stage and those before it got with the window of the cell. -/
def Expects : CellStage → Tally → Window → Prop
  | announcing .., t, _ | expanding .., t, _ => t = .fresh
  | starting .., t, w => t.isEarly = false → w.Underway
  | executing .., _, w => w.Underway
  | flushing .., t, w =>
    (∀ printed, t = .gave printed → w.Counted printed) ∧
      ((∀ printed, t ≠ .gave printed) → w.Underway)
  | publishing _ result, _, w => w.Counted result.printed
  | stopping _ (.ok result), _, w => w.Counted result.printed
  | stopping _ (.error _), _, w => w.Opened

variable {stage later : CellStage} {result : stage.Result} {t : Tally} {w : Window}

/-- Only the start of the relay reads while there is none. -/
theorem Expects.opening {due : Nat} (expects : stage.Expects (.opening due) .absent) :
    ∃ k code, stage = .starting k code := by
  cases stage with
  | announcing _ _ _ | expanding _ _ => cases expects
  | starting k code => exact ⟨k, code, rfl⟩
  | executing _ _ => exact expects.elim
  | flushing _ _ => exact (expects.2 fun _ same => nomatch same).elim
  | publishing _ _ => exact expects.elim
  | stopping k outcome => cases outcome <;> exact expects.elim

theorem Expects.after {exchange : Exchange Host} (expects : stage.Expects t w)
    (allowed : t.Allows (Event.exchanged (.kernel stage) exchange).drained)
    (running : (Event.exchanged (.kernel stage) exchange).drained ≠ .started)
    (known : ∀ printed had, t = .holding printed → w.had? = some had → printed = had) :
    stage.Expects (t.after (Event.exchanged (.kernel stage) exchange).drained)
      (w.after (.exchanged (.kernel stage) exchange)) := by
  cases stage with
  | announcing _ _ _ | expanding _ _ =>
    obtain rfl : t = .fresh := expects
    rfl
  | starting k code =>
    intro late
    rw [Tally.isEarly_after allowed running] at late
    exact (expects late).after rfl trivial
  | executing k code => exact Window.Underway.after rfl trivial expects
  | flushing k result =>
    obtain ⟨settled, unsettled⟩ := expects
    cases unlocks : exchange.effect.unlocks with
    | true =>
      obtain ⟨before, effect⟩ := Effect.unlocks_iff.mp unlocks
      have drained : (Event.exchanged (.kernel (.flushing k result)) exchange).drained =
          .unlocked before := effect
      rw [drained] at allowed ⊢
      obtain rfl : t = .holding before := allowed
      refine ⟨?_, fun other => absurd rfl (other before)⟩
      rintro _ ⟨⟩
      have underway := unsettled fun _ same => nomatch same
      refine underway.counted unlocks ?_
      obtain ⟨had, here⟩ := underway.had?
      rw [Window.had?_after, drained, here, known before had rfl here]
      simp [Effect.takes]
    | false =>
      have gave := fun printed => Tally.after_eq_gave_iff printed allowed running unlocks
      refine ⟨fun printed same => (settled printed ((gave printed).mp same)).after, fun other => ?_⟩
      have underway := unsettled fun printed same => other printed ((gave printed).mpr same)
      exact underway.after unlocks trivial
  | publishing k result => exact Window.Counted.after expects
  | stopping k outcome =>
    cases outcome with
    | error e => exact Window.Opened.after rfl expects
    | ok result => exact Window.Counted.after expects

/-- Another participant's exchange disappoints no stage. -/
theorem Expects.other {event : Event} (expects : stage.Expects t w)
    (unflushed : event.flushed = false) (here : event.untilFlush) :
    stage.Expects t (w.after event) := by
  cases stage with
  | announcing _ _ _ | expanding _ _ => exact expects
  | starting k code => exact fun late => (expects late).after unflushed here
  | executing k code => exact Window.Underway.after unflushed here expects
  | flushing k result =>
    exact ⟨fun printed gave => (expects.1 printed gave).after,
      fun before => (expects.2 before).after unflushed here⟩
  | publishing k result => exact Window.Counted.after expects
  | stopping k outcome =>
    cases outcome with
    | error e => exact Window.Opened.after unflushed expects
    | ok result => exact Window.Counted.after expects

theorem Expects.next (next : stage.next result = .inl later) (tells : stage.Tells result t)
    (expects : stage.Expects t w) : later.Expects later.opens w := by
  cases stage with
  | announcing k source parent =>
    cases result with
    | error e => cases next
    | ok _ => cases next; rfl
  | expanding k source =>
    obtain ⟨result, k⟩ := result
    cases result with
    | error e => cases next
    | ok code => cases next; exact fun late => nomatch late
  | starting k code =>
    cases result with
    | error e => cases next
    | ok _ =>
      cases next
      obtain rfl : t = .free := tells
      exact expects rfl
  | executing k code =>
    cases result with
    | error e => cases next; exact expects.opened
    | ok result => cases next; exact ⟨fun _ same => (nomatch same), fun _ => expects⟩
  | flushing k outcome =>
    have counted := expects.1 result tells
    rw [CellStage.next] at next
    split at next <;> cases next <;> exact counted
  | publishing k result => cases next; exact expects
  | stopping k outcome => cases next

theorem opens_of_next (next : stage.next result = .inl later) (tells : stage.Tells result t) :
    later.opens = .free ∨ later.opens = .fresh ∧ t = .fresh := by
  cases stage with
  | announcing k source parent =>
    cases result with
    | error e => cases next
    | ok _ => cases next; exact .inr ⟨rfl, tells⟩
  | expanding k source =>
    obtain ⟨result, k⟩ := result
    cases result with
    | error e => cases next
    | ok code => cases next; exact .inr ⟨rfl, tells⟩
  | flushing k outcome =>
    rw [CellStage.next] at next
    split at next <;> cases next <;> exact .inl rfl
  | starting k code | executing k code => cases result <;> cases next <;> exact .inl rfl
  | _ => cases next <;> exact .inl rfl

/-- Whether a cell printed is what counted for its window, if it has one. -/
theorem Expects.ends {last : CellResult} {k : Kernel}
    (next : stage.next result = .inr (.ok last, k)) (tells : stage.Tells result t)
    (expects : stage.Expects t w) (early : t = .fresh → w = .absent) :
    (w = .absent ∧ last.printed = false) ∨ w.Counted last.printed := by
  cases stage with
  | announcing k source parent => cases result <;> cases next
  | expanding k source =>
    obtain ⟨result, k⟩ := result
    cases result with
    | error e => cases next; exact .inl ⟨early tells, rfl⟩
    | ok code => cases next
  | flushing k outcome =>
    rw [CellStage.next] at next
    split at next <;> cases next
  | starting k code | executing k code => cases result <;> cases next
  | stopping k outcome =>
    cases next
    exact .inr expects
  | _ => cases next

theorem Tells.unknown (tells : stage.Tells result t) : t.known? = none := by
  cases stage with
  | starting k code => rw [show t = _ from tells]; cases result <;> rfl
  | _ => rw [show t = _ from tells]; rfl

end CellStage

/-! ## What the kernel knows -/

/-- What a stage does beside the drains counts for nothing. -/
theorem Tally.drained {stage : CellStage} {exchange : Exchange Host} {own : Hold} {s t : Shared}
    {draining : Bool} (tally : Tally) (holds : own.Allows stage.role exchange.effect)
    (allowed : tally.Allows exchange.effect) (answered : s.Answers draining exchange.effect t) :
    tally.Allows (Event.exchanged (.kernel stage) exchange).drained ∧
      tally.after exchange.effect =
        tally.after (Event.exchanged (.kernel stage) exchange).drained ∧
      s.Answers draining (Event.exchanged (.kernel stage) exchange).drained t := by
  by_cases role : stage.role = .bystander
  · rw [show (Event.exchanged (.kernel stage) exchange).drained = .other from if_pos role]
    rw [role] at holds
    obtain ⟨text, effect⟩ | effect | effect := Hold.bystander_effect holds
    all_goals
      rw [effect] at answered ⊢
      exact ⟨trivial, by cases tally <;> rfl, answered⟩
  · rw [show (Event.exchanged (.kernel stage) exchange).drained = exchange.effect from if_neg role]
    exact ⟨allowed, rfl, answered⟩

/-- A relay that is not there, or that polls, is started or stopped and nothing else. -/
theorem RelayTrace.of_cons_same {event : Event} {history : List Event} (going : event ≠ .began)
    (running : event.drained ≠ .started) (unstopped : event.drained ≠ .stopped)
    (quiet : of history = absent ∨ of history = polling) :
    of (event :: history) = of history := by
  rw [of_cons going]
  split
  · next started => exact absurd started running
  · next stopped => exact absurd stopped unstopped
  · obtain trace | trace := quiet <;> rw [trace] <;> rfl
  · obtain trace | trace := quiet <;> rw [trace] <;> rfl

/-- What the kernel knows between two cells and within a stage. -/
def KernelThread.Tells (t : Tally) (w : Window) : KernelThread → Prop
  | idle last => t = .free ∧ ∀ result k, last = some (.ok result, k) →
    (w = .absent ∧ result.printed = false) ∨ w.Counted result.printed
  | within stage rest =>
    rest.Keeps Tally.rules t (fun u result => stage.Tells result u) ∧ stage.Expects t w

/-- Another participant's exchange changes nothing about it. -/
theorem KernelThread.Tells.other {t : Tally} {w : Window} {thread : KernelThread} {event : Event}
    (tells : thread.Tells t w) (unflushed : event.flushed = false) (here : event.untilFlush) :
    thread.Tells t (w.after event) := by
  cases thread with
  | idle last =>
    refine ⟨tells.1, fun result k same => ?_⟩
    obtain ⟨rfl, unprinted⟩ | counted := tells.2 result k same
    · exact .inl ⟨rfl, unprinted⟩
    · exact .inr counted.after
  | within stage rest => exact ⟨tells.1, tells.2.other unflushed here⟩

end NotebookKernel
