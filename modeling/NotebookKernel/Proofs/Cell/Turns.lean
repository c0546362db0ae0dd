import NotebookKernel.Proofs.Cell.Drains

/-!
The kernel and the drain of its relay take turns.

The relay drains only while it polls, and takes output only under the guard; the kernel takes the
guard too while the relay polls, and stops the polling only between two drains. `Locks` is what this
comes to for the two holds. It follows that at most one of them has text in hand.
-/

namespace NotebookKernel

/-- How the holds of the kernel and of the relay's drain go together. -/
structure Locks (s : Shared) (draining : Bool) (own relay : Hold) : Prop where
  polling : s.polling = true → own.phase = .polling
  underWay : draining = true → own.phase = .polling
  relayPhase : relay.phase = .polling
  relayFree : draining = false → relay.Free
  guarded : s.guarded = (own.guarded || relay.guarded)
  apart : own.guarded = true → relay.guarded = false
  ownAlone : own.text ≠ [] → own.Alone
  relayAlone : relay.text ≠ [] → relay.Alone

namespace Locks

variable {s t : Shared} {draining : Bool} {own relay : Hold} {effect : Effect}

/-- While the kernel may drain, the relay has nothing in hand. -/
theorem relay_text (locks : Locks s draining own relay) (alone : own.Alone) : relay.text = [] := by
  by_cases some : relay.text = []
  · exact some
  have guarded : relay.guarded = true := locks.relayAlone some locks.relayPhase
  cases underWay : draining with
  | false => exact absurd (locks.relayFree underWay).2 some
  | true =>
    have apart := locks.apart (alone (locks.underWay underWay))
    rw [guarded] at apart
    cases apart

/-- While a drain of the relay may take output, the kernel has nothing in hand. -/
theorem own_text (locks : Locks s true own relay) (alone : relay.Alone) : own.text = [] := by
  by_cases some : own.text = []
  · exact some
  have apart := locks.apart (locks.ownAlone some (locks.underWay rfl))
  rw [alone locks.relayPhase] at apart
  cases apart

/-- At most one of them has text in hand. -/
theorem text_comm (locks : Locks s draining own relay) :
    own.text ++ relay.text = relay.text ++ own.text := by
  by_cases some : own.text = []
  · simp [some]
  · simp [locks.relay_text (locks.ownAlone some)]

/-- Only who has the turn may have text in hand. -/
theorem own_holds (locks : Locks s draining own relay) {captured text : List Char}
    {due : Option Nat} (alone : text ≠ [] → own.Alone) :
    Locks { s with captured } draining { own with text, due } relay :=
  ⟨locks.polling, locks.underWay, locks.relayPhase, locks.relayFree, locks.guarded, locks.apart,
    alone, locks.relayAlone⟩

theorem relay_holds (locks : Locks s true own relay) {captured text : List Char} {due : Option Nat}
    (alone : text ≠ [] → relay.Alone) :
    Locks { s with captured } true own { relay with text, due } :=
  ⟨locks.polling, locks.underWay, locks.relayPhase, fun idle => (nomatch idle), locks.guarded,
    locks.apart, locks.ownAlone, alone⟩

/-- What the kernel does leaves the turns in order. -/
theorem own_after (locks : Locks s draining own relay) {role : CellStage.Role}
    (allowed : own.Allows role effect) (answered : s.Answers draining effect t) :
    Locks t draining (own.after role effect) relay := by
  cases effect with
  | took text =>
    obtain ⟨-, -, same⟩ := answered
    rw [same]
    exact locks.own_holds fun _ => allowed.2
  | failed =>
    obtain rfl : t = s := answered
    exact locks.own_holds locks.ownAlone
  | counted n =>
    obtain rfl : t = s := answered.2
    have still : ∀ phase : Phase, phase = .polling → phase.counted = .polling := by
      rintro _ rfl
      rfl
    exact ⟨fun polling => still _ (locks.polling polling),
      fun underWay => still _ (locks.underWay underWay), locks.relayPhase, locks.relayFree,
      locks.guarded, locks.apart, fun _ polling => allowed.2 (Phase.of_counted polling),
      locks.relayAlone⟩
  | sent text =>
    obtain rfl : t = s := answered
    rw [Hold.after]
    split
    · exact locks
    · exact locks.own_holds fun some => absurd rfl some
  | unsent =>
    obtain rfl : t = s := answered
    rw [Hold.after]
    split
    · exact locks
    · exact locks.own_holds fun some => absurd rfl some
  | started =>
    obtain rfl : t = _ := answered
    exact ⟨fun _ => rfl, fun _ => rfl, locks.relayPhase, locks.relayFree, locks.guarded,
      locks.apart, fun some => absurd allowed.2.2.2 some, locks.relayAlone⟩
  | stopped =>
    obtain ⟨idle, rfl⟩ := answered
    refine ⟨fun polling => ?_, fun underWay => ?_, locks.relayPhase,
      locks.relayFree, locks.guarded, locks.apart, fun some => absurd allowed.2.2.2 some,
      locks.relayAlone⟩
    · cases polling
    · rw [idle] at underWay
      cases underWay
  | locked printed =>
    obtain ⟨free, -, rfl⟩ := answered
    rw [locks.guarded, Bool.or_eq_false_iff] at free
    exact ⟨locks.polling, locks.underWay, locks.relayPhase, locks.relayFree, rfl, fun _ => free.2,
      fun some => absurd allowed.2.2 some, locks.relayAlone⟩
  | unlocked printed =>
    obtain rfl : t = _ := answered
    refine ⟨locks.polling, locks.underWay, locks.relayPhase, locks.relayFree,
      (locks.apart allowed.2.1).symm, fun guarded => ?_,
      fun some => absurd allowed.2.2 some, locks.relayAlone⟩
    cases guarded
  | other =>
    obtain rfl : t = s := answered
    exact locks

/-- So does what the relay does while it drains. -/
theorem relay_after (locks : Locks s true own relay) (allowed : relay.Allows .draining effect)
    (answered : s.Answers true effect t) : Locks t true own (relay.after .draining effect) := by
  cases effect with
  | took text =>
    obtain ⟨-, -, same⟩ := answered
    rw [same]
    exact locks.relay_holds fun _ => allowed.2
  | failed =>
    obtain rfl : t = s := answered
    exact locks.relay_holds locks.relayAlone
  | counted n =>
    obtain rfl : t = s := answered.2
    have still : relay.phase.counted = .polling := by
      rw [locks.relayPhase]
      rfl
    exact ⟨locks.polling, locks.underWay, still, fun idle => (nomatch idle), locks.guarded,
      locks.apart, locks.ownAlone, fun _ _ => allowed.2 locks.relayPhase⟩
  | sent text =>
    obtain rfl : t = s := answered
    exact locks.relay_holds fun some => absurd rfl some
  | unsent =>
    obtain rfl : t = s := answered
    exact locks.relay_holds fun some => absurd rfl some
  | started => cases allowed.1
  | stopped => cases allowed.1
  | locked printed =>
    obtain ⟨free, -, rfl⟩ := answered
    rw [locks.guarded, Bool.or_eq_false_iff] at free
    refine ⟨locks.polling, locks.underWay, locks.relayPhase, fun idle => (nomatch idle), ?_,
      fun guarded => ?_, locks.ownAlone, fun some => absurd allowed.2.2 some⟩
    · exact (Bool.or_true own.guarded).symm
    · rw [free.1] at guarded
      cases guarded
  | unlocked printed =>
    obtain rfl : t = _ := answered
    have unguarded : own.guarded = false := by
      cases guarded : own.guarded with
      | false => rfl
      | true => exact absurd allowed.2.1 (by simp [locks.apart guarded])
    exact ⟨locks.polling, locks.underWay, locks.relayPhase, fun idle => (nomatch idle),
      by simp [Hold.after, unguarded], fun _ => rfl, locks.ownAlone,
      fun some => absurd allowed.2.2 some⟩
  | other =>
    obtain rfl : t = s := answered
    exact locks

end Locks

end NotebookKernel
