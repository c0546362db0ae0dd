import NotebookKernel.Proofs.Cell.OutputKept
import NotebookKernel.Proofs.Cell.Tallies

/-!
The stretch of a history whose output counts for a cell.

What counts is what the relay of the cell took since it was started and up to the flush behind the
evaluation, by whichever drain, and whether or not it could be broadcast. A `Window` cuts the
history of the latest cell there: into what happened before the relay was started, what counts, and
what came later. Nothing is left out, so what a window counts is a stretch of all that drains took.
-/

namespace NotebookKernel

/-! ## What was taken -/

/-- Everything that drains took. -/
def taken : List Event → List Char
  | [] => []
  | event :: earlier =>
    match event.drained with
    | .took text => taken earlier ++ text
    | _ => taken earlier

/-- What had happened before the latest drain began to read. -/
def beforeCount : List Event → List Event
  | [] => []
  | event :: earlier =>
    match event.drained with
    | .counted _ => earlier
    | _ => beforeCount earlier

/-- What has happened since. -/
def sinceCount : List Event → List Event
  | [] => []
  | event :: earlier =>
    match event.drained with
    | .counted _ => []
    | _ => event :: sinceCount earlier

/-- No read of a drain failed. -/
def Unfailed (events : List Event) : Prop :=
  ∀ event ∈ events, event.drained ≠ .failed

instance (events : List Event) : Decidable (Unfailed events) :=
  inferInstanceAs (Decidable (∀ event ∈ events, event.drained ≠ .failed))

/-- It happened in the start of a relay, or the target printed. -/
def Event.ofStart : Event → Prop
  | .printed _ | .exchanged (.kernel (.starting _ _)) _ => True
  | _ => False

/-- The latest drain is that of the start of a relay. Of what was printed before it began to read,
no more than `due` is still to be taken, unless a read failed since. -/
structure Unread (due : Nat) (history : List Event) : Prop where
  ofStart : ∀ event ∈ sinceCount history, event.ofStart
  enough : Unfailed (sinceCount history) →
    (printed (beforeCount history)).length ≤ (taken history).length + due

/-- Nothing was taken before it was printed. -/
def Causal (history : List Event) : Prop :=
  ∀ earlier, earlier <:+ history → taken earlier <+: printed earlier

/-- The flush of a cell gives the guard back. -/
def Event.flushed : Event → Bool
  | exchanged (.kernel (.flushing _ _)) exchange => exchange.effect.unlocks
  | _ => false

/-- The target printed, the relay drained, or it happened while the relay was started, the cell was
evaluated or its output flushed. -/
def Event.untilFlush : Event → Prop
  | .printed _ | .exchanged .relay _ => True
  | .exchanged (.kernel stage) _ =>
    match stage with
    | .starting _ _ | .executing _ _ | .flushing _ _ => True
    | _ => False
  | _ => False

theorem Event.untilFlush_of_flushed {event : Event} (flushed : event.flushed = true) :
    event.untilFlush := by
  cases event with
  | exchanged party exchange =>
    cases party with
    | relay => trivial
    | kernel stage => cases stage <;> trivial
  | _ => cases flushed

section Output

variable {event : Event} {history : List Event} {s t : Shared} {draining : Bool}

theorem taken_append (later earlier : List Event) :
    taken (later ++ earlier) = taken earlier ++ taken later := by
  induction later with
  | nil => simp [taken]
  | cons event rest ih =>
    rw [List.cons_append, taken, taken]
    cases event.drained <;> simp [ih]

/-- Something was taken if it was before, or just now. -/
theorem taken_cons_ne_nil :
    decide (taken (event :: history) ≠ []) =
      (decide (taken history ≠ []) || event.drained.takes) := by
  rw [taken]
  cases event.drained <;> simp [Effect.takes]

theorem printed_beforeCount (history : List Event) :
    printed (beforeCount history) <+: printed history := by
  induction history with
  | nil => exact List.prefix_rfl
  | cons event earlier ih =>
    have longer : printed earlier <+: printed (event :: earlier) := List.prefix_append _ _
    rw [beforeCount]
    split
    · exact longer
    · exact ih.trans longer

theorem mem_of_mem_sinceCount (mem : event ∈ sinceCount history) : event ∈ history := by
  induction history with
  | nil => exact mem
  | cons other rest ih =>
    rw [sinceCount] at mem
    split at mem
    · cases mem
    · rcases List.mem_cons.mp mem with rfl | mem
      · exact List.mem_cons_self
      · exact List.mem_cons_of_mem _ (ih mem)

theorem printed_prefix_of_suffix {earlier : List Event} (suffix : earlier <:+ history) :
    printed earlier <+: printed history := by
  obtain ⟨since, rfl⟩ := suffix
  induction since with
  | nil => exact List.prefix_rfl
  | cons event rest ih => exact ih.trans (List.prefix_append _ _)

/-- What was printed before any count was printed before the latest one. -/
theorem printed_prefix_beforeCount {earlier : List Event} {unread : Nat}
    (counted : event.drained = .counted unread)
    (happened : event :: earlier <:+ history) :
    printed earlier <+: printed (beforeCount history) := by
  induction history with
  | nil => cases List.suffix_nil.mp happened
  | cons other rest ih =>
    rcases List.suffix_cons_iff.mp happened with same | happened
    · obtain ⟨rfl, rfl⟩ := List.cons.inj same
      have here : beforeCount (event :: earlier) = earlier := by rw [beforeCount, counted]
      exact here.symm ▸ List.prefix_rfl
    · rw [beforeCount]
      split
      · exact printed_prefix_of_suffix ((List.suffix_cons _ _).trans happened)
      · exact ih happened

theorem Causal.cons (causal : Causal history)
    (now : taken (event :: history) <+: printed (event :: history)) :
    Causal (event :: history) := by
  intro earlier suffix
  obtain rfl | suffix := List.suffix_cons_iff.mp suffix
  · exact now
  · exact causal earlier suffix

/-- A drain takes what was captured first. -/
theorem taken_after (quiet : event.output = [])
    (answered : s.Answers draining event.drained t)
    (balance : taken history ++ s.captured = printed history) :
    taken (event :: history) ++ t.captured = printed (event :: history) := by
  rw [printed_of_exchange quiet, ← balance, taken]
  cases effect : event.drained with
  | took text =>
    rw [effect] at answered
    rw [answered.1]
    simp
  | counted n =>
    rw [effect] at answered
    rw [answered.2]
  | stopped =>
    rw [effect] at answered
    rw [answered.2]
  | locked before =>
    rw [effect] at answered
    rw [answered.2.2]
  | _ =>
    rw [effect] at answered
    rw [show t = _ from answered]

theorem sinceCount_cons (goesOn : ∀ unread, event.drained ≠ .counted unread) :
    sinceCount (event :: history) = event :: sinceCount history := by
  rw [sinceCount]
  split
  · next unread counted => exact absurd counted (goesOn unread)
  · rfl

theorem beforeCount_cons (goesOn : ∀ unread, event.drained ≠ .counted unread) :
    beforeCount (event :: history) = beforeCount history := by
  rw [beforeCount]
  split
  · next unread counted => exact absurd counted (goesOn unread)
  · rfl

/-- The drain goes on. -/
theorem Unread.later {left due : Nat} (unread : Unread left history) (starts : event.ofStart)
    (goesOn : ∀ unread, event.drained ≠ .counted unread)
    (enough : event.drained ≠ .failed →
      (printed (beforeCount history)).length ≤ (taken history).length + left →
        (printed (beforeCount history)).length ≤ (taken (event :: history)).length + due) :
    Unread due (event :: history) where
  ofStart := by
    rw [sinceCount_cons goesOn]
    exact List.forall_mem_cons.mpr ⟨starts, unread.ofStart⟩
  enough unfailed := by
    rw [sinceCount_cons goesOn] at unfailed
    rw [beforeCount_cons goesOn]
    obtain ⟨unfailed, earlier⟩ := List.forall_mem_cons.mp unfailed
    exact enough unfailed (unread.enough earlier)

theorem Unread.of_idle {due : Nat} (unread : Unread due history) (starts : event.ofStart)
    (goesOn : ∀ unread, event.drained ≠ .counted unread)
    (idle : taken (event :: history) = taken history) : Unread due (event :: history) :=
  unread.later starts goesOn fun _ enough => by rwa [idle]

/-- The reads of the start leave less and less of what it counted. -/
theorem Unread.after {tally : Tally} (unread : ∀ due, tally = .opening due → Unread due history)
    (starts : ∀ due, tally = .opening due → event.ofStart)
    (allowed : tally.Allows event.drained) (answered : s.Answers draining event.drained t)
    (balance : taken history ++ s.captured = printed history) {due : Nat}
    (opening : tally.after event.drained = .opening due) : Unread due (event :: history) := by
  have total : (taken history).length + s.captured.length = (printed history).length := by
    rw [← balance, List.length_append]
  have part := (printed_beforeCount history).length_le
  cases effect : event.drained with
  | counted count =>
    rw [effect] at allowed answered opening
    obtain rfl | ⟨had, rfl⟩ := allowed
    · cases opening
      obtain ⟨enough, -⟩ := answered
      refine ⟨fun event mem => ?_, fun _ => ?_⟩
      · rw [sinceCount, effect] at mem
        cases mem
      · rw [beforeCount, taken, effect]
        change (printed history).length ≤ (taken history).length + due
        omega
    · cases opening
  | took text =>
    rw [effect] at allowed answered opening
    obtain ⟨left, rfl⟩ | ⟨had, rfl⟩ := allowed
    · obtain rfl : (if text = [] then 0 else left - 1) = due := Tally.opening.inj opening
      obtain ⟨-, progress, -⟩ := answered
      refine (unread left rfl).later (starts left rfl) (by simp [effect]) fun _ enough => ?_
      rw [taken, effect]
      change _ ≤ (taken history ++ text).length + _
      rw [List.length_append]
      by_cases empty : text = []
      · -- an empty read finds nothing captured
        have none : s.captured = [] := Decidable.not_not.mp fun some => progress some empty
        rw [none, List.length_nil] at total
        omega
      · have := List.length_pos_iff.mpr empty
        rw [if_neg empty]
        omega
    · cases opening
  | failed =>
    rw [effect] at allowed
    obtain ⟨left, rfl⟩ | ⟨had, rfl⟩ := allowed
    · exact (unread left rfl).later (starts left rfl) (by simp [effect])
        fun unfailed => absurd effect unfailed
    · rw [effect] at opening
      cases opening
  | started | locked _ | unlocked _ =>
    rw [effect] at opening
    cases tally <;> cases opening
  | _ =>
    rw [effect] at opening
    have same : tally = .opening due := by cases tally <;> exact opening
    exact (unread due same).of_idle (starts due same) (by simp [effect]) (by rw [taken, effect])

end Output

/-! ## What counts for a cell -/

/-- The output of the latest cell's relay, with what happened up to when, each time the latest
first. -/
inductive Window where
  /-- No relay was started. -/
  | absent
  /-- With the last of `before` the relay was started, and the flush is still to come. -/
  | opened (before since : List Event)
  /-- With the last of `during` the flush was over. -/
  | closed (before during later : List Event)

namespace Window

/-- Something else happened; the flush may have given the guard back with it. -/
def after (event : Event) : Window → Window
  | absent => absent
  | opened before since =>
    if event.flushed then closed before (event :: since) [] else opened before (event :: since)
  | closed before during later => closed before during (event :: later)

/-- The window of the latest cell, as a history has it. -/
def of : List Event → Window
  | [] => absent
  | .began :: _ => absent
  | event :: earlier =>
    match event.drained with
    | .started => opened (event :: earlier) []
    | _ => (of earlier).after event

/-- What had happened when the relay was started. -/
def before : Window → List Event
  | absent => []
  | opened before _ => before
  | closed before _ _ => before

/-- What has happened since. -/
def events : Window → List Event
  | absent => []
  | opened _ since => since
  | closed _ during later => later ++ during

/-- Whether the relay has had output, if there is a relay. -/
def had? : Window → Option Bool
  | absent => none
  | window => some (decide (taken window.events ≠ []))

/-- There was no flush. -/
def Opened : Window → Prop
  | opened _ _ => True
  | _ => False

/-- The flush is still to come. -/
def Underway : Window → Prop
  | opened _ since => ∀ event ∈ since, event.untilFlush
  | _ => False

/-- Output that counts was taken, or not. -/
def Counted (printed : Bool) : Window → Prop
  | closed _ during _ =>
    (∀ event ∈ during, event.untilFlush) ∧ (printed = true ↔ taken during ≠ [])
  | _ => False

section Laws

variable {event : Event} {history : List Event} {window : Window} {printed : Bool}

theorem of_started (started : event.drained = .started) :
    of (event :: history) = opened (event :: history) [] := by
  cases event with
  | began => cases started
  | _ =>
    rw [of, started]
    exact fun same => nomatch same

theorem of_cons (going : event ≠ .began) (running : event.drained ≠ .started) :
    of (event :: history) = (of history).after event := by
  cases event with
  | began => exact absurd rfl going
  | _ =>
    rw [of]
    · split
      · next started => exact absurd started running
      · rfl
    · exact fun same => nomatch same

theorem before_after : (window.after event).before = window.before := by
  cases window with
  | opened before since =>
    rw [after]
    split <;> rfl
  | _ => rfl

theorem events_after (some : window ≠ absent) :
    (window.after event).events = event :: window.events := by
  cases window with
  | absent => exact absurd rfl some
  | opened before since =>
    rw [after]
    split <;> rfl
  | closed before during later => rfl

theorem after_eq_absent_iff : window.after event = absent ↔ window = absent := by
  cases window with
  | opened before since =>
    rw [after]
    split <;> exact ⟨(nomatch ·), (nomatch ·)⟩
  | closed before during later => exact ⟨(nomatch ·), (nomatch ·)⟩
  | absent => exact Iff.rfl

theorem had?_of_ne_absent (some : window ≠ absent) :
    window.had? = .some (decide (taken window.events ≠ [])) := by
  cases window with
  | absent => exact absurd rfl some
  | _ => rfl

/-- Output is remembered. -/
theorem had?_after :
    (window.after event).had? = window.had?.map (· || event.drained.takes) := by
  by_cases none : window = absent
  · subst none
    rfl
  · rw [had?_of_ne_absent none, had?_of_ne_absent (mt after_eq_absent_iff.mp none),
      events_after none, taken_cons_ne_nil]
    rfl

theorem Opened.after (unflushed : event.flushed = false) (opened : window.Opened) :
    (window.after event).Opened := by
  cases window with
  | opened before since =>
    rw [Window.after, unflushed]
    trivial
  | _ => cases opened

theorem Underway.opened (underway : window.Underway) : window.Opened := by
  cases window with
  | opened before since => trivial
  | _ => exact underway

theorem Underway.had? (underway : window.Underway) : ∃ had, window.had? = some had := by
  cases window with
  | opened before since => exact ⟨_, rfl⟩
  | _ => cases underway

theorem Underway.after (unflushed : event.flushed = false) (here : event.untilFlush)
    (underway : window.Underway) : (window.after event).Underway := by
  cases window with
  | opened before since =>
    rw [Window.after, unflushed]
    exact List.forall_mem_cons.mpr ⟨here, underway⟩
  | _ => cases underway

/-- With the flush it is settled what counts. -/
theorem Underway.counted (flushed : event.flushed = true) (underway : window.Underway)
    (had : (window.after event).had? = some printed) : (window.after event).Counted printed := by
  cases window with
  | opened before since =>
    rw [Window.after, if_pos flushed] at had ⊢
    refine ⟨List.forall_mem_cons.mpr ⟨Event.untilFlush_of_flushed flushed, underway⟩, ?_⟩
    rw [← Option.some.inj had]
    exact decide_eq_true_iff
  | _ => cases underway

theorem Counted.after (counted : window.Counted printed) :
    (window.after event).Counted printed := by
  cases window with
  | closed before during later => exact counted
  | _ => cases counted

/-- Without a relay there is no window. -/
theorem of_eq_absent (none : RelayTrace.of history = .absent) : of history = absent := by
  induction history with
  | nil => rfl
  | cons event earlier ih =>
    by_cases going : event = .began
    · subst going
      rfl
    rw [RelayTrace.of_cons going] at none
    have running : event.drained ≠ .started := by
      intro started
      rw [started] at none
      cases none
    have trace : RelayTrace.of earlier = .absent := by
      cases trace : RelayTrace.of earlier with
      | absent => rfl
      | _ =>
        rw [trace] at none
        split at none <;> cases none
    rw [of_cons going running, ih trace]
    rfl

/-- A window leaves nothing out. -/
theorem events_before (some : of history ≠ absent) :
    (of history).events ++ (of history).before = history := by
  induction history with
  | nil => exact absurd rfl some
  | cons event earlier ih =>
    by_cases going : event = .began
    · subst going
      exact absurd rfl some
    by_cases started : event.drained = .started
    · rw [of_started started]
      rfl
    · rw [of_cons going started] at some ⊢
      have some := mt after_eq_absent_iff.mpr some
      rw [events_after some, before_after, List.cons_append, ih some]

end Laws
end Window

/-! ## Accounts -/

/-- What was captured, printed and taken so far goes together. -/
structure Accounts (s : Shared) (tally : Tally) (history : List Event) : Prop where
  balance : taken history ++ s.captured = printed history
  causal : Causal history
  /-- The start of a relay takes what it counted. -/
  unread : ∀ due, tally = .opening due → Unread due history
  started : Window.of history ≠ .absent → Unread 0 (Window.of history).before

namespace Accounts

variable {s t : Shared} {tally other : Tally} {event : Event} {history : List Event}
  {draining : Bool}

theorem taken_prefix (accounts : Accounts s tally history) : taken history <+: printed history :=
  ⟨_, accounts.balance⟩

/-- Who does not start a relay has no further accounts to keep. -/
theorem of_late (accounts : Accounts s tally history) (late : ∀ due, other ≠ .opening due) :
    Accounts s other history :=
  ⟨accounts.balance, accounts.causal, fun due same => absurd same (late due), accounts.started⟩

theorem print (accounts : Accounts s tally history) (text : List Char) :
    Accounts { s with captured := s.captured ++ text } tally (.printed text :: history) where
  balance := by
    change taken history ++ (s.captured ++ text) = printed history ++ text
    rw [← List.append_assoc, accounts.balance]
  causal := accounts.causal.cons (accounts.taken_prefix.trans (List.prefix_append _ _))
  unread due same := (accounts.unread due same).of_idle trivial (fun _ => (nomatch ·)) rfl
  started some := by
    have same : Window.of (.printed text :: history) = (Window.of history).after (.printed text) :=
      rfl
    rw [same] at some ⊢
    rw [Window.before_after]
    exact accounts.started (mt Window.after_eq_absent_iff.mpr some)

theorem begin (accounts : Accounts s tally history) : Accounts s .fresh (.began :: history) where
  balance := accounts.balance.trans (List.append_nil _).symm
  causal := accounts.causal.cons ⟨s.captured, accounts.balance.trans (List.append_nil _).symm⟩
  unread _ same := nomatch same
  started some := absurd rfl some

theorem exchange (accounts : Accounts s tally history)
    (starts : ∀ due, tally = .opening due → event.ofStart) (allowed : tally.Allows event.drained)
    (answered : s.Answers draining event.drained t) (going : event ≠ .began)
    (quiet : event.output = []) : Accounts t (tally.after event.drained) (event :: history) := by
  have balance := taken_after quiet answered accounts.balance
  refine ⟨balance, accounts.causal.cons ⟨_, balance⟩, fun due opening => ?_, fun some => ?_⟩
  · exact .after accounts.unread starts allowed answered accounts.balance opening
  by_cases started : event.drained = .started
  · rw [started] at allowed
    rw [Window.of_started started]
    exact (accounts.unread 0 allowed).of_idle (starts 0 allowed) (by simp [started])
      (by rw [taken, started])
  · rw [Window.of_cons going started] at some ⊢
    rw [Window.before_after]
    exact accounts.started (mt Window.after_eq_absent_iff.mpr some)

/-- Unless a read of the start failed, what counts is a stretch of the output behind all that was
printed before the start began to read. -/
theorem of_closed (accounts : Accounts s tally history) {before during later : List Event}
    (window : Window.of history = .closed before during later) :
    (∀ event ∈ sinceCount before, event.ofStart) ∧
      (Unfailed (sinceCount before) → ∃ skipped left, printed (during ++ before) =
        printed (beforeCount before) ++ skipped ++ taken during ++ left) := by
  have some : Window.of history ≠ .absent := by simp [window]
  have whole := Window.events_before some
  have unread := accounts.started some
  rw [window] at whole unread
  change (later ++ during) ++ before = history at whole
  change Unread 0 before at unread
  refine ⟨unread.ofStart, fun unfailed => ?_⟩
  have first : taken before <+: printed before := accounts.causal before ⟨_, whole⟩
  have both : taken (during ++ before) <+: printed (during ++ before) :=
    accounts.causal _ ⟨later, by rw [← whole, List.append_assoc]⟩
  have enough : (printed (beforeCount before)).length ≤ (taken before).length :=
    unread.enough unfailed
  obtain ⟨skipped, skip⟩ :=
    List.prefix_of_prefix_length_le (printed_beforeCount before) first enough
  obtain ⟨left, rest⟩ := both
  refine ⟨skipped, left, ?_⟩
  rw [← rest, taken_append, ← skip]

end Accounts

end NotebookKernel
