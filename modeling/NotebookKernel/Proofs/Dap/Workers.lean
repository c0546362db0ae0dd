import NotebookKernel.Proofs.Dap.Numbers

/-!
What holds however the threads and the reader take turns.

`Traffic.Kept` is the invariant of a connection in use: what each thread keeps track of is what the
history tells of its numbers, and each thread goes on as it promised. It holds at first, and every
step keeps it.
-/

namespace NotebookKernel.Dap

namespace Sender

/-- What a thread keeps track of, given what has happened. -/
def along (i : Nat) : List Occurrence → Sender
  | [] => idle
  | .exchanged j exchange :: earlier =>
    if j = i then (along i earlier).after exchange else along i earlier
  | _ :: earlier => along i earlier

theorem along_exchanged (i j : Nat) (exchange : Exchange Link) (earlier : List Occurrence) :
    along j (.exchanged i exchange :: earlier) =
      Function.update (along · earlier) i ((along i earlier).after exchange) j := by
  rw [along]
  by_cases thread : i = j
  · subst thread
    rw [if_pos rfl, Function.update_self]
  · rw [if_neg thread, Function.update_of_ne (Ne.symm thread)]

/-- The thread rests, or it goes on as it promised. -/
def Works (h : Sender) : Option Worker → Prop
  | none => h.sending = none ∧ h.listening = false
  | some w => w.rest.Keeps (rules w.task.launches) h fun u _ =>
    u.sending = none ∧ u.listening = false

end Sender

namespace Traffic

/-- What a thread keeps track of. -/
def sender (t : Traffic) (i : Nat) : Sender :=
  .along i t.history

/-- The invariant: the connection and its threads are as the history tells, and every thread goes on
as it promised. -/
structure Kept (t : Traffic) : Prop where
  told : Told t.connection t.sender t.history
  works : ∀ i, (t.sender i).Works (t.workers i)
  reading : t.connection.reading = false ↔ .ended ∈ t.history ∨ .died ∈ t.history

/-- The reader is gone as before if what happened is not its end. -/
theorem reading_cons {c : Connection} {o : Occurrence} {history : List Occurrence}
    (reading : c.reading = false ↔ .ended ∈ history ∨ .died ∈ history) (unended : .ended ≠ o)
    (living : .died ≠ o) : c.reading = false ↔ .ended ∈ o :: history ∨ .died ∈ o :: history := by
  rw [reading, List.mem_cons, List.mem_cons, or_iff_right unended, or_iff_right living]

section Steps

variable {t : Traffic} {i : Nat} {task : Debugger.Request}

theorem kept_initial : initial.Kept where
  told := by
    refine ⟨.nil, ⟨fun i seq p => ?_, fun i seq mem => (nomatch mem), fun i => List.nodup_nil⟩,
      ⟨fun seq free => rfl, List.nodup_nil, fun seq => ?_, fun seq => rfl⟩⟩
    · exact iff_of_false (fun same => nomatch same) (fun same => nomatch same)
    · exact iff_of_false List.not_mem_nil (fun same => nomatch same)
  works _ := ⟨rfl, rfl⟩
  reading := iff_of_false (fun same => nomatch same) (not_or.mpr ⟨List.not_mem_nil, List.not_mem_nil⟩)

/-! ## Exchanges -/

section Exchanges

variable {r : Link.Request} {next : Link.Answer r → LinkAct Unit} {answer : Link.Answer r}
  {d : Connection}

/-- What a thread asks is allowed, and so is what follows the answer. -/
theorem Kept.asked (kept : t.Kept) (worker : t.workers i = some ⟨task, .ask r next⟩)
    (answer : Link.Answer r) :
    (t.sender i).Allows task.launches r ∧
      ((t.sender i).after ⟨r, answer⟩).Works (some ⟨task, next answer⟩) := by
  have works := kept.works i
  rw [worker] at works
  exact works answer

theorem moved_still (c : Connection) (n : Nat) (move : Move) :
    (c.moved n move).listening = c.listening ∧ (c.moved n move).reading = c.reading := by
  cases move with
  | wait response => cases response <;> exact ⟨rfl, rfl⟩
  | _ => exact ⟨rfl, rfl⟩

theorem reading_of_fetch? {c : Connection} {seq : Nat} {response : Option Response}
    (fetched : c.fetch? seq = some (response, d)) : d.reading = c.reading := by
  rw [(Connection.fetch?_cases fetched).2]
  exact (moved_still c seq (.wait response)).2

/-- An exchange is as the history tells, and it leaves the reader alone. -/
theorem Kept.of_moves (kept : t.Kept)
    (moves : Moves task.launches t.connection (t.sender i) (move? ⟨r, answer⟩) d
      ((t.sender i).after ⟨r, answer⟩)) :
    Told d (Function.update t.sender i ((t.sender i).after ⟨r, answer⟩))
        (.exchanged i ⟨r, answer⟩ :: t.history) ∧
      d.reading = t.connection.reading := by
  generalize found : move? ⟨r, answer⟩ = what at moves
  generalize (t.sender i).after ⟨r, answer⟩ = h at moves
  -- a thread that begins or ends to listen sends and awaits the same as before
  have unsent : ∀ h : Sender, h.sending = (t.sender i).sending → h.written = (t.sender i).written →
      ∀ j, (Function.update t.sender i h j).sending = (t.sender j).sending ∧
        (Function.update t.sender i h j).written = (t.sender j).written := by
    intro h sending written j
    by_cases thread : j = i
    · subst thread
      rw [Function.update_self]
      exact ⟨sending, written⟩
    · rw [Function.update_of_ne thread]
      exact ⟨rfl, rfl⟩
  cases moves with
  | @move n move needs waits ready =>
    exact ⟨kept.told.moved found needs waits ready rfl rfl, (moved_still _ n move).2⟩
  | listen => exact ⟨kept.told.still found (unsent _ rfl rfl) rfl rfl rfl, rfl⟩
  | unlisten => exact ⟨kept.told.still found (unsent _ rfl rfl) rfl rfl rfl, rfl⟩
  | other agrees =>
    exact ⟨kept.told.still found (unsent _ rfl rfl) agrees.nextSeq agrees.pending
      agrees.delivered, agrees.reading⟩

theorem Kept.exchanged (kept : t.Kept) (worker : t.workers i = some ⟨task, .ask r next⟩)
    (moves : Moves task.launches t.connection (t.sender i) (move? ⟨r, answer⟩) d
      ((t.sender i).after ⟨r, answer⟩)) :
    (t.exchanged i task ⟨r, answer⟩ (next answer) d).Kept := by
  have ⟨told, reading⟩ := kept.of_moves moves
  have senders : (t.exchanged i task ⟨r, answer⟩ (next answer) d).sender =
      Function.update t.sender i ((t.sender i).after ⟨r, answer⟩) := by
    funext j
    exact Sender.along_exchanged i j ⟨r, answer⟩ t.history
  refine ⟨?_, fun j => ?_, ?_⟩
  · rw [senders]
    exact told
  · rw [senders]
    by_cases thread : j = i
    · subst thread
      change (Function.update t.sender j _ j).Works (Function.update t.workers j _ j)
      rw [Function.update_self, Function.update_self]
      exact (kept.asked worker answer).2
    · change (Function.update t.sender i _ j).Works (Function.update t.workers i _ j)
      rw [Function.update_of_ne thread, Function.update_of_ne thread]
      exact kept.works j
  · refine reading_cons ?_ (fun same => nomatch same) (fun same => nomatch same)
    change d.reading = false ↔ _
    rw [reading]
    exact kept.reading

end Exchanges

/-! ## The other steps -/

/-- A thread begins or ends its work. -/
theorem Kept.replaced (kept : t.Kept) {w : Option Worker} (works : (t.sender i).Works w) :
    { t with workers := Function.update t.workers i w }.Kept := by
  refine { kept with works := fun j => ?_ }
  by_cases thread : j = i
  · subst thread
    change (t.sender j).Works (Function.update t.workers j w j)
    rw [Function.update_self]
    exact works
  · change (t.sender j).Works (Function.update t.workers i w j)
    rw [Function.update_of_ne thread]
    exact kept.works j

theorem Kept.begun (kept : t.Kept) (task : Debugger.Request) (c : Client)
    (idle : t.workers i = none) : (t.sender i).Works (some (.start task c)) := by
  have resting := kept.works i
  rw [idle] at resting
  have keeps := Client.answer_keeps resting.1 resting.2 task c
  exact keeps.bind fun u _ rests => rests

theorem Kept.finished (kept : t.Kept) (worker : t.workers i = some ⟨task, .done ()⟩) :
    (t.sender i).Works none := by
  have works := kept.works i
  rw [worker] at works
  exact works

/-- Bytes that wait to be read change nothing yet. -/
theorem Kept.unread (kept : t.Kept) (bytes : Bytes) :
    { t with connection := { t.connection with unread := bytes } }.Kept := by
  have table := kept.told.table
  exact { kept with
    told := ⟨kept.told.lawful, kept.told.senders,
      ⟨table.fresh, table.distinct, table.pending, table.delivered⟩⟩ }

theorem Kept.delivered (kept : t.Kept) (message : Json) :
    { t with
      connection := (t.connection.deliver message).1
      history := .received message :: t.history }.Kept := by
  refine ⟨kept.told.received message, kept.works, ?_⟩
  refine reading_cons ?_ (fun same => nomatch same) (fun same => nomatch same)
  change (t.connection.deliver message).1.reading = false ↔ _
  rw [(t.connection.deliver_still message).1]
  exact kept.reading

theorem Kept.hungUp (kept : t.Kept) :
    { t with connection := t.connection.hangUp, history := .ended :: t.history }.Kept :=
  ⟨kept.told.hungUp, kept.works, iff_of_true rfl (.inl List.mem_cons_self)⟩

theorem Kept.died (kept : t.Kept) :
    { t with connection := t.connection.die, history := .died :: t.history }.Kept :=
  ⟨kept.told.died, kept.works, iff_of_true rfl (.inr List.mem_cons_self)⟩

end Steps

/-- Every step keeps the invariant. -/
theorem Kept.step {may : Traffic → Debugger.Request → Prop} {t u : Traffic} (kept : t.Kept)
    (step : Step may t u) : u.Kept := by
  cases step with
  | begin task c idle => exact kept.replaced (kept.begun task c idle)
  | @answer i task r next answer d worker answered =>
    have allowed := (kept.asked worker answer).1
    exact kept.exchanged worker (moves_of_answer allowed answered)
  | @free i task r next answer worker free =>
    have allowed := (kept.asked worker answer).1
    exact kept.exchanged worker (moves_of_free allowed free)
  | finish worker => exact kept.replaced (kept.finished worker)
  | arrive bytes => exact kept.unread _
  | @read ended message unread => exact (kept.unread unread).delivered message
  | @fail ended e unread => exact (kept.unread unread).hungUp
  | @die ended unread => exact (kept.unread unread).died
  | «break» => exact (kept.unread t.connection.unread).hungUp

theorem Kept.leads {t u : Traffic} (kept : t.Kept) (leads : t.Leads u) : u.Kept := by
  induction leads with
  | refl => exact kept
  | tail _ step ih => exact ih.step step

theorem Reachable.kept {t : Traffic} (reachable : t.Reachable) : t.Kept :=
  kept_initial.leads reachable

end Traffic
end NotebookKernel.Dap
