import NotebookKernel.Cell.Streaming
import NotebookKernel.Proofs.Dap.Buffers
import NotebookKernel.Proofs.Dap.Capture

/-!
Captured output, chunk by chunk.

A read has a limit of bytes and takes whole characters: as many as the limit has room for, and the
first one where it has room for none. So no character is torn, a chunk is empty only if there is
nothing to take, and every other chunk makes the text shorter. Reading on until a chunk is empty
therefore comes to an end, whatever the limits, and has then taken all of the text.

A drain reads at most as often as it is told to. What it is told, the number of captured characters
and one more, is more than it needs: the empty chunk comes before that, so the bound has no part in
what a drain takes (`Client.takeOutput_chunked`).
-/

namespace NotebookKernel

namespace Dap

namespace Connection

/-! ## Where a text is cut -/

/-- How a read cuts a text: into its longest beginning that has at most `limit` bytes, or its first
character if that has more, and what stays. -/
structure Cuts (limit : Nat) (text front rest : List Char) : Prop where
  whole : front ++ rest = text
  longest : ∀ start, start <+: text → (Utf8.encode start).length ≤ limit → start <+: front
  fits : (Utf8.encode front).length ≤ limit ∨
    ∃ c, front = [c] ∧ limit < (Utf8.encode [c]).length
  empty : front = [] ↔ text = []

theorem length_encode_cons (c : Char) (text : List Char) :
    (Utf8.encode (c :: text)).length = c.utf8Size + (Utf8.encode text).length := by
  change (String.utf8EncodeChar c ++ Utf8.encode text).length = _
  rw [List.length_append, String.length_utf8EncodeChar]

theorem splitBytes_fits (limit : Nat) (text : List Char) :
    (Utf8.encode (splitBytes limit text).1).length ≤ limit := by
  induction text generalizing limit with
  | nil => exact Nat.zero_le limit
  | cons c text ih =>
    unfold splitBytes
    split
    · next room =>
      have rest := ih (limit - c.utf8Size)
      rw [length_encode_cons]
      omega
    · exact Nat.zero_le limit

/-- No beginning of the text that fits is longer. -/
theorem prefix_splitBytes {limit : Nat} {text start : List Char} (begins : start <+: text)
    (fits : (Utf8.encode start).length ≤ limit) : start <+: (splitBytes limit text).1 := by
  induction text generalizing limit start with
  | nil => exact begins
  | cons c text ih =>
    obtain none | ⟨later, same, begins⟩ := List.prefix_cons_iff.mp begins
    · rw [none]
      exact List.nil_prefix
    · rw [same, length_encode_cons] at fits
      have room : c.utf8Size ≤ limit := by omega
      have others : later <+: (splitBytes (limit - c.utf8Size) text).1 := ih begins (by omega)
      unfold splitBytes
      rw [if_pos room, same]
      exact List.cons_prefix_cons.mpr ⟨rfl, others⟩

/-- A read cuts the captured text between two characters, at the last place that its limit lets it,
and behind the first character if the limit lets it nowhere. -/
theorem cuts_splitOutput (limit : Nat) (text : List Char) :
    Cuts limit text (splitOutput limit text).1 (splitOutput limit text).2 := by
  have whole := splitBytes_append limit text
  have fits := splitBytes_fits limit text
  unfold splitOutput
  split
  · next c rest split =>
    rw [split] at whole fits
    have large : limit < (Utf8.encode [c]).length := by
      by_contra room
      have start : [c] <+: text := ⟨rest, whole⟩
      have front := prefix_splitBytes start (Nat.not_lt.mp room)
      rw [split] at front
      exact List.cons_ne_nil c [] (List.prefix_nil.mp front)
    refine ⟨whole, ?_, .inr ⟨c, rfl, large⟩, ?_⟩
    · intro start begins small
      have front := prefix_splitBytes begins small
      rw [split] at front
      rw [List.prefix_nil.mp front]
      exact List.nil_prefix
    · rw [← whole]
      exact iff_of_false (List.cons_ne_nil c []) (List.cons_ne_nil c rest)
  · next uncut =>
    refine ⟨whole, fun start begins small => prefix_splitBytes begins small, .inl fits, ?_⟩
    constructor
    · intro none
      cases stays : (splitBytes limit text).2 with
      | nil => rw [← whole, none, stays, List.append_nil]
      | cons c rest => exact absurd (Prod.ext none stays) (uncut c rest)
    · intro none
      rw [none] at whole ⊢
      exact (List.append_eq_nil_iff.mp whole).1

/-- A chunk is empty only if nothing was left. -/
theorem Cuts.nothing {limit : Nat} {text front rest : List Char} (cuts : Cuts limit text front rest)
    (none : front = []) : text = [] ∧ rest = [] := by
  have all := cuts.empty.mp none
  have whole := cuts.whole
  rw [all] at whole
  exact ⟨all, (List.append_eq_nil_iff.mp whole).2⟩

/-- A chunk that is not empty makes the text shorter. -/
theorem Cuts.shorter {limit : Nat} {text front rest : List Char} (cuts : Cuts limit text front rest)
    (some_ : front ≠ []) : rest.length < text.length := by
  have length := congrArg List.length cuts.whole
  have pos := List.length_pos_iff.mpr some_
  rw [List.length_append] at length
  omega

/-! ## A connection at which nothing arrives -/

/-- A program at a connection at which nothing arrives meanwhile: its exchanges, its result and the
connection afterwards. There is none of this if the program would have to wait. -/
def undisturbed {α : Type} : LinkAct α → Connection → Option (List (Exchange Link) × α × Connection)
  | .done a, c => some ([], a, c)
  | .ask r next, c => do
    let (answer, d) ← c.answer? r
    let (log, a, e) ← undisturbed (next answer) d
    some (⟨r, answer⟩ :: log, a, e)

theorem undisturbed_bind {α β : Type} {p : LinkAct α} {f : α → LinkAct β} {c d e : Connection}
    {first second : List (Exchange Link)} {a : α} {b : β}
    (left : undisturbed p c = some (first, a, d))
    (right : undisturbed (f a) d = some (second, b, e)) :
    undisturbed (p.bind f) c = some (first ++ second, b, e) := by
  induction p generalizing c first with
  | done =>
    cases left
    exact right
  | ask r next ih =>
    simp only [undisturbed, Option.bind_eq_bind, Option.bind_eq_some_iff] at left
    obtain ⟨⟨answer, middle⟩, answered, ⟨log, a', d'⟩, later, same⟩ := left
    cases same
    have rest := ih answer later
    simp only [Program.bind, undisturbed, answered, rest, Option.bind_eq_bind, Option.bind_some]
    rfl

end Connection

namespace Client

open Connection

variable {k : Client} {c : Connection} {others : (r : Host.Request) → Host.Answer r}

/-- A read that takes a chunk. -/
def took (limit : Nat) (chunk : List Char) : Exchange Link :=
  ⟨.takeOutput limit, String.ofList chunk⟩

theorem takeOutput_undisturbed (k : Client) (c : Connection) (limit : Nat) :
    undisturbed ((answer (.takeOutput limit)).run k) c =
      some ([took limit (splitOutput limit c.output).1],
        (.ok (String.ofList (splitOutput limit c.output).1), k),
        { c with output := (splitOutput limit c.output).2 }) :=
  rfl

/-! ## Reading on -/

/-- Reads with some limits, one after the other. -/
def readEach (limits : List Nat) : StateT Client LinkAct (List (Except Error String)) :=
  limits.mapM fun limit => answer (.takeOutput limit)

/-- The first read, and then the others at what stays. -/
theorem readEach_cons {limit : Nat} {limits : List Nat} {front rest : List Char}
    {log : List (Exchange Link)} {results : List (Except Error String)} {d : Connection}
    (read : undisturbed ((answer (.takeOutput limit)).run k) c =
      some ([took limit front], (.ok (String.ofList front), k), { c with output := rest }))
    (reads : undisturbed ((readEach limits).run k) { c with output := rest } =
      some (log, (results, k), d)) :
    undisturbed ((readEach (limit :: limits)).run k) c =
      some (took limit front :: log, (.ok (String.ofList front) :: results, k), d) := by
  have steps : (readEach (limit :: limits)).run k =
      ((answer (.takeOutput limit)).run k).bind fun first =>
        ((readEach limits).run first.2).bind fun rest => .done (first.1 :: rest.1, rest.2) := by
    unfold readEach
    rw [List.mapM_cons]
    rfl
  have later : undisturbed (((readEach limits).run k).bind fun rest =>
      .done ((.ok (String.ofList front) : Except Error String) :: rest.1, rest.2))
        { c with output := rest } =
      some (log ++ [], (.ok (String.ofList front) :: results, k), d) :=
    undisturbed_bind reads rfl
  rw [List.append_nil] at later
  rw [steps]
  exact undisturbed_bind read later

/-- The chunks of successive reads: those with text, at most as many as it has characters, and when
it is used up only empty ones. -/
theorem readEach_undisturbed (limits : List Nat) (c : Connection) :
    ∃ log chunks rest, [] ∉ chunks ∧ chunks.length ≤ c.output.length ∧
      chunks.flatten ++ rest = c.output ∧ (chunks.length < limits.length → rest = []) ∧
      undisturbed ((readEach limits).run k) c =
        some (log, ((chunks ++ List.replicate (limits.length - chunks.length) []).map
          fun chunk => .ok (String.ofList chunk), k), { c with output := rest }) := by
  induction limits generalizing c with
  | nil => exact ⟨[], [], c.output, List.not_mem_nil, Nat.zero_le _, rfl, nofun, rfl⟩
  | cons limit limits ih =>
    have cuts := cuts_splitOutput limit c.output
    have read := takeOutput_undisturbed k c limit
    generalize (splitOutput limit c.output).1 = front at cuts read
    generalize (splitOutput limit c.output).2 = rest at cuts read
    obtain ⟨log, chunks, left, full, few, all, last, reads⟩ := ih { c with output := rest }
    have steps := readEach_cons read reads
    by_cases none : front = []
    · -- no later read takes anything
      obtain ⟨nothing, rfl⟩ := cuts.nothing none
      obtain rfl := List.length_eq_zero_iff.mp (Nat.le_zero.mp few)
      obtain rfl : left = [] := all
      refine ⟨took limit front :: log, [], [], List.not_mem_nil, Nat.zero_le _, nothing.symm,
        fun _ => rfl, ?_⟩
      rw [steps, none]
      simp [List.replicate_succ]
    · have shorter := cuts.shorter none
      refine ⟨took limit front :: log, front :: chunks, left, ?_, ?_, ?_, ?_, ?_⟩
      · exact List.not_mem_cons_of_ne_of_not_mem (Ne.symm none) full
      · exact Nat.lt_of_le_of_lt few shorter
      · rw [List.flatten_cons, List.append_assoc, all, cuts.whole]
      · intro more
        exact last (Nat.lt_of_succ_lt_succ more)
      · rw [steps]
        simp

/-! ## A drain -/

/-- One round of a drain: it ends with an empty chunk, and goes on after any other. -/
theorem collect_step {limit reads : Nat} {taken : String} {front rest : List Char}
    {log : List (Exchange Link)} {all : String} {d : Connection}
    (read : undisturbed ((answer (.takeOutput limit)).run k) c =
      some ([took limit front], (.ok (String.ofList front), k), { c with output := rest }))
    (later : undisturbed (served others
      (if String.ofList front = "" then pure taken
        else Streaming.collect limit reads (taken ++ String.ofList front)) k)
          { c with output := rest } = some (log, (all, k), d)) :
    undisturbed (served others (Streaming.collect limit (reads + 1) taken) k) c =
      some (took limit front :: log, (all, k), d) := by
  unfold Streaming.collect
  change undisturbed (served others (Program.bind (Act.debugger (.takeOutput limit)) _) k) c = _
  rw [served_bind, served_debugger]
  exact undisturbed_bind read later

/-- The chunks that a drain takes, whatever number of reads more than the captured characters it may
make: all of the text, and then an empty one. -/
theorem collect_undisturbed (others : (r : Host.Request) → Host.Answer r) (limit : Nat)
    (c : Connection) :
    ∃ chunks, [] ∉ chunks ∧ chunks.length ≤ c.output.length ∧ chunks.flatten = c.output ∧
      ∀ reads taken, c.output.length < reads →
        undisturbed (served others (Streaming.collect limit reads taken) k) c =
          some ((chunks ++ [[]]).map (took limit), (taken ++ String.ofList c.output, k),
            { c with output := [] }) := by
  induction size : c.output.length using Nat.strongRecOn generalizing c with
  | ind size_ ih =>
  subst size
  have cuts := cuts_splitOutput limit c.output
  have read := takeOutput_undisturbed k c limit
  generalize (splitOutput limit c.output).1 = front at cuts read
  generalize (splitOutput limit c.output).2 = rest at cuts read
  by_cases none : front = []
  · obtain ⟨nothing, rfl⟩ := cuts.nothing none
    refine ⟨[], List.not_mem_nil, Nat.zero_le _, nothing.symm, fun reads taken more => ?_⟩
    obtain ⟨reads, rfl⟩ := Nat.exists_eq_succ_of_ne_zero (Nat.ne_zero_of_lt more)
    subst none
    have same : taken ++ String.ofList c.output = taken := by simp [nothing]
    rw [same]
    exact collect_step read rfl
  · have shorter := cuts.shorter none
    obtain ⟨chunks, full, few, all, drains⟩ := ih rest.length shorter { c with output := rest } rfl
    refine ⟨front :: chunks, List.not_mem_cons_of_ne_of_not_mem (Ne.symm none) full,
      Nat.lt_of_le_of_lt few shorter, ?_, fun reads taken more => ?_⟩
    · rw [List.flatten_cons, all, cuts.whole]
    · obtain ⟨reads, rfl⟩ := Nat.exists_eq_succ_of_ne_zero (Nat.ne_zero_of_lt more)
      have text : taken ++ String.ofList front ++ String.ofList rest =
          taken ++ String.ofList c.output := by
        rw [← cuts.whole, String.ofList_append, String.append_assoc]
      have some_ : String.ofList front ≠ "" := by simpa using none
      refine collect_step read ?_
      rw [if_neg some_, ← text]
      exact drains reads _ (by omega)

/-- What is broadcast is no matter of the connection. -/
theorem served_broadcastOrWarn (area : Log.Area) (complaint : String) (message : Broadcast) :
    served others (Act.broadcastOrWarn area complaint message) k = .done ((), k) := by
  change served others (Program.bind (Act.broadcast message) _) k = _
  rw [served_bind]
  have sent : served others (Act.broadcast message) k =
      .done (others (.broadcast message), k) := rfl
  rw [sent]
  dsimp only [Program.bind]
  cases others (.broadcast message) with
  | ok _ => rfl
  | error e => rfl

theorem broadcastUnread_undisturbed {limit : Nat} {log : List (Exchange Link)}
    (drains : undisturbed (served others (Streaming.collect limit (c.output.length + 1) "") k) c =
      some (log, (String.ofList c.output, k), { c with output := [] })) :
    undisturbed (served others (Streaming.broadcastUnread limit) k) c =
      some (⟨.unreadOutput, c.output.length⟩ :: log, (decide (c.output ≠ []), k),
        { c with output := [] }) := by
  unfold Streaming.broadcastUnread
  change undisturbed (served others (Program.bind (Act.debugger .unreadOutput) _) k) c = _
  rw [served_bind, served_debugger, ← List.singleton_append]
  refine undisturbed_bind rfl ?_
  change undisturbed (served others (Program.bind (Streaming.collect limit _ "") _) k) c = _
  rw [served_bind, ← List.append_nil log]
  refine undisturbed_bind drains ?_
  by_cases none : c.output = []
  · rw [none]
    rfl
  · have some_ : String.ofList c.output ≠ "" := by simpa using none
    dsimp only
    rw [if_neg some_, decide_eq_true none]
    change undisturbed (served others (Program.bind (Act.broadcastOrWarn _ _ _) _) k) _ = _
    rw [served_bind, served_broadcastOrWarn]
    rfl

/-- A read takes the longest beginning of the captured text that its limit has room for, or the
first character if it has room for none, and leaves the rest; only from an empty text it takes
nothing. While nothing is captured in between, reads with any limits come to an empty chunk after at
most as many chunks as the text has characters, and these make up the text. So does a drain, however
many reads beyond that it may make: it ends with the first empty chunk, with all of the text
taken. -/
theorem takeOutput_chunked (k : Client) (c : Connection)
    (others : (r : Host.Request) → Host.Answer r) :
    (∀ limit, ∃ front rest, Cuts limit c.output front rest ∧
      undisturbed ((answer (.takeOutput limit)).run k) c =
        some ([took limit front], (.ok (String.ofList front), k), { c with output := rest })) ∧
    (∀ limits : List Nat, c.output.length < limits.length →
      ∃ log chunks, [] ∉ chunks ∧ chunks.length ≤ c.output.length ∧ chunks.flatten = c.output ∧
        undisturbed ((readEach limits).run k) c =
          some (log, ((chunks ++ List.replicate (limits.length - chunks.length) []).map
            fun chunk => .ok (String.ofList chunk), k), { c with output := [] })) ∧
    ∀ limit, ∃ chunks, [] ∉ chunks ∧ chunks.length ≤ c.output.length ∧
      chunks.flatten = c.output ∧
      (∀ reads taken, c.output.length < reads →
        undisturbed (served others (Streaming.collect limit reads taken) k) c =
          some ((chunks ++ [[]]).map (took limit), (taken ++ String.ofList c.output, k),
            { c with output := [] })) ∧
      undisturbed (served others (Streaming.broadcastUnread limit) k) c =
        some (⟨.unreadOutput, c.output.length⟩ :: (chunks ++ [[]]).map (took limit),
          (decide (c.output ≠ []), k), { c with output := [] }) := by
  refine ⟨fun limit => ?_, fun limits more => ?_, fun limit => ?_⟩
  · exact ⟨_, _, cuts_splitOutput limit c.output, takeOutput_undisturbed k c limit⟩
  · obtain ⟨log, chunks, rest, full, few, all, last, reads⟩ :=
      readEach_undisturbed (k := k) limits c
    obtain rfl := last (Nat.lt_of_le_of_lt few more)
    rw [List.append_nil] at all
    exact ⟨log, chunks, full, few, all, reads⟩
  · obtain ⟨chunks, full, few, all, drains⟩ :=
      collect_undisturbed (k := k) others limit c
    refine ⟨chunks, full, few, all, drains, ?_⟩
    have whole := drains (c.output.length + 1) "" (Nat.lt_succ_self _)
    rw [String.empty_append] at whole
    exact broadcastUnread_undisturbed whole

/-- A connection with characters of one, two, three and four bytes to take. -/
def wide : Connection :=
  { Connection.fresh with output := "aé€𝄞".toList }

example : undisturbed ((readEach [2, 0, 3, 1, 7]).run .fresh) wide =
    some ([took 2 ['a'], took 0 ['é'], took 3 ['€'], took 1 ['𝄞'], took 7 []],
      ([.ok "a", .ok "é", .ok "€", .ok "𝄞", .ok ""], .fresh), .fresh) :=
  rfl

/-- Limits that are too small for most of the characters. -/
theorem takeOutput_chunked_wide :
    (wide.output.length < [2, 0, 3, 1, 7].length ∧
      ∃ log chunks, [] ∉ chunks ∧ chunks.length ≤ 4 ∧ chunks.flatten = "aé€𝄞".toList ∧
        undisturbed ((readEach [2, 0, 3, 1, 7]).run .fresh) wide =
          some (log, ((chunks ++ List.replicate (5 - chunks.length) []).map
            fun chunk => .ok (String.ofList chunk), .fresh), .fresh)) ∧
    (wide.output.length < 9 ∧
      ∃ chunks, [] ∉ chunks ∧ chunks.length ≤ 4 ∧ chunks.flatten = "aé€𝄞".toList ∧
        undisturbed (served Host.constant (Streaming.collect 3 9 "") .fresh) wide =
          some ((chunks ++ [[]]).map (took 3), ("aé€𝄞", .fresh), .fresh)) := by
  obtain ⟨-, reads, drains⟩ := takeOutput_chunked .fresh wide Host.constant
  obtain ⟨chunks, full, few, all, collects, -⟩ := drains 3
  exact ⟨⟨by decide, reads [2, 0, 3, 1, 7] (by decide)⟩, by decide, chunks, full, few, all,
    collects 9 "" (by decide)⟩

end Client

end Dap

end NotebookKernel
