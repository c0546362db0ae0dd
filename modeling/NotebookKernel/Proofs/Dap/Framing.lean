import NotebookKernel.Proofs.Dap.Traffic
import NotebookKernel.Proofs.Json.Equality
import NotebookKernel.Proofs.Text.Scalar
import NotebookKernel.Proofs.Text.Trim
import NotebookKernel.Proofs.Text.Utf8

/-!
Messages cross a byte stream unchanged.

A frame says how many bytes its payload has, so the payload may hold anything, line feeds and the
words of a header included: `Frame.next_wrap` is the reader on a frame with other bytes behind it.
What the reader finds does not depend on bytes that arrive later (`Frame.next_append`), so it does
not matter into which pieces the stream was cut on its way (`Stream.read_eq`). The rest is an
induction over the messages: every call takes the bytes of one frame, and what is left is the
stream of the messages after it.
-/

namespace NotebookKernel.Dap

namespace Frame

/-! ## The lines of a header -/

theorem splitLine?_append {line : Bytes} (rest : Bytes) (whole : 0x0A ∉ line) :
    splitLine? (line ++ 0x0A :: rest) = some (line, rest) := by
  induction line with
  | nil => simp [splitLine?]
  | cons b line ih =>
    rw [List.mem_cons, not_or] at whole
    simp [splitLine?, Ne.symm whole.1, ih whole.2]

theorem splitLine?_eq_some {bytes line rest : Bytes}
    (split : splitLine? bytes = some (line, rest)) :
    bytes = line ++ 0x0A :: rest ∧ 0x0A ∉ line := by
  induction bytes generalizing line with
  | nil => cases split
  | cons b bytes ih =>
    unfold splitLine? at split
    by_cases feed : b = 0x0A
    · rw [if_pos feed] at split
      cases split
      simp [feed]
    · rw [if_neg feed, Option.map_eq_some_iff] at split
      rcases split with ⟨⟨front, back⟩, split, same⟩
      cases same
      rcases ih split with ⟨rfl, whole⟩
      refine ⟨rfl, ?_⟩
      rw [List.mem_cons, not_or]
      exact ⟨Ne.symm feed, whole⟩

/-- The line that gives the number of bytes, without its line feed. -/
def lengthLine (n : Nat) : List Char :=
  lengthField ++ ' ' :: (Numeral.decimal n ++ ['\r'])

theorem lineFeed_not_mem_lengthLine (n : Nat) : '\n' ∉ lengthLine n := by
  have field : '\n' ∉ lengthField := by decide
  unfold lengthLine
  simp only [List.mem_append, List.mem_cons, List.not_mem_nil, or_false]
  rintro (mem | space | mem | ending)
  · exact field mem
  · exact absurd space (by decide)
  · exact absurd (Numeral.isDigit_of_mem_decimal mem) (by decide)
  · exact absurd ending (by decide)

theorem wrap_eq (payload : Bytes) :
    wrap payload =
      Utf8.encode (lengthLine payload.length) ++ 0x0A :: ([0x0D] ++ 0x0A :: payload) := by
  have lines : lengthField ++ ' ' :: Numeral.decimal payload.length ++ ['\r', '\n', '\r', '\n'] =
      lengthLine payload.length ++ ['\n', '\r', '\n'] := by
    simp [lengthLine]
  have feeds : Utf8.encode ['\n', '\r', '\n'] = [0x0A, 0x0D, 0x0A] := by decide
  unfold wrap
  rw [lines, Utf8.encode_append, feeds]
  simp

theorem trim_decimal (n : Nat) : Text.trim (' ' :: Numeral.decimal n) = Numeral.decimal n := by
  have solid : ∀ c ∈ Numeral.decimal n, Text.isBlank c = false := fun c mem =>
    Text.not_isBlank_of_isDigit (Numeral.isDigit_of_mem_decimal mem)
  have kept : Text.trim ([' '] ++ Numeral.decimal n ++ []) = Numeral.decimal n :=
    Text.trim_of_solid (List.forall_mem_singleton.mpr (by decide)) (List.forall_mem_nil _) solid
  rwa [List.append_nil] at kept

theorem headerLine_lengthLine {n : Nat} (small : n < Nat.pow 2 64) :
    headerLine (lengthLine n) = .length n := by
  have ends : Text.dropWhileEnd (fun c => c = '\r' ∨ c = '\n') (lengthLine n) =
      lengthField ++ ' ' :: Numeral.decimal n := by
    refine Text.dropWhileEnd_eq_iff.mpr ⟨⟨['\r'], by simp, by simp [lengthLine]⟩, ?_⟩
    intro c last
    rw [← List.singleton_append, ← List.append_assoc, List.getLast?_append,
      List.getLast?_eq_some_getLast (Numeral.decimal_ne_nil n)] at last
    have mem : c ∈ Numeral.decimal n := Option.some.inj last ▸ List.getLast_mem _
    have digit := Numeral.toNat_of_isDigit (Numeral.isDigit_of_mem_decimal mem)
    have solid : c ≠ '\r' ∧ c ≠ '\n' := by
      constructor <;> intro same <;> rw [same] at digit <;> exact absurd digit (by decide)
    simp [solid]
  have nonempty : lengthField ++ ' ' :: Numeral.decimal n ≠ [] := by simp
  unfold headerLine
  simp only [ends, nonempty, if_false, Text.dropLead?_append, trim_decimal]
  rw [Numeral.below?_decimal small]

/-! ## What a line leads to -/

/-- What the reader does after a line of a header. -/
inductive AfterLine where
  /-- It reads on, with this much known of the length. -/
  | further (length? : Option Nat)
  /-- It takes a payload of `n` bytes. -/
  | payload (n : Nat)
  | failure (e : Error)

/-- What a line of a header leads to. -/
def afterLine (length? : Option Nat) (line : Bytes) : AfterLine :=
  match Utf8.decode line with
  | .error _ => .failure (.stream .notText)
  | .ok text =>
    match headerLine text with
    | .other => .further length?
    | .length n => .further (some n)
    | .badLength text =>
      .failure (.protocol ("bad Content-Length `" ++ String.ofList text ++ "`"))
    | .blank =>
      match length? with
      | none => .further none
      | some n => .payload n

/-- The reader takes one line at a time. -/
theorem header_line {ended : Bool} {length? : Option Nat} {fuel : Nat} {bytes line rest : Bytes}
    (split : splitLine? bytes = some (line, rest)) :
    header ended length? (fuel + 1) bytes =
      match afterLine length? line with
      | .further length? => header ended length? fuel rest
      | .payload n => payload ended n rest
      | .failure e => .failure e rest := by
  rw [header]
  unfold afterLine
  simp only [split]
  cases Utf8.decode line with
  | error e => rfl
  | ok text =>
    dsimp only
    cases headerLine text with
    | blank => cases length? <;> rfl
    | _ => rfl

theorem header_of_no_line {length? : Option Nat} {fuel : Nat} {bytes : Bytes}
    (split : splitLine? bytes = none) : header false length? fuel bytes = .more 1 := by
  cases fuel with
  | zero => rfl
  | succ fuel => simp [header, split]

theorem afterLine_lengthLine {n : Nat} (small : n < Nat.pow 2 64) (length? : Option Nat) :
    afterLine length? (Utf8.encode (lengthLine n)) = .further (some n) := by
  unfold afterLine
  simp only [Utf8.decode_encode, headerLine_lengthLine small]

theorem afterLine_blank (n : Nat) : afterLine (some n) [0x0D] = .payload n := by
  have text : Utf8.decode [0x0D] = .ok ['\r'] := rfl
  have blank : headerLine ['\r'] = .blank := by decide
  unfold afterLine
  simp only [text, blank]

/-! ## Frames -/

/-- A length that a buffer has is a machine word. -/
theorem small_of_lt_bufferLimit {n : Nat} (fits : n < bufferLimit) : n < Nat.pow 2 64 :=
  fits.trans (by decide)

theorem payload_append {p rest : Bytes} {message : Json} (ended : Bool)
    (fits : p.length < bufferLimit) (read : Json.ofBytes? p = some message) :
    payload ended p.length (p ++ rest) = .message message rest := by
  unfold payload
  rw [if_neg (Nat.not_le.mpr fits)]
  simp [read]

theorem wrap_length_pos (p : Bytes) : 0 < (wrap p).length := by
  rw [wrap_eq]
  simp only [List.length_append, List.length_cons]
  omega

/-- A frame with other bytes behind it: the reader takes the payload and leaves the others. -/
theorem next_wrap {p : Bytes} {message : Json} (ended : Bool) (rest : Bytes)
    (fits : p.length < bufferLimit) (read : Json.ofBytes? p = some message) :
    next ended (wrap p ++ rest) = .message message rest := by
  have line : splitLine? (wrap p ++ rest) =
      some (Utf8.encode (lengthLine p.length), [0x0D] ++ 0x0A :: (p ++ rest)) := by
    have feedless : UInt8.ofNat '\n'.toNat ∉ Utf8.encode (lengthLine p.length) :=
      Utf8.not_mem_encode (by decide) (lineFeed_not_mem_lengthLine p.length)
    rw [wrap_eq, List.append_assoc]
    exact splitLine?_append _ feedless
  have blank : splitLine? ([0x0D] ++ 0x0A :: (p ++ rest)) = some ([0x0D], p ++ rest) :=
    splitLine?_append _ (by decide)
  have some_ : (wrap p ++ rest).length ≠ 0 := by
    rw [List.length_append]
    have := wrap_length_pos p
    omega
  rcases Nat.exists_eq_succ_of_ne_zero some_ with ⟨n, long⟩
  unfold next
  rw [long, header_line line]
  simp only [afterLine_lengthLine (small_of_lt_bufferLimit fits)]
  rw [header_line blank]
  simp only [afterLine_blank]
  exact payload_append ended fits read

/-! ## Bytes that arrive later -/

/-- The same find when more bytes have arrived behind it. -/
def Next.extend (later : Bytes) : Next → Next
  | .message j rest => .message j (rest ++ later)
  | .failure e rest => .failure e (rest ++ later)
  | .overflow rest => .overflow (rest ++ later)
  | .more n => .more n

theorem payload_extend {n : Nat} {bytes : Bytes} (ended : Bool) (later : Bytes)
    (found : ∀ k, payload false n bytes ≠ .more k) :
    payload ended n (bytes ++ later) = (payload false n bytes).extend later := by
  unfold payload at found ⊢
  by_cases beyond : bufferLimit ≤ n
  · rw [if_pos beyond, if_pos beyond]
    rfl
  rw [if_neg beyond] at found ⊢
  rw [if_neg beyond]
  by_cases enough : n ≤ bytes.length
  · have still : n ≤ (bytes ++ later).length := by
      rw [List.length_append]
      omega
    rw [if_pos enough, if_pos still, List.take_append_of_le_length enough,
      List.drop_append_of_le_length enough]
    cases Json.ofBytes? (bytes.take n) <;> rfl
  · rw [if_neg enough] at found
    exact absurd rfl (found _)

theorem header_extend {length? : Option Nat} {fuel fuel' : Nat} {bytes : Bytes} (ended : Bool)
    (later : Bytes) (enough : (bytes ++ later).length < fuel')
    (found : ∀ k, header false length? fuel bytes ≠ .more k) :
    header ended length? fuel' (bytes ++ later) =
      (header false length? fuel bytes).extend later := by
  induction fuel generalizing fuel' length? bytes with
  | zero => exact absurd rfl (found 1)
  | succ fuel ih =>
    cases split : splitLine? bytes with
    | none => exact absurd (header_of_no_line split) (found 1)
    | some parts =>
      rcases parts with ⟨line, rest⟩
      rcases splitLine?_eq_some split with ⟨rfl, whole⟩
      have also : splitLine? (line ++ 0x0A :: rest ++ later) = some (line, rest ++ later) := by
        rw [List.append_assoc]
        exact splitLine?_append _ whole
      cases fuel' with
      | zero => omega
      | succ fuel' =>
        rw [header_line split] at found ⊢
        rw [header_line also]
        cases after : afterLine length? line with
        | further length? =>
          simp only [after] at found ⊢
          apply ih _ found
          simp only [List.length_append, List.length_cons] at enough ⊢
          omega
        | payload n =>
          simp only [after] at found ⊢
          exact payload_extend ended later found
        | failure e => rfl

/-- What the reader has found stays what it finds, whatever arrives later. -/
theorem next_append {bytes : Bytes} (ended : Bool) (later : Bytes)
    (found : ∀ k, next false bytes ≠ .more k) :
    next ended (bytes ++ later) = (next false bytes).extend later :=
  header_extend ended later (Nat.lt_succ_self _) found

/-! ## One call of the reader -/

/-- One call of the reader on a stream that comes in pieces: with the bytes that have arrived it
looks for a message, and for as long as there is none it waits for one more piece. It leaves the
pieces that it did not wait for. -/
def read (arrived : Bytes) : List Bytes → Next × List Bytes
  | [] => (next true arrived, [])
  | piece :: pieces =>
    match next false arrived with
    | .more _ => read (arrived ++ piece) pieces
    | found => (found, piece :: pieces)

theorem next_more_or (bytes : Bytes) :
    (∃ n, next false bytes = .more n) ∨ ∀ n, next false bytes ≠ .more n := by
  cases next false bytes with
  | more n => exact .inl ⟨n, rfl⟩
  | message | failure | overflow => exact .inr (fun n same => nomatch same)

/-- The pieces do not matter: a call finds what stands at the start of the whole stream. -/
theorem read_eq (arrived : Bytes) (pieces : List Bytes) :
    next true (arrived ++ pieces.flatten) =
      (read arrived pieces).1.extend (read arrived pieces).2.flatten := by
  induction pieces generalizing arrived with
  | nil =>
    unfold read
    cases found : next true arrived <;> simp [Next.extend, found]
  | cons piece pieces ih =>
    unfold read
    rcases next_more_or arrived with ⟨n, more⟩ | found
    · simp only [more, List.flatten_cons]
      rw [← List.append_assoc]
      exact ih (arrived ++ piece)
    · rw [next_append true _ found]
      cases here : next false arrived with
      | more n => exact absurd here (found n)
      | message | failure | overflow => rfl

theorem Next.extend_message {found : Next} {later rest : Bytes} {j : Json}
    (same : found.extend later = .message j rest) :
    ∃ front, found = .message j front ∧ front ++ later = rest := by
  cases found with
  | message k front =>
    cases same
    exact ⟨front, rfl, rfl⟩
  | failure | overflow | more => cases same

theorem Next.extend_failure {found : Next} {later rest : Bytes} {e : Error}
    (same : found.extend later = .failure e rest) :
    ∃ front, found = .failure e front ∧ front ++ later = rest := by
  cases found with
  | failure f front =>
    cases same
    exact ⟨front, rfl, rfl⟩
  | message | overflow | more => cases same

/-! ## Messages that keep their value -/

/-- The text of a message is read back as the message, and there is a buffer for it: it cannot be
written without one. -/
structure Faithful (message : Json) : Prop where
  read : Json.ofBytes? (Utf8.encode message.chars) = some message
  size : (Utf8.encode message.chars).length < bufferLimit

instance (message : Json) : Decidable (Faithful message) :=
  decidable_of_iff
    (Json.ofBytes? (Utf8.encode message.chars) = some message ∧
      (Utf8.encode message.chars).length < bufferLimit)
    ⟨fun both => ⟨both.1, both.2⟩, fun faithful => ⟨faithful.read, faithful.size⟩⟩

/-- Messages as they are written, one after the other. -/
def encodeAll (messages : List Json) : Bytes :=
  messages.flatMap encode

theorem encodeAll_cons (m : Json) (messages : List Json) :
    encodeAll (m :: messages) = encode m ++ encodeAll messages :=
  rfl

/-- Calls of the reader return some messages, in order, and then that the stream is closed. Every
call that returns a message takes the bytes of its frame and no others. -/
inductive Delivers : Bytes → List Bytes → List Json → Prop
  | closed {arrived : Bytes} {pieces : List Bytes} :
    (read arrived pieces).1 = .failure .disconnected [] → Delivers arrived pieces []
  | message {arrived rest : Bytes} {pieces later : List Bytes} {m : Json} {messages : List Json} :
    read arrived pieces = (.message m rest, later) →
      arrived ++ pieces.flatten = encode m ++ (rest ++ later.flatten) →
      Delivers rest later messages → Delivers arrived pieces (m :: messages)

variable {messages : List Json}

theorem next_encode (ended : Bool) {m : Json} (faithful : Faithful m) (rest : Bytes) :
    next ended (encode m ++ rest) = .message m rest :=
  next_wrap ended rest faithful.size faithful.read

theorem delivers {arrived : Bytes} {pieces : List Bytes} (faithful : ∀ m ∈ messages, Faithful m)
    (stream : arrived ++ pieces.flatten = encodeAll messages) :
    Delivers arrived pieces messages := by
  induction messages generalizing arrived pieces with
  | nil =>
    have whole := read_eq arrived pieces
    rw [stream] at whole
    rcases Next.extend_failure whole.symm with ⟨front, found, nothing⟩
    rw [List.append_eq_nil_iff] at nothing
    rw [nothing.1] at found
    exact .closed found
  | cons m messages ih =>
    rw [List.forall_mem_cons] at faithful
    have whole := read_eq arrived pieces
    rw [stream, encodeAll_cons, next_encode true faithful.1] at whole
    rcases Next.extend_message whole.symm with ⟨rest, found, left⟩
    have here : read arrived pieces = (.message m rest, (read arrived pieces).2) := by rw [← found]
    refine .message here ?_ (ih faithful.2 left)
    rw [stream, encodeAll_cons, left]

end Frame

/-! ## The reader of a connection -/

namespace Connection

variable {c : Connection}

/-- What a message does to a connection does not depend on the bytes after it. -/
theorem deliver_unread (c : Connection) (unread : Bytes) (message : Json) :
    { c with unread }.deliver message =
      ({ (c.deliver message).1 with unread }, (c.deliver message).2) := by
  have keep : ∀ (c : Connection) e,
      { c with unread }.keepEvent e = { c.keepEvent e with unread } := by
    intro c e
    unfold keepEvent
    split <;> rfl
  have capture : ∀ body, { c with unread }.captureOutput body =
      { c.captureOutput body with unread } := by
    intro body
    unfold captureOutput
    split <;> rfl
  unfold deliver
  cases Message.ofJson? message with
  | none => rfl
  | some parsed =>
    cases parsed with
    | reverseRequest content => rfl
    | response r =>
      simp only [deliverResponse]
      split <;> rfl
    | event e =>
      simp only [deliverEvent]
      split
      · rw [capture]
      · split
        · split
          · next n _ =>
            exact congrArg (·, []) (keep { c with debuggee := some (processNumber n) } e)
          · rw [keep]
        · split <;> rw [keep]

/-- Take some messages, one after the other. -/
def deliverAll (c : Connection) : List Json → Connection × List Log.Record
  | [] => (c, [])
  | message :: messages =>
    let (c, first) := c.deliver message
    let (c, others) := c.deliverAll messages
    (c, first ++ others)

theorem deliverAll_append (c : Connection) (front back : List Json) :
    c.deliverAll (front ++ back) =
      (((c.deliverAll front).1.deliverAll back).1,
        (c.deliverAll front).2 ++ ((c.deliverAll front).1.deliverAll back).2) := by
  induction front generalizing c with
  | nil => simp [deliverAll]
  | cons message front ih => simp [deliverAll, ih]

theorem deliverAll_unread (c : Connection) (unread : Bytes) (messages : List Json) :
    { c with unread }.deliverAll messages =
      ({ (c.deliverAll messages).1 with unread }, (c.deliverAll messages).2) := by
  induction messages generalizing c with
  | nil => rfl
  | cons message messages ih => simp [deliverAll, deliver_unread, ih]

theorem deliverAll_reading (c : Connection) (messages : List Json) :
    (c.deliverAll messages).1.reading = c.reading := by
  induction messages generalizing c with
  | nil => rfl
  | cons message messages ih => simp [deliverAll, ih, deliver_still]

/-- Bytes arrive in pieces, and then no more. -/
def receiveAll (c : Connection) : List Bytes → Connection × List Log.Record
  | [] => c.receive [] true
  | piece :: pieces =>
    let (c, first) := c.receive piece false
    let (c, others) := c.receiveAll pieces
    (c, first ++ others)

open Dap.Frame

variable {messages : List Json}

/-- With a part of a stream of frames the reader takes the messages whose frames have arrived, and
what it leaves is the start of the frames after them. -/
theorem readMessages_part (fuel : Nat) (c : Connection) {arrived later : Bytes}
    (faithful : ∀ m ∈ messages, Faithful m) (stream : arrived ++ later = encodeAll messages) :
    ∃ front back left, messages = front ++ back ∧ left ++ later = encodeAll back ∧
      readMessages false fuel { c with unread := arrived } =
        ({ (c.deliverAll front).1 with unread := left }, (c.deliverAll front).2) := by
  induction fuel generalizing c arrived messages with
  | zero => exact ⟨[], messages, arrived, rfl, stream, rfl⟩
  | succ fuel ih =>
    rcases next_more_or arrived with ⟨n, more⟩ | found
    · refine ⟨[], messages, arrived, rfl, stream, ?_⟩
      simp [readMessages, more, deliverAll]
    · have whole := next_append true later found
      rw [stream] at whole
      cases messages with
      | nil =>
        rcases List.append_eq_nil_iff.mp stream with ⟨rfl, -⟩
        exact absurd rfl (found 1)
      | cons m messages =>
        rw [List.forall_mem_cons] at faithful
        rw [encodeAll_cons, next_encode true faithful.1] at whole
        rcases Next.extend_message whole.symm with ⟨rest, found, left⟩
        rcases ih (c.deliver m).1 faithful.2 left with ⟨front, back, rest, rfl, after, read⟩
        refine ⟨m :: front, back, rest, rfl, after, ?_⟩
        simp [readMessages, found, deliver_unread, read, deliverAll]

/-- At the end of a stream of frames it takes them all. -/
theorem readMessages_all {fuel : Nat} (c : Connection) (faithful : ∀ m ∈ messages, Faithful m)
    (enough : messages.length < fuel) :
    readMessages true fuel { c with unread := encodeAll messages } =
      ({ (c.deliverAll messages).1 with unread := [] }.hangUp, (c.deliverAll messages).2) := by
  induction messages generalizing c fuel with
  | nil =>
    cases fuel with
    | zero => omega
    | succ fuel => rfl
  | cons m messages ih =>
    rw [List.forall_mem_cons] at faithful
    cases fuel with
    | zero => omega
    | succ fuel =>
      have rest := ih (c.deliver m).1 faithful.2 (Nat.lt_of_succ_lt_succ enough)
      simp [readMessages, encodeAll_cons, next_encode true faithful.1, deliver_unread, rest,
        deliverAll]

theorem length_le_encodeAll (messages : List Json) :
    messages.length ≤ (encodeAll messages).length := by
  unfold encodeAll
  induction messages with
  | nil => exact Nat.le_refl 0
  | cons m messages ih =>
    have := wrap_length_pos (Utf8.encode m.chars)
    simp only [List.flatMap_cons, List.length_append, List.length_cons, encode]
    omega

theorem receiveAll_eq {pieces : List Bytes} (reading : c.reading = true)
    (faithful : ∀ m ∈ messages, Faithful m)
    (stream : c.unread ++ pieces.flatten = encodeAll messages) :
    c.receiveAll pieces =
      ({ (c.deliverAll messages).1 with unread := [] }.hangUp, (c.deliverAll messages).2) := by
  induction pieces generalizing c messages with
  | nil =>
    rw [List.flatten_nil, List.append_nil] at stream
    unfold receiveAll receive
    rw [if_pos reading, List.append_nil, stream]
    exact readMessages_all c faithful (Nat.lt_succ_of_le (length_le_encodeAll messages))
  | cons piece pieces ih =>
    rw [List.flatten_cons, ← List.append_assoc] at stream
    rcases readMessages_part ((c.unread ++ piece).length + 1) c faithful stream with
      ⟨front, back, left, rfl, after, read⟩
    have still : (c.deliverAll front).1.reading = true := by
      rw [deliverAll_reading]
      exact reading
    have later := fun m mem => faithful m (List.mem_append_right front mem)
    have rest := ih (c := { (c.deliverAll front).1 with unread := left }) still later after
    have joined := deliverAll_append c front back
    unfold receiveAll receive
    rw [if_pos reading]
    simp only [read, rest, joined, deliverAll_unread]

end Connection

namespace Frame

/-- Messages that are written one after the other and cross the stream in any pieces are read as
they were, one with each call, and then the stream is closed; every call takes the bytes of one
frame. A connection takes from the pieces exactly these messages, in order, before its reader
ends. -/
theorem encodeAll_delivered {messages : List Json} {pieces : List Bytes}
    (faithful : ∀ m ∈ messages, Faithful m) (stream : pieces.flatten = encodeAll messages) :
    Delivers [] pieces messages ∧
      ∀ c : Connection, c.reading = true → c.unread = [] →
        c.receiveAll pieces = ((c.deliverAll messages).1.hangUp, (c.deliverAll messages).2) := by
  refine ⟨delivers faithful stream, fun c reading nothing => ?_⟩
  have whole : c.unread ++ pieces.flatten = encodeAll messages := by
    rw [nothing]
    exact stream
  have left : (c.deliverAll messages).1.unread = [] := by
    have still := Connection.deliverAll_unread c c.unread messages
    rw [← nothing]
    exact congrArg (·.1.unread) still
  have same : { (c.deliverAll messages).1 with unread := [] } = (c.deliverAll messages).1 := by
    rw [← left]
  rw [Connection.receiveAll_eq reading faithful whole, same]

/-- A message whose text has blank lines and a header in it. -/
def misleading : Json :=
  .obj [("event", .str "Content-Length: 2\r\n\r\n\n\x7b\x7d"), ("seq", .int 1)]

/-- The stream of a message with blank lines and a header in its text, one byte at a time. -/
theorem encodeAll_delivered_misleading :
    (∀ m ∈ [misleading, misleading], Faithful m) ∧
      Delivers [] ((encodeAll [misleading, misleading]).map fun b => [b])
        [misleading, misleading] := by
  have faithful : ∀ m ∈ [misleading, misleading], Faithful m := by decide +kernel
  have stream : ((encodeAll [misleading, misleading]).map fun b => [b]).flatten =
      encodeAll [misleading, misleading] := by
    rw [← List.flatMap_def, List.flatMap_singleton']
  exact ⟨faithful, (encodeAll_delivered faithful stream).1⟩

end Frame

end NotebookKernel.Dap
