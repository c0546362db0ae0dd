import NotebookKernel.Proofs.Dap.Framing

/-!
What the reader of frames finds in a stream, said of the whole stream, and where it leaves it.

A stream is cut into lines at line feeds; the last line may have none. By its bytes a line is
blank, gives a length, gives a bad one or is of no interest (`Means`), or it is no text at all. A
header goes on over lines of no interest, over lengths, and over blank lines as long as no length was
given (`Passed`), and a blank line after a length ends it. What stands behind decides what a call
finds (`Found`), and no call finds anything else. A length that no buffer can have is found too: the
reader dies of it, however many bytes follow.

The run of the reader is an induction over the lines: a line either keeps it in the header, with the
lines before it passed and the last length known, or is where it stops.
-/

namespace NotebookKernel.Dap

namespace Frame

variable {bytes tail line rest : Bytes} {text value : List Char} {front : List Bytes}
  {length? : Option Nat} {n : Nat}

/-! ## Lines of a stream -/

/-- The first line of a stream, and what follows it. The line goes up to the first line feed, or to
the end of the stream. -/
inductive FirstLine : Bytes → Bytes → Bytes → Prop
  | fed {line : Bytes} (rest : Bytes) : 0x0A ∉ line → FirstLine (line ++ 0x0A :: rest) line rest
  | unfed {line : Bytes} : 0x0A ∉ line → line ≠ [] → FirstLine line line []

/-- Lines at the start of a stream, and what follows them. -/
inductive Lines : Bytes → List Bytes → Bytes → Prop
  | none {bytes : Bytes} : Lines bytes [] bytes
  | line {bytes line rest tail : Bytes} {front : List Bytes} :
    FirstLine bytes line rest → Lines rest front tail → Lines bytes (line :: front) tail

theorem splitLine?_of_whole (whole : 0x0A ∉ line) : splitLine? line = none := by
  rw [Option.eq_none_iff_forall_ne_some]
  intro parts split
  obtain ⟨same, -⟩ := splitLine?_eq_some split
  rw [same] at whole
  exact whole (List.mem_append_right _ List.mem_cons_self)

theorem FirstLine.whole (first : FirstLine bytes line rest) : 0x0A ∉ line := by
  cases first with
  | fed _ whole | unfed whole => exact whole

/-- A line and what follows it are the stream, and the line is not nothing. -/
theorem FirstLine.parts (first : FirstLine bytes line rest) :
    ∃ taken, taken ≠ [] ∧ bytes = taken ++ rest := by
  cases first with
  | fed => exact ⟨line ++ [0x0A], by simp, by simp⟩
  | unfed _ some_ => exact ⟨bytes, some_, (List.append_nil bytes).symm⟩

theorem FirstLine.shorter (first : FirstLine bytes line rest) : rest.length < bytes.length := by
  obtain ⟨taken, some_, parts⟩ := first.parts
  have := List.length_pos_iff.mpr some_
  rw [parts, List.length_append]
  omega

/-- Every stream that has not ended has a first line. -/
theorem exists_firstLine (some_ : bytes ≠ []) : ∃ line rest, FirstLine bytes line rest := by
  by_cases fed : 0x0A ∈ bytes
  · obtain ⟨line, rest, same, whole⟩ := List.eq_append_cons_of_mem fed
    rw [same]
    exact ⟨line, rest, .fed rest whole⟩
  · exact ⟨bytes, [], .unfed fed some_⟩

theorem Lines.snoc (lines : Lines bytes front tail) (first : FirstLine tail line rest) :
    Lines bytes (front ++ [line]) rest := by
  induction lines with
  | none => exact .line first .none
  | line head _ ih => exact .line head (ih first)

theorem Lines.parts (lines : Lines bytes front tail) : ∃ taken, bytes = taken ++ tail := by
  induction lines with
  | none => exact ⟨[], rfl⟩
  | line first _ ih =>
    obtain ⟨taken, same⟩ := ih
    obtain ⟨head, -, parts⟩ := first.parts
    exact ⟨head ++ taken, by rw [parts, same, List.append_assoc]⟩

/-! ## What a line says -/

/-- A text for a length: a numeral in the range of a machine word, between white space. -/
def Gives (value : List Char) (n : Nat) : Prop :=
  ∃ before numeral after, value = before ++ numeral ++ after ∧
    (∀ c ∈ before, Text.isBlank c = true) ∧ (∀ c ∈ after, Text.isBlank c = true) ∧
    Numeral.Denotes numeral n ∧ n < Nat.pow 2 64

/-- The name of the field and the value, before the carriage returns at the end of a line. -/
def HasLength (text value : List Char) : Prop :=
  ∃ ending, text = lengthField ++ value ++ ending ∧ (∀ c ∈ ending, c = '\r') ∧
    value.getLast? ≠ some '\r'

/-- What a line says, without its line feed. -/
inductive Means : List Char → HeaderLine → Prop
  | blank {text : List Char} : (∀ c ∈ text, c = '\r') → Means text .blank
  | length {text value : List Char} {n : Nat} :
    HasLength text value → Gives value n → Means text (.length n)
  | badLength {text value : List Char} :
    HasLength text value → (∀ n, ¬ Gives value n) → Means text (.badLength value)
  | other {text : List Char} :
    (∃ c ∈ text, c ≠ '\r') → (∀ value, ¬ HasLength text value) → Means text .other

/-- The same of the bytes of a line. -/
def Reads (line : Bytes) (said : HeaderLine) : Prop :=
  ∃ text, line = Utf8.encode text ∧ Means text said

/-- Nothing in a numeral is white space. -/
theorem not_isBlank_of_denotes {numeral : List Char} (denotes : Numeral.Denotes numeral n) :
    ∀ c ∈ numeral, Text.isBlank c = false := by
  intro c mem
  obtain plus | digit := denotes.sign_or_digit mem
  · rw [plus]
    decide
  · exact Text.not_isBlank_of_isDigit digit

theorem below?_trim_iff :
    Numeral.below? (Nat.pow 2 64) (Text.trim value) = some n ↔ Gives value n := by
  rw [Numeral.below?_eq_some_iff]
  constructor
  · intro ⟨denotes, small⟩
    obtain ⟨before, after, blank, blank', parts⟩ := Text.exists_trim value
    exact ⟨before, Text.trim value, after, parts, blank, blank', denotes, small⟩
  · intro ⟨before, numeral, after, parts, blank, blank', denotes, small⟩
    have kept := Text.trim_of_solid blank blank' (not_isBlank_of_denotes denotes)
    rw [parts, kept]
    exact ⟨denotes, small⟩

/-- Characters that end a line. -/
abbrev isEnding (c : Char) : Bool := c = '\r' ∨ c = '\n'

/-- Within a line only carriage returns end it. -/
theorem isEnding_iff {c : Char} (feedless : '\n' ∉ text) (mem : c ∈ text) :
    isEnding c = true ↔ c = '\r' := by
  have other : c ≠ '\n' := fun same => feedless (same ▸ mem)
  simp [other]

theorem dropWhileEnd_eq_nil_iff (feedless : '\n' ∉ text) :
    Text.dropWhileEnd isEnding text = [] ↔ ∀ c ∈ text, c = '\r' := by
  rw [Text.dropWhileEnd_eq_iff]
  constructor
  · intro ⟨⟨cut, all, parts⟩, _⟩ c mem
    rw [List.nil_append] at parts
    exact (isEnding_iff feedless mem).mp (all c (parts ▸ mem))
  · intro all
    exact ⟨⟨text, fun c mem => (isEnding_iff feedless mem).mpr (all c mem), rfl⟩,
      fun c last => nomatch last⟩

/-- The last character of a field and its value is that of the value, or the colon. -/
theorem last_lengthField (value : List Char) :
    (lengthField ++ value).getLast? = value.getLast? ∨
      (lengthField ++ value).getLast? = some ':' := by
  cases value with
  | nil => exact .inr (by decide)
  | cons c value => exact .inl (by simp [List.getLast?_append, List.getLast?_cons])

theorem dropWhileEnd_eq_field_iff (feedless : '\n' ∉ text) :
    Text.dropWhileEnd isEnding text = lengthField ++ value ↔ HasLength text value := by
  rw [Text.dropWhileEnd_eq_iff]
  constructor
  · intro ⟨⟨ending, all, parts⟩, last⟩
    refine ⟨ending, parts, fun c mem => ?_, fun same => ?_⟩
    · have inside : c ∈ text := by
        rw [parts]
        exact List.mem_append_right _ mem
      exact (isEnding_iff feedless inside).mp (all c mem)
    · have last' := last '\r' (by rw [List.getLast?_append, same]; rfl)
      exact absurd last' (by decide)
  · intro ⟨ending, parts, all, last⟩
    refine ⟨⟨ending, fun c mem => by simp [all c mem], parts⟩, fun c same => ?_⟩
    have inside : c ∈ text := by
      rw [parts]
      exact List.mem_append_left _ (List.mem_of_getLast? same)
    rw [Bool.eq_false_iff, Ne, isEnding_iff feedless inside]
    intro return_
    rw [return_] at same
    obtain end_ | colon := last_lengthField value
    · exact last (end_ ▸ same)
    · exact absurd (colon.symm.trans same) (by decide)

/-- Every line says one of the four. -/
theorem exists_means (text : List Char) : ∃ said, Means text said := by
  by_cases blank : ∀ c ∈ text, c = '\r'
  · exact ⟨_, .blank blank⟩
  by_cases field : ∃ value, HasLength text value
  · obtain ⟨value, field⟩ := field
    by_cases gives : ∃ n, Gives value n
    · obtain ⟨n, gives⟩ := gives
      exact ⟨_, .length field gives⟩
    · exact ⟨_, .badLength field (not_exists.mp gives)⟩
  · have solid : ∃ c ∈ text, c ≠ '\r' := by
      simpa using blank
    exact ⟨_, .other solid (not_exists.mp field)⟩

theorem headerLine_of_means (feedless : '\n' ∉ text) {said : HeaderLine}
    (means : Means text said) : headerLine text = said := by
  unfold headerLine
  dsimp only
  have named : ∀ value, lengthField ++ value ≠ [] := fun value =>
    List.append_ne_nil_of_left_ne_nil (by decide) value
  cases means with
  | blank all => rw [if_pos ((dropWhileEnd_eq_nil_iff feedless).mpr all)]
  | length field gives =>
    rw [(dropWhileEnd_eq_field_iff feedless).mpr field, if_neg (named _),
      Text.dropLead?_append]
    dsimp only
    rw [below?_trim_iff.mpr gives]
  | badLength field bad =>
    have unread : Numeral.below? (Nat.pow 2 64) (Text.trim _) = none :=
      Option.eq_none_iff_forall_ne_some.mpr fun n read => bad n (below?_trim_iff.mp read)
    rw [(dropWhileEnd_eq_field_iff feedless).mpr field, if_neg (named _),
      Text.dropLead?_append]
    dsimp only
    rw [unread]
  | other solid noField =>
    have kept : Text.dropWhileEnd isEnding text ≠ [] := by
      rw [Ne, dropWhileEnd_eq_nil_iff feedless]
      simpa using solid
    have unnamed : Text.dropLead? lengthField (Text.dropWhileEnd isEnding text) = none := by
      rw [Option.eq_none_iff_forall_ne_some]
      intro value lead
      exact noField value
        ((dropWhileEnd_eq_field_iff feedless).mp (Text.dropLead?_eq_some_iff.mp lead))
    rw [if_neg kept, unnamed]

theorem feedless_of_whole (whole : 0x0A ∉ Utf8.encode text) : '\n' ∉ text := by
  intro mem
  apply whole
  unfold Utf8.encode
  exact List.mem_flatMap.mpr ⟨'\n', mem, by decide⟩

/-- A line is no text, or it says something. -/
theorem reads_or (line : Bytes) : (∀ text, line ≠ Utf8.encode text) ∨ ∃ said, Reads line said := by
  by_cases isText : ∃ text, line = Utf8.encode text
  · obtain ⟨text, same⟩ := isText
    obtain ⟨said, means⟩ := exists_means text
    exact .inr ⟨said, text, same, means⟩
  · exact .inl (not_exists.mp isText)

theorem afterLine_of_no_text (none : ∀ text, line ≠ Utf8.encode text) (length? : Option Nat) :
    afterLine length? line = .failure (.stream .notText) := by
  unfold afterLine
  cases read : Utf8.decode line with
  | error => rfl
  | ok text => exact absurd (Utf8.decode_eq_ok_iff.mp read) (none text)

theorem afterLine_of_reads {said : HeaderLine} (length? : Option Nat) (whole : 0x0A ∉ line) :
    Reads line said → afterLine length? line =
      match said with
      | .other => .further length?
      | .length n => .further (some n)
      | .badLength text =>
        .failure (.protocol ("bad Content-Length `" ++ String.ofList text ++ "`"))
      | .blank =>
        match length? with
        | none => .further none
        | some n => .payload n := by
  intro ⟨text, same, means⟩
  subst same
  have read := headerLine_of_means (feedless_of_whole whole) means
  cases said with
  | blank => cases length? <;> simp [afterLine, Utf8.decode_encode, read]
  | _ => simp [afterLine, Utf8.decode_encode, read]

/-- At the end of a stream a line without a line feed is read like one that has it. -/
theorem header_of_firstLine {fuel : Nat} (first : FirstLine bytes line rest) :
    header true length? (fuel + 1) bytes =
      match afterLine length? line with
      | .further length? => header true length? fuel rest
      | .payload n => payload true n rest
      | .failure e => .failure e rest := by
  cases first with
  | fed rest whole => exact header_line (splitLine?_append rest whole)
  | unfed whole some_ =>
    refine Eq.trans ?_ (header_line (splitLine?_append [] whole))
    rw [header, header, splitLine?_of_whole whole, splitLine?_append [] whole]
    simp [some_]

/-! ## The header in a stream -/

/-- Lines that do not end a header, and the length that they give: lines without any, blank or not,
and if there is a length, lines behind them that are not blank. Of several lengths the last one
counts. -/
def Passed (front : List Bytes) : Option Nat → Prop
  | none => ∀ line ∈ front, Reads line .blank ∨ Reads line .other
  | some n => ∃ opening before line after, front = opening ++ (before ++ line :: after) ∧
      (∀ line ∈ opening, Reads line .blank ∨ Reads line .other) ∧
      (∀ line ∈ before, Reads line .other ∨ ∃ n, Reads line (.length n)) ∧
      Reads line (.length n) ∧ ∀ line ∈ after, Reads line .other

/-- The header at the start of a stream goes on at `tail`, and this much is known of the length. -/
def InHeader (bytes : Bytes) (length? : Option Nat) (tail : Bytes) : Prop :=
  ∃ front, Lines bytes front tail ∧ Passed front length?

/-- The header at the start of a stream is ended by a blank line, and gives the length of what
follows. -/
def HeaderEnds (bytes : Bytes) (n : Nat) (rest : Bytes) : Prop :=
  ∃ tail line, InHeader bytes (some n) tail ∧ FirstLine tail line rest ∧ Reads line .blank

/-- What a call finds at the start of a stream, and where it leaves the stream. -/
inductive Found (bytes : Bytes) : Next → Prop
  | ended {length? : Option Nat} :
    InHeader bytes length? [] → Found bytes (.failure .disconnected [])
  | notText {length? : Option Nat} {tail line rest : Bytes} :
    InHeader bytes length? tail → FirstLine tail line rest → (∀ text, line ≠ Utf8.encode text) →
      Found bytes (.failure (.stream .notText) rest)
  | badLength {length? : Option Nat} {tail line rest : Bytes} {value : List Char} :
    InHeader bytes length? tail → FirstLine tail line rest → Reads line (.badLength value) →
      Found bytes (.failure
        (.protocol ("bad Content-Length `" ++ String.ofList value ++ "`")) rest)
  | message {payload rest : Bytes} {j : Json} :
    HeaderEnds bytes payload.length (payload ++ rest) → payload.length < bufferLimit →
      Json.ofBytes? payload = some j → Found bytes (.message j rest)
  | unreadable {payload rest : Bytes} :
    HeaderEnds bytes payload.length (payload ++ rest) → payload.length < bufferLimit →
      Json.ofBytes? payload = none →
      Found bytes (.failure (.malformedJson "not a JSON value") rest)
  | cut {n : Nat} {rest : Bytes} :
    HeaderEnds bytes n rest → n < bufferLimit → rest.length < n →
      Found bytes (.failure (.stream .unexpectedEnd) [])
  | overflow {n : Nat} {rest : Bytes} :
    HeaderEnds bytes n rest → bufferLimit ≤ n → Found bytes (.overflow rest)

theorem Passed.other (passed : Passed front length?) (reads : Reads line .other) :
    Passed (front ++ [line]) length? := by
  cases length? with
  | none => exact List.forall_mem_append.mpr ⟨passed, List.forall_mem_singleton.mpr (.inr reads)⟩
  | some n =>
    obtain ⟨opening, before, last, after, same, unmeasured, measured, length, others⟩ := passed
    have others' := List.forall_mem_append.mpr ⟨others, List.forall_mem_singleton.mpr reads⟩
    exact ⟨opening, before, last, after ++ [line], by simp [same], unmeasured, measured, length,
      others'⟩

theorem Passed.blank (passed : Passed front none) (reads : Reads line .blank) :
    Passed (front ++ [line]) none :=
  List.forall_mem_append.mpr ⟨passed, List.forall_mem_singleton.mpr (.inl reads)⟩

theorem Passed.length (passed : Passed front length?) (reads : Reads line (.length n)) :
    Passed (front ++ [line]) (some n) := by
  cases length? with
  | none =>
    exact ⟨front, [], line, [], rfl, passed, List.forall_mem_nil _, reads, List.forall_mem_nil _⟩
  | some k =>
    obtain ⟨opening, before, last, after, same, unmeasured, measured, length, others⟩ := passed
    have later : ∀ line ∈ last :: after, Reads line .other ∨ ∃ n, Reads line (.length n) :=
      List.forall_mem_cons.mpr ⟨.inr ⟨k, length⟩, fun other mem => .inl (others other mem)⟩
    exact ⟨opening, before ++ last :: after, line, [], by simp [same], unmeasured,
      List.forall_mem_append.mpr ⟨measured, later⟩, reads, List.forall_mem_nil _⟩

/-! ## What a call finds -/

/-- From some bytes on the reader comes to other bytes, in the same header. -/
def Comes (length? : Option Nat) (bytes : Bytes) (later? : Option Nat) (tail : Bytes) : Prop :=
  ∀ fuel, bytes.length < fuel → ∃ fuel', tail.length < fuel' ∧
    header true length? fuel bytes = header true later? fuel' tail

theorem Comes.trans {first? second? third? : Option Nat} {middle : Bytes}
    (come : Comes first? bytes second? middle) (on : Comes second? middle third? tail) :
    Comes first? bytes third? tail := by
  intro fuel enough
  obtain ⟨fuel', enough', same⟩ := come fuel enough
  obtain ⟨fuel'', enough'', same'⟩ := on fuel' enough'
  exact ⟨fuel'', enough'', same.trans same'⟩

theorem comes_of_further {later? : Option Nat} (first : FirstLine bytes line rest)
    (further : afterLine length? line = .further later?) : Comes length? bytes later? rest := by
  intro fuel enough
  cases fuel with
  | zero => omega
  | succ fuel =>
    have shorter := first.shorter
    refine ⟨fuel, by omega, ?_⟩
    rw [header_of_firstLine first, further]

/-- Over lines of which each leads on, with what is known of the length in some set, the reader
comes to what follows them. -/
theorem Lines.comes (keeps : Option Nat → Prop) (lines : Lines bytes front tail)
    (start : keeps length?)
    (further : ∀ known? line, keeps known? → 0x0A ∉ line → line ∈ front →
      ∃ next?, keeps next? ∧ afterLine known? line = .further next?) :
    ∃ later?, keeps later? ∧ Comes length? bytes later? tail := by
  induction lines generalizing length? with
  | none => exact ⟨length?, start, fun fuel enough => ⟨fuel, enough, rfl⟩⟩
  | line first _ ih =>
    obtain ⟨next?, kept, after⟩ := further _ _ start first.whole List.mem_cons_self
    obtain ⟨later?, kept', come⟩ := ih kept fun known? line keep whole mem =>
      further known? line keep whole (List.mem_cons_of_mem _ mem)
    exact ⟨later?, kept', (comes_of_further first after).trans come⟩

theorem Lines.split {back : List Bytes} (lines : Lines bytes (front ++ back) tail) :
    ∃ middle, Lines bytes front middle ∧ Lines middle back tail := by
  induction front generalizing bytes with
  | nil => exact ⟨bytes, .none, lines⟩
  | cons line front ih =>
    cases lines with
    | line first rest =>
      obtain ⟨middle, before, after⟩ := ih rest
      exact ⟨middle, .line first before, after⟩

theorem comes_unmeasured (lines : Lines bytes front tail)
    (unmeasured : ∀ line ∈ front, Reads line .blank ∨ Reads line .other) :
    Comes none bytes none tail := by
  obtain ⟨later?, same, come⟩ := lines.comes (· = none) rfl (by
    intro known? line same whole mem
    refine ⟨none, rfl, ?_⟩
    rw [same]
    obtain blank | other := unmeasured line mem
    · exact afterLine_of_reads none whole blank
    · exact afterLine_of_reads none whole other)
  exact same ▸ come

theorem comes_measured (length? : Option Nat) (lines : Lines bytes front tail)
    (measured : ∀ line ∈ front, Reads line .other ∨ ∃ n, Reads line (.length n)) :
    ∃ later?, Comes length? bytes later? tail := by
  obtain ⟨later?, -, come⟩ := lines.comes (fun _ => True) trivial (by
    intro known? line _ whole mem
    obtain other | ⟨n, length⟩ := measured line mem
    · exact ⟨known?, trivial, afterLine_of_reads known? whole other⟩
    · exact ⟨some n, trivial, afterLine_of_reads known? whole length⟩)
  exact ⟨later?, come⟩

theorem comes_others (lines : Lines bytes front tail)
    (others : ∀ line ∈ front, Reads line .other) : Comes length? bytes length? tail := by
  obtain ⟨later?, same, come⟩ := lines.comes (· = length?) rfl (by
    intro known? line same whole mem
    exact ⟨known?, same, afterLine_of_reads known? whole (others line mem)⟩)
  exact same ▸ come

/-- The reader comes to wherever the header goes on. -/
theorem comes_of_inHeader (inHeader : InHeader bytes length? tail) :
    Comes none bytes length? tail := by
  obtain ⟨front, lines, passed⟩ := inHeader
  cases length? with
  | none => exact comes_unmeasured lines passed
  | some n =>
    obtain ⟨opening, before, line, after, same, unmeasured, measured, length, others⟩ := passed
    subst same
    obtain ⟨first, opened, lines⟩ := lines.split
    obtain ⟨second, between, lines⟩ := lines.split
    cases lines with
    | line here lines =>
      obtain ⟨known?, come⟩ := comes_measured none between measured
      have given := comes_of_further here (afterLine_of_reads known? here.whole length)
      exact (comes_unmeasured opened unmeasured).trans
        (come.trans (given.trans (comes_others lines others)))

theorem next_of_inHeader (inHeader : InHeader bytes length? tail) :
    ∃ fuel, tail.length < fuel ∧ next true bytes = header true length? fuel tail :=
  comes_of_inHeader inHeader (bytes.length + 1) (Nat.lt_succ_self _)

/-- What a line in the header leads to is what the call finds, if it ends the header. -/
theorem next_of_firstLine (inHeader : InHeader bytes length? tail)
    (first : FirstLine tail line rest) :
    ∃ fuel, rest.length < fuel ∧ next true bytes =
      match afterLine length? line with
      | .further length? => header true length? fuel rest
      | .payload n => payload true n rest
      | .failure e => .failure e rest := by
  obtain ⟨fuel, enough, same⟩ := next_of_inHeader inHeader
  have shorter := first.shorter
  cases fuel with
  | zero => omega
  | succ fuel => exact ⟨fuel, by omega, same.trans (header_of_firstLine first)⟩

theorem next_of_headerEnds (ends : HeaderEnds bytes n rest) :
    next true bytes = payload true n rest := by
  obtain ⟨tail, line, inHeader, first, blank⟩ := ends
  obtain ⟨fuel, -, same⟩ := next_of_firstLine inHeader first
  rw [same, afterLine_of_reads (some n) first.whole blank]

theorem next_of_found {found : Next} (founds : Found bytes found) : next true bytes = found := by
  cases founds with
  | ended inHeader =>
    obtain ⟨fuel, enough, same⟩ := next_of_inHeader inHeader
    rw [same]
    cases fuel <;> rfl
  | notText inHeader first none =>
    obtain ⟨fuel, -, same⟩ := next_of_firstLine inHeader first
    rw [same, afterLine_of_no_text none]
  | badLength inHeader first bad =>
    obtain ⟨fuel, -, same⟩ := next_of_firstLine inHeader first
    rw [same, afterLine_of_reads _ first.whole bad]
  | message ends fits read =>
    rw [next_of_headerEnds ends]
    exact payload_append true fits read
  | unreadable ends fits unread =>
    rw [next_of_headerEnds ends, payload, if_neg (Nat.not_le.mpr fits)]
    simp [unread]
  | cut ends fits short =>
    rw [next_of_headerEnds ends, payload, if_neg (Nat.not_le.mpr fits),
      if_neg (Nat.not_le.mpr short), if_pos rfl]
  | overflow ends beyond => rw [next_of_headerEnds ends, payload, if_pos beyond]

/-- With the payload the call is at its end, and all it took is the payload. -/
theorem found_payload (ends : HeaderEnds bytes n rest) : Found bytes (payload true n rest) := by
  unfold payload
  split
  · next beyond => exact .overflow ends beyond
  · next fits =>
    rw [Nat.not_le] at fits
    split
    · next enough =>
      have size : (rest.take n).length = n := List.length_take_of_le enough
      have whole : HeaderEnds bytes (rest.take n).length (rest.take n ++ rest.drop n) := by
        rw [size, List.take_append_drop]
        exact ends
      have fits' : (rest.take n).length < bufferLimit := size.symm ▸ fits
      cases read : Json.ofBytes? (rest.take n) with
      | some j => exact .message whole fits' read
      | none => exact .unreadable whole fits' read
    · next short =>
      rw [if_pos rfl]
      exact .cut ends fits (Nat.not_le.mp short)

/-- A line in the header that is passed leaves the reader in the header. -/
theorem found_header {fuel : Nat} (inHeader : InHeader bytes length? tail)
    (enough : tail.length < fuel) : Found bytes (header true length? fuel tail) := by
  induction fuel generalizing length? tail with
  | zero => omega
  | succ fuel ih =>
    by_cases end_ : tail = []
    · subst end_
      exact .ended inHeader
    obtain ⟨line, rest, first⟩ := exists_firstLine end_
    have shorter := first.shorter
    rw [header_of_firstLine first]
    obtain none | ⟨said, reads⟩ := reads_or line
    · rw [afterLine_of_no_text none]
      exact .notText inHeader first none
    rw [afterLine_of_reads length? first.whole reads]
    have onward : ∀ {front later?}, Lines bytes front tail → Passed (front ++ [line]) later? →
        Found bytes (header true later? fuel rest) := fun lines passed =>
      ih ⟨_, lines.snoc first, passed⟩ (by omega)
    obtain ⟨front, lines, passed⟩ := inHeader
    cases said with
    | other => exact onward lines (passed.other reads)
    | length n => exact onward lines (passed.length reads)
    | badLength value => exact .badLength ⟨front, lines, passed⟩ first reads
    | blank =>
      cases length? with
      | none => exact onward lines (passed.blank reads)
      | some n => exact found_payload ⟨tail, line, ⟨front, lines, passed⟩, first, reads⟩

theorem found_next (bytes : Bytes) : Found bytes (next true bytes) :=
  found_header ⟨[], .none, fun _ mem => nomatch mem⟩ (Nat.lt_succ_self _)

theorem found_iff {found : Next} : Found bytes found ↔ next true bytes = found :=
  ⟨next_of_found, fun same => same ▸ found_next bytes⟩

/-! ## The calls on a stream -/

/-- The part of the stream that a call leaves. -/
def Next.left : Next → Bytes
  | .message _ rest => rest
  | .failure _ rest => rest
  | .overflow rest => rest
  | .more _ => []

theorem InHeader.parts (inHeader : InHeader bytes length? tail) :
    ∃ taken, bytes = taken ++ tail := by
  obtain ⟨front, lines, -⟩ := inHeader
  exact lines.parts

theorem InHeader.parts_line (inHeader : InHeader bytes length? tail)
    (first : FirstLine tail line rest) : ∃ taken, taken ≠ [] ∧ bytes = taken ++ rest := by
  obtain ⟨front, before⟩ := inHeader.parts
  obtain ⟨head, some_, parts⟩ := first.parts
  exact ⟨front ++ head, List.append_ne_nil_of_right_ne_nil front some_, by
    rw [before, parts, List.append_assoc]⟩

theorem HeaderEnds.parts (ends : HeaderEnds bytes n rest) :
    ∃ taken, taken ≠ [] ∧ bytes = taken ++ rest := by
  obtain ⟨tail, line, inHeader, first, -⟩ := ends
  exact inHeader.parts_line first

/-- A call takes bytes from the front, at least one if there is any. -/
theorem Found.parts {found : Next} (founds : Found bytes found) :
    ∃ taken, bytes = taken ++ found.left ∧ (taken = [] → bytes = []) := by
  cases founds with
  | ended inHeader =>
    exact ⟨bytes, (List.append_nil bytes).symm, id⟩
  | notText inHeader first | badLength inHeader first =>
    obtain ⟨taken, some_, parts⟩ := inHeader.parts_line first
    exact ⟨taken, parts, fun none => absurd none some_⟩
  | @message payload rest _ ends | @unreadable payload rest ends =>
    obtain ⟨taken, some_, parts⟩ := ends.parts
    refine ⟨taken ++ payload, ?_, fun none => ?_⟩
    · rw [parts, List.append_assoc]
      rfl
    · exact absurd (List.append_eq_nil_iff.mp none).1 some_
  | cut ends =>
    exact ⟨bytes, (List.append_nil bytes).symm, id⟩
  | overflow ends =>
    obtain ⟨taken, some_, parts⟩ := ends.parts
    exact ⟨taken, parts, fun none => absurd none some_⟩

theorem Found.shorter {j : Json} (founds : Found bytes (.message j rest)) :
    rest.length < bytes.length := by
  cases founds with
  | @message payload _ _ ends =>
    obtain ⟨taken, some_, parts⟩ := ends.parts
    have := List.length_pos_iff.mpr some_
    rw [parts, List.length_append, List.length_append]
    omega

/-- The calls on a stream, each where the one before it left the stream, until one gives no message:
the messages, and what the last call finds. -/
inductive Calls : Bytes → List Json → Next → Prop
  | failure {bytes rest : Bytes} {e : Error} :
    Found bytes (.failure e rest) → Calls bytes [] (.failure e rest)
  | overflow {bytes rest : Bytes} :
    Found bytes (.overflow rest) → Calls bytes [] (.overflow rest)
  | message {bytes rest : Bytes} {j : Json} {messages : List Json} {last : Next} :
    Found bytes (.message j rest) → Calls rest messages last → Calls bytes (j :: messages) last

/-- A call on a stream that has come to its end does not wait for more. -/
theorem not_found_more {missing : Nat} : ¬ Found bytes (.more missing) := by
  intro founds
  cases founds

/-- What is complained about is a field with a bad value, never a missing one. -/
theorem not_found_missing : ¬ Found bytes (.failure (.protocol "missing Content-Length") rest) := by
  intro founds
  generalize report : "missing Content-Length" = text at founds
  cases founds with
  | badLength =>
    have first := congrArg (·.toList.head?) report
    rw [String.append_assoc] at first
    simp at first

/-- Some call gives no message, for every call takes a part of the stream. -/
theorem exists_calls (bytes : Bytes) : ∃ messages last, Calls bytes messages last := by
  induction size : bytes.length using Nat.strongRecOn generalizing bytes with
  | _ size_ ih =>
    have founds := found_next bytes
    cases found : next true bytes with
    | more missing => exact absurd (found ▸ founds) not_found_more
    | failure e rest => exact ⟨[], _, .failure (found ▸ founds)⟩
    | overflow rest => exact ⟨[], _, .overflow (found ▸ founds)⟩
    | message j rest =>
      rw [found] at founds
      obtain ⟨messages, last, calls⟩ := ih _ (size ▸ founds.shorter) rest rfl
      exact ⟨j :: messages, last, .message founds calls⟩

end Frame

namespace Connection

open Dap.Frame

/-- What the reader says of the error that ends it: nothing, if the stream has ended. -/
def farewell : Error → List Log.Record
  | .disconnected => []
  | e => [Log.error .dap ("read adapter message: " ++ e.message)]

/-- A connection after the last call of its reader, with what the reader says of it: an error ends
the reader, and of a length that no buffer has it dies. -/
def lastCall (c : Connection) : Next → Connection × List Log.Record
  | .failure e rest => ({ c with unread := rest }.hangUp, farewell e)
  | .overflow rest => ({ c with unread := rest }.die, [])
  | .message .. | .more .. => (c, [])

/-- The reader of a connection makes calls until one gives no message, and takes the messages. -/
theorem readMessages_calls {fuel : Nat} {bytes : Bytes} {messages : List Json} {last : Next}
    (calls : Calls bytes messages last) (c : Connection) (enough : bytes.length < fuel) :
    readMessages true fuel { c with unread := bytes } =
      (((c.deliverAll messages).1.lastCall last).1,
        (c.deliverAll messages).2 ++ ((c.deliverAll messages).1.lastCall last).2) := by
  induction calls generalizing c fuel with
  | @failure bytes rest e founds =>
    cases fuel with
    | zero => omega
    | succ fuel =>
      unfold readMessages
      simp only [next_of_found founds]
      cases e <;> rfl
  | overflow founds =>
    cases fuel with
    | zero => omega
    | succ fuel =>
      unfold readMessages
      simp only [next_of_found founds]
      rfl
  | @message bytes rest j messages last founds calls ih =>
    cases fuel with
    | zero => omega
    | succ fuel =>
      have shorter := founds.shorter
      have others := @ih fuel (c.deliver j).1 (by omega)
      simp [readMessages, next_of_found founds, deliver_unread, others, deliverAll]

/-- So it is with all bytes of a stream at once. -/
theorem receive_calls {bytes : Bytes} {messages : List Json} {last : Next} {c : Connection}
    (calls : Calls bytes messages last) (reading : c.reading = true) (nothing : c.unread = []) :
    c.receive bytes true =
      (((c.deliverAll messages).1.lastCall last).1,
        (c.deliverAll messages).2 ++ ((c.deliverAll messages).1.lastCall last).2) := by
  unfold receive
  rw [if_pos reading, nothing]
  exact readMessages_calls calls c (Nat.lt_succ_self _)

/-- With its last call the reader is gone. -/
theorem reading_lastCall {bytes : Bytes} {messages : List Json} {last : Next}
    (calls : Calls bytes messages last) (c : Connection) : (c.lastCall last).1.reading = false := by
  induction calls with
  | failure | overflow => rfl
  | message _ _ ih => exact ih

end Connection

namespace Frame

/-- The reader stays aligned on every stream, as long as the lengths are those of buffers. A call
finds what stands at the start of the stream (`Found`) and nothing else, in whatever pieces the
stream comes; it takes that from the front of the stream, at least one byte if there is any. The
field is never missing. Some call gives no message, and with it the reader of a connection ends,
having taken the messages of the calls before, in order: it tells those who wait, unless it died of
a length that no buffer has. -/
theorem next_aligned (bytes : Bytes) :
    (∀ found, next true bytes = found ↔ Found bytes found) ∧
      (∀ pieces, pieces.flatten = bytes →
        Found bytes ((read [] pieces).1.extend (read [] pieces).2.flatten)) ∧
      (∃ taken, bytes = taken ++ (next true bytes).left ∧ (taken = [] → bytes = [])) ∧
      (∀ left, ¬ Found bytes (.failure (.protocol "missing Content-Length") left)) ∧
      ∃ messages last, Calls bytes messages last ∧
        ∀ c : Connection, c.reading = true → c.unread = [] →
          c.receive bytes true =
            (((c.deliverAll messages).1.lastCall last).1,
              (c.deliverAll messages).2 ++ ((c.deliverAll messages).1.lastCall last).2) := by
  refine ⟨fun found => found_iff.symm, fun pieces stream => ?_, (found_next bytes).parts,
    fun left founds => not_found_missing founds, ?_⟩
  · rw [found_iff, ← stream]
    exact read_eq [] pieces
  · obtain ⟨messages, last, calls⟩ := exists_calls bytes
    exact ⟨messages, last, calls, fun c => Connection.receive_calls calls⟩

deriving instance DecidableEq for Next

/-- A frame with a bad length. -/
def spoiled : Bytes :=
  Utf8.encode "Content-Length: two\r\n\r\n\x7b\x7d".toList

/-- A blank line, a line of no interest, two lengths of which the second counts, a line of no
interest again and a blank line without a carriage return, the payload, and a spoiled frame. -/
def crooked : Bytes :=
  Utf8.encode
    "\r\nX: 1\nContent-Length: 9\r\nContent-Length:+02 \ncontent-length: 3\r\n\n\x7b\x7d".toList
    ++ spoiled

/-- The payload is read, in one piece or in two, and the line after it is complained about, which
ends the reader. -/
theorem next_aligned_crooked :
    Found crooked (.message (.obj []) spoiled) ∧
      Found spoiled (.failure (.protocol "bad Content-Length ` two`")
        (Utf8.encode "\r\n\x7b\x7d".toList)) ∧
      [crooked.take 70, crooked.drop 70].flatten = crooked ∧
      Found crooked ((read [] [crooked.take 70, crooked.drop 70]).1.extend
        (read [] [crooked.take 70, crooked.drop 70]).2.flatten) ∧
      Connection.fresh.reading = true ∧ Connection.fresh.unread = [] ∧
      (Connection.fresh.receive crooked true).1.reading = false := by
  have pieces : [crooked.take 70, crooked.drop 70].flatten = crooked := by
    simp only [List.flatten_cons, List.flatten_nil, List.append_nil, List.take_append_drop]
  obtain ⟨messages, last, calls, ends⟩ := (next_aligned crooked).2.2.2.2
  refine ⟨((next_aligned crooked).1 _).mp (by decide +kernel),
    ((next_aligned spoiled).1 _).mp (by decide +kernel), pieces,
    (next_aligned crooked).2.1 _ pieces, rfl, rfl, ?_⟩
  rw [ends Connection.fresh rfl rfl]
  exact Connection.reading_lastCall calls _

/-- The header of a payload of the largest length that can be written, and nothing behind it. -/
def boundless : Bytes :=
  Utf8.encode "Content-Length: 18446744073709551615\r\n\r\n".toList

/-- A payload that is cut short is not always found to be: of this one the reader dies and says
nothing, and requests that wait go on waiting. -/
theorem next_boundless :
    (¬ ∀ bytes n rest, HeaderEnds bytes n rest → rest.length < n →
      next true bytes = .failure (.stream .unexpectedEnd) []) ∧
      next true boundless = .overflow [] ∧
      ∀ c : Connection, c.reading = true → c.unread = [] →
        (c.receive boundless true).1.pending = c.pending := by
  have dies : next true boundless = .overflow [] := by decide +kernel
  have founds : Found boundless (.overflow []) := found_iff.mpr dies
  refine ⟨fun cut => ?_, dies, fun c reading nothing => ?_⟩
  · cases founds with
    | overflow ends beyond =>
      have short := cut boundless _ [] ends (Nat.lt_of_lt_of_le (by decide) beyond)
      rw [dies] at short
      cases short
  · rw [Connection.receive_calls (.overflow founds) reading nothing]
    rfl

end Frame

end NotebookKernel.Dap
