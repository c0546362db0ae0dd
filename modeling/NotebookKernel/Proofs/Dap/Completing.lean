import NotebookKernel.Kernel
import NotebookKernel.Proofs.Dap.Buffers
import NotebookKernel.Proofs.Text.Trim

/-!
A completion replaces the identifier before the cursor.

The kernel hands the debugger the code up to the cursor. The identifier at its end is cut off the
texts that the debugger offers, where they begin with it, and put before all of them again, and its
length gives the part of the code that a match replaces. `Client.Asking` lists what can come over
the connection, `Completes` says what the reply is, and `Client.complete_served` says that a
completion comes to one of these and to nothing else.
-/

namespace NotebookKernel

namespace Text

/-! ## Ends of texts -/

/-- The place where a text ends: the number of its last line, and the column behind it. -/
def EndsAt (text : List Char) (line column : Nat) : Prop :=
  ∃ front last, text = front ++ last ∧ '\n' ∉ last ∧ (∀ c, front.getLast? = some c → c = '\n') ∧
    line = front.count '\n' + 1 ∧ column = last.length + 1

/-- The longest end of a text with characters of one kind. -/
structure LongestEnd (p : Char → Bool) (text stem : List Char) : Prop where
  suffix : stem <:+ text
  all : ∀ c ∈ stem, p c = true
  longest : ∀ other, other <:+ text → (∀ c ∈ other, p c = true) → other.length ≤ stem.length

theorem LongestEnd.unique {p : Char → Bool} {text stem other : List Char}
    (first : LongestEnd p text stem) (second : LongestEnd p text other) : other = stem := by
  have same : other.length = stem.length :=
    Nat.le_antisymm (first.longest other second.suffix second.all)
      (second.longest stem first.suffix first.all)
  have within := List.suffix_of_suffix_length_le second.suffix first.suffix (Nat.le_of_eq same)
  exact within.eq_of_length same

theorem length_lines (text : List Char) : (lines text).length = text.count '\n' + 1 := by
  induction text with
  | nil => rfl
  | cons c text ih =>
    rw [lines]
    by_cases feed : c = '\n'
    · simp [feed, ih]
    · rw [if_neg feed, List.count_cons_of_ne feed]
      split
      · next none => exact absurd none (lines_ne_nil text)
      · next l ls same =>
        rw [same] at ih
        exact ih

end Text

namespace Dap.Client

theorem endPosition_eq_iff {text : List Char} {line column : Nat} :
    endPosition text = (line, column) ↔ Text.EndsAt text line column := by
  have computed : ∀ {line column}, Text.EndsAt text line column →
      endPosition text = (line, column) := by
    rintro _ _ ⟨front, last, rfl, oneLine, feed, rfl, rfl⟩
    rcases List.eq_nil_or_concat front with rfl | ⟨front, c, rfl⟩
    · simp [endPosition, Text.lines_of_not_mem oneLine]
    · obtain rfl : c = '\n' := feed c (by simp)
      have whole : front.concat '\n' ++ last = front ++ '\n' :: last := by simp
      rw [whole, endPosition, Text.lines_append_lineFeed, Text.lines_of_not_mem oneLine]
      simp [Text.length_lines]
  refine ⟨fun same => ?_, computed⟩
  obtain ⟨last, oneLine, parts⟩ := Text.dropWhileEnd_append_cut (· ≠ '\n') text
  obtain ⟨_, _, ends⟩ : ∃ line column, Text.EndsAt text line column := by
    refine ⟨_, _, _, last, parts, fun mem => ?_, fun c final => ?_, rfl, rfl⟩
    · simpa using oneLine _ mem
    · simpa using Text.last_of_dropWhileEnd final
  cases same.symm.trans (computed ends)
  exact ends

theorem longestEnd_identifierAtEnd (text : List Char) :
    Text.LongestEnd Text.isIdentifier text (identifierAtEnd text) where
  suffix := by
    rw [← List.reverse_prefix, identifierAtEnd, List.reverse_reverse]
    exact List.takeWhile_prefix _
  all := fun c mem =>
    List.all_eq_true.mp List.all_takeWhile c (List.mem_reverse.mp mem)
  longest := by
    intro other suffix all
    obtain ⟨front, rfl⟩ := suffix
    have whole : ∀ c ∈ other.reverse, Text.isIdentifier c = true := fun c mem =>
      all c (List.mem_reverse.mp mem)
    rw [identifierAtEnd, List.reverse_append, List.takeWhile_append_of_pos whole]
    simp

/-! ## Requests -/

/-- The body of a successful response. -/
def told? : Except Error Response → Option Json
  | .ok r => if r.success then some r.body else none
  | .error _ => none

/-- The arguments of a request for completions at the end of a text. -/
def completionArguments (text : List Char) (line column : Nat) (frame : Option Int) : Json :=
  .object ([("text", .str (String.ofList text)), ("line", .int line), ("column", .int column)] ++
    frameField frame)

/-- What can come over the connection when a text is to be completed, and the body of the answer if
all goes well. -/
inductive Asking (c : Client) (text : List Char) : List (Exchange Link) → Option Json → Prop
  | unlaunched : c.mainThread = none → Asking c text [] none
  | frameless {thread : ThreadId} {log : List (Exchange Link)}
    {responded : Except Error Response} : c.mainThread = some thread →
    Requested "stackTrace" (frameArguments thread) log responded → told? responded = none →
    Asking c text log none
  | asked {thread : ThreadId} {first second : List (Exchange Link)}
    {framed responded : Except Error Response} {frames : Json} {line column : Nat} :
    c.mainThread = some thread →
    Requested "stackTrace" (frameArguments thread) first framed → told? framed = some frames →
    Text.EndsAt text line column →
    Requested "completions" (completionArguments text line column (frameIn frames)) second
      responded →
    Asking c text (first ++ second) (told? responded)

theorem bodyOf_of_told? {responded : Except Error Response} {body : Json} (command : String)
    (told : told? responded = some body) : responded >>= bodyOf command = .ok body := by
  cases responded with
  | error e => cases told
  | ok r =>
    obtain ⟨success, same⟩ := Option.ite_none_right_eq_some.mp told
    cases same
    exact if_pos success

theorem exists_error_of_told? {responded : Except Error Response} (command : String)
    (told : told? responded = none) : ∃ e, responded >>= bodyOf command = .error e := by
  cases responded with
  | error e => exact ⟨e, rfl⟩
  | ok r =>
    have failed : ¬ r.success = true := by simpa [told?] using told
    exact ⟨_, if_neg failed⟩

/-- What the debugger offers for a text by such a body. -/
def completionOf (text : List Char) (body : Json) : Completion :=
  ⟨String.ofList (identifierAtEnd text), insertablesOf (identifierAtEnd text) body⟩

variable {c d : Client} {log : List (Exchange Link)}

theorem complete_eq {thread : ThreadId} (launched : c.mainThread = some thread)
    (text : List Char) :
    c.complete (String.ofList text) = (innermostFrame thread).bind fun
      | .error e => .done (.error e)
      | .ok frame =>
        (requestBody "completions"
          (completionArguments text (endPosition text).1 (endPosition text).2 frame)).bind
            fun body => .done (completionOf text <$> body) := by
  unfold complete
  simp only [launchedThread, launched, String.toList_ofList]
  refine congrArg (Program.bind _) (funext fun framed => ?_)
  cases framed with
  | error e => rfl
  | ok frame =>
    refine congrArg (Program.bind _) (funext fun body => ?_)
    cases body <;> rfl

theorem complete_unlaunched (launched : c.mainThread = none) (code : String) :
    c.complete code = .done (.error (.launch "target is not launched")) := by
  simp only [complete, launchedThread, launched]
  rfl

variable {text : List Char} {body : Option Json} {result : Except Error Completion}

theorem toOption_completionOf (responded : Except Error Response) :
    (completionOf text <$> (responded >>= bodyOf "completions")).toOption =
      (told? responded).map (completionOf text) := by
  cases told : told? responded with
  | none =>
    obtain ⟨e, same⟩ := exists_error_of_told? "completions" told
    rw [same]
    rfl
  | some body =>
    rw [bodyOf_of_told? "completions" told]
    rfl

/-- A client that completes a text asks in one of these ways. -/
theorem complete_asking (run : (c.complete (String.ofList text)).Gives log result) :
    ∃ body, Asking c text log body ∧ result.toOption = body.map (completionOf text) := by
  cases launched : c.mainThread with
  | none =>
    rw [complete_unlaunched launched] at run
    obtain ⟨rfl, rfl⟩ := run.of_done
    exact ⟨none, .unlaunched launched, rfl⟩
  | some thread =>
    rw [complete_eq launched] at run
    obtain ⟨first, second, outcome, rfl, framing, rest⟩ := run.of_bind
    obtain ⟨framed, requested, rfl⟩ := innermostFrame_gives_iff.mp framing
    cases told : told? framed with
    | none =>
      obtain ⟨e, same⟩ := exists_error_of_told? "stackTrace" told
      rw [same] at rest
      obtain ⟨rfl, rfl⟩ := rest.of_done
      rw [List.append_nil]
      exact ⟨none, .frameless launched requested told, rfl⟩
    | some frames =>
      rw [bodyOf_of_told? "stackTrace" told] at rest
      obtain ⟨answer, asking, rfl⟩ := Program.gives_convert_iff.mp rest
      obtain ⟨responded, requested', rfl⟩ := requestBody_gives_iff.mp asking
      exact ⟨told? responded, .asked launched requested told (endPosition_eq_iff.mp rfl) requested',
        toOption_completionOf responded⟩

/-- Each of the ways is one that it can take. -/
theorem Asking.completes (asking : Asking c text log body) :
    ∃ result, (c.complete (String.ofList text)).Gives log result ∧
      result.toOption = body.map (completionOf text) := by
  cases asking with
  | unlaunched launched =>
    rw [complete_unlaunched launched]
    exact ⟨_, .done _, rfl⟩
  | @frameless thread log framed launched requested told =>
    obtain ⟨e, same⟩ := exists_error_of_told? "stackTrace" told
    have framing := innermostFrame_gives_iff.mpr ⟨framed, requested, rfl⟩
    rw [same] at framing
    refine ⟨.error e, ?_, rfl⟩
    rw [complete_eq launched, ← List.append_nil log]
    exact framing.bind (.done _)
  | @asked thread _ _ framed responded frames _ _ launched requested told place requested' =>
    have framing := innermostFrame_gives_iff.mpr ⟨framed, requested, rfl⟩
    rw [bodyOf_of_told? "stackTrace" told] at framing
    have asking := requestBody_gives_iff.mpr ⟨responded, requested', rfl⟩
    refine ⟨_, ?_, toOption_completionOf responded⟩
    rw [complete_eq launched]
    refine framing.bind (Program.gives_convert_iff.mpr ⟨_, ?_, rfl⟩)
    rw [endPosition_eq_iff.mpr place]
    exact asking

/-! ## Replies -/

/-- The text that a target offers. -/
def offeredText? (target : Json) : Option String :=
  (target.get "text").text?.or (target.get "label").text?

/-- A text that begins with the stem is a match as it is, any other is one behind the stem. -/
def onStem (stem text : List Char) : List Char :=
  if stem <+: text then text else stem ++ text

/-- The reply to a completion for which the debugger has answered. Its matches replace the
identifier before the cursor, and are what the targets offer. -/
structure Completes (code : List Char) (cursor : Nat) (answer : Json) (reply : CompleteReply) :
    Prop where
  ends : reply.cursorEnd = cursor
  starts : reply.cursorStart ≤ reply.cursorEnd
  replaced : Text.LongestEnd Text.isIdentifier (code.take cursor)
    ((code.take reply.cursorEnd).drop reply.cursorStart)
  offered : reply.matchTexts.map String.toList =
    ((((answer.get "targets").items?.getD []).filterMap offeredText?).map fun text =>
      onStem ((code.take reply.cursorEnd).drop reply.cursorStart) text.toList).filter
        fun text => text.head? ≠ some '_'

/-- What is cut off the offered texts is what is put before them again. -/
theorem toList_insertable (stem : List Char) (text : String) :
    (String.ofList stem ++
      match Text.dropLead? stem text.toList with
      | some rest => String.ofList rest
      | none => text).toList = onStem stem text.toList := by
  rw [String.toList_append, String.toList_ofList, onStem]
  cases lead : Text.dropLead? stem text.toList with
  | some rest =>
    have parts := Text.dropLead?_eq_some_iff.mp lead
    rw [String.toList_ofList, if_pos ⟨rest, parts.symm⟩, parts]
  | none =>
    refine (if_neg ?_).symm
    rintro ⟨rest, parts⟩
    rw [Text.dropLead?_eq_some_iff.mpr parts.symm] at lead
    cases lead

theorem toList_insertables (stem : List Char) (answer : Json) :
    ((insertablesOf stem answer).map (String.ofList stem ++ ·)).map String.toList =
      (((answer.get "targets").items?.getD []).filterMap offeredText?).map
        fun text => onStem stem text.toList := by
  rw [insertablesOf, ← List.map_filterMap, List.map_map, List.map_map]
  exact List.map_congr_left fun text _ => toList_insertable stem text

theorem toList_matchTexts (completion : Completion) (cursor : Nat) :
    (CompleteReply.ofCompletion completion cursor).matchTexts.map String.toList =
      ((completion.insertables.map (completion.stem ++ ·)).map String.toList).filter
        fun text => text.head? ≠ some '_' := by
  rw [List.filter_map]
  rfl

theorem drop_identifierAtEnd (text : List Char) :
    text.drop (text.length - (identifierAtEnd text).length) = identifierAtEnd text := by
  obtain ⟨front, parts⟩ := (longestEnd_identifierAtEnd text).suffix
  have length : text.length - (identifierAtEnd text).length = front.length := by
    rw [← congrArg List.length parts, List.length_append, Nat.add_sub_cancel_right]
  rw [length, ← congrArg (List.drop front.length) parts, List.drop_left]

/-- There is no other such reply. -/
theorem Completes.unique {code : List Char} {cursor : Nat} {answer : Json}
    {reply other : CompleteReply} (within : cursor ≤ code.length)
    (first : Completes code cursor answer reply) (second : Completes code cursor answer other) :
    other = reply := by
  obtain ⟨ends, starts, replaced, offered⟩ := first
  obtain ⟨ends', starts', replaced', offered'⟩ := second
  have stem := replaced.unique replaced'
  have start : other.cursorStart = reply.cursorStart := by
    have lengths := congrArg List.length stem
    rw [ends, ends', List.length_drop, List.length_drop, List.length_take_of_le within] at lengths
    omega
  rw [stem, ← offered] at offered'
  have texts := (List.map_injective_iff.mpr fun _ _ => String.toList_inj.mp) offered'
  cases reply
  cases other
  simp_all

/-- The kernel gives it. -/
theorem completes_ofCompletion {code : List Char} {cursor : Nat} (within : cursor ≤ code.length)
    (answer : Json) : Completes code cursor answer
      (.ofCompletion (completionOf (code.take cursor) answer) cursor) := by
  have stem : (code.take cursor).drop (cursor - (String.ofList
      (identifierAtEnd (code.take cursor))).length) = identifierAtEnd (code.take cursor) := by
    have whole := drop_identifierAtEnd (code.take cursor)
    rwa [List.length_take_of_le within, ← String.length_ofList] at whole
  refine ⟨rfl, Nat.sub_le _ _, ?_, ?_⟩
  · change Text.LongestEnd _ _ ((code.take cursor).drop _)
    rw [CompleteReply.ofCompletion, completionOf, stem]
    exact longestEnd_identifierAtEnd _
  · change _ = ((((answer.get "targets").items?.getD []).filterMap offeredText?).map fun text =>
      onStem ((code.take cursor).drop _) text.toList).filter _
    rw [toList_matchTexts, CompleteReply.ofCompletion, completionOf, stem, toList_insertables]

variable {others : (r : Host.Request) → Host.Answer r}

/-- To the connection, a completion is one of the client. -/
theorem served_complete {k : Kernel} (enabled : k.completion.enabled = true) (code : String)
    (cursor : Nat) (c : Client) :
    served others (k.complete code cursor) c =
      (c.complete (String.ofList (code.toList.take cursor))).bind fun result =>
        .done (some ((result.toOption.map (CompleteReply.ofCompletion · cursor)).getD
          (.empty cursor)), c) := by
  unfold Kernel.complete
  rw [if_pos enabled]
  change served others (Program.bind (Act.withTargetLock (Act.debugger (.complete _ _))) _) c = _
  rw [served_bind, served_withTargetLock, served_debugger]
  change Program.bind (Program.bind _ _) _ = _
  rw [Program.bind_assoc]
  refine congrArg (Program.bind _) (funext fun result => ?_)
  cases result <;> rfl

/-- Every completion asks in one of the ways and gives the reply for the answer, or one without
matches if there is none, and leaves the client as it was. Whatever is answered, there is one such
completion. -/
theorem complete_served (others : (r : Host.Request) → Host.Answer r) {k : Kernel}
    (enabled : k.completion.enabled = true) {code : String} {cursor : Nat}
    (within : cursor ≤ code.toList.length) (c d : Client) (log : List (Exchange Link))
    (replied : Option CompleteReply) :
    (served others (k.complete code cursor) c).Gives log (replied, d) ↔
      d = c ∧ ∃ answer reply, Asking c (code.toList.take cursor) log answer ∧
        replied = some reply ∧
        match answer with
        | some body => Completes code.toList cursor body reply
        | none => reply = ⟨[], cursor, cursor⟩ := by
  rw [served_complete enabled, Program.gives_convert_iff]
  constructor
  · rintro ⟨result, run, same⟩
    cases same
    obtain ⟨answer, asking, offered⟩ := complete_asking run
    refine ⟨rfl, answer, _, asking, rfl, ?_⟩
    rw [offered]
    cases answer with
    | none => rfl
    | some body => exact completes_ofCompletion within body
  · rintro ⟨rfl, answer, reply, asking, rfl, fits⟩
    obtain ⟨result, run, offered⟩ := asking.completes
    refine ⟨result, run, ?_⟩
    rw [offered]
    cases answer with
    | none =>
      cases fits
      rfl
    | some body =>
      have same := fits.unique within (completes_ofCompletion within body)
      exact congrArg (fun reply => (some reply, d)) same.symm

/-- A response with a frame and with texts to complete `né`. -/
def offering : Response where
  requestSeq := 1
  success := true
  command := ""
  message := none
  body := .obj [("stackFrames", .arr [.obj [("id", .int 1000)]]),
    ("targets", .arr [.obj [("label", .str "néant")], .obj [("label", .int 1)],
      .obj [("label", .str "née"), ("text", .str "e")]])]

/-- The two characters before the cursor are replaced, the second of which takes two bytes. -/
theorem complete_served_accent :
    (served Host.constant
      (Kernel.complete { (default : Kernel) with completion := ⟨true, true⟩ } "a\nb né = 1" 6)
      ⟨.null, some ⟨1⟩, .empty⟩).Gives
        (asked "stackTrace" (frameArguments ⟨1⟩) 1 (some offering) ++
          asked "completions" (completionArguments "a\nb né".toList 2 5 (some 1000)) 2
            (some offering))
        (some ⟨["néant", "née"], 4, 6⟩, ⟨.null, some ⟨1⟩, .empty⟩) := by
  have within : 6 ≤ "a\nb né = 1".toList.length := by decide
  have place : Text.EndsAt "a\nb né".toList 2 5 := endPosition_eq_iff.mp (by decide)
  have reply : CompleteReply.ofCompletion (completionOf "a\nb né".toList offering.body) 6 =
      ⟨["néant", "née"], 4, 6⟩ := by decide +kernel
  have completes := completes_ofCompletion within offering.body
  rw [← reply]
  refine (complete_served Host.constant rfl within _ _ _ _).mpr
    ⟨rfl, some offering.body, _, ?_, rfl, completes⟩
  exact .asked rfl (.answered 1 offering) rfl place (.answered 2 offering)

end Dap.Client

end NotebookKernel
