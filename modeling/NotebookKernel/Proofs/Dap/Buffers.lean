import NotebookKernel.Cell.QueuedMessage
import NotebookKernel.Proofs.Cell.Availability
import NotebookKernel.Proofs.Dap.Handles
import NotebookKernel.Proofs.Target.Storage
import NotebookKernel.Proofs.Text.Base64
import NotebookKernel.Proofs.Text.Scalar

/-!
A buffer is read where the target shows it.

The debugger shows a byte array as two numbers in text. On their way to the request for its bytes
they are read from the text, stored as bytes, and read from these as a pointer and as a native
integer. `Dap.Client.readPart_served` says what comes of it all: the request is about the address
and the length that were shown, the length cut to the width of the target's integers.
-/

namespace NotebookKernel

/-! ## Scalars that are stored anew -/

/-- What a native integer keeps of a number: its last bits, read with a sign. -/
def NativeWidth.keeps : NativeWidth → Int → Int
  | .bits64, n => n
  | .bits32, n => n.bmod (2 ^ 32)

namespace Storage

/-- An address that was stored anew is the address. -/
theorem address_ofScalar {a : Nat} (small : a < 2 ^ 64) : (ofScalar a).address 0 = .ok a := by
  rw [address_eq_ok_iff]
  refine ⟨.inr rfl, Nat.le_of_eq (length_littleEndianBytes 8 a).symm, ?_⟩
  change Endianness.little.number ((littleEndianBytes 8 a).take 8) = a
  rw [take_littleEndianBytes (Nat.le_refl 8), number_littleEndianBytes]
  exact Nat.mod_eq_of_lt small

/-- An integer that was stored anew is what the width keeps of it. -/
theorem signed_ofScalar {n : Int} (lower : -2 ^ 63 ≤ n) (upper : n < 2 ^ 63) (width : NativeWidth) :
    (ofScalar (n % 2 ^ 64).toNat).signed 0 width = .ok (width.keeps n) := by
  have bytes : (ofScalar (n % 2 ^ 64).toNat).bytes = littleEndianBytes 8 (n % 2 ^ 64).toNat := rfl
  have less : width.bytes ≤ 8 := by cases width <;> decide
  have number : (ofScalar (n % 2 ^ 64).toNat).order.number
      ((ofScalar (n % 2 ^ 64).toNat).bytes.take width.bytes) =
        (n % 2 ^ 64).toNat % 256 ^ width.bytes := by
    rw [bytes, take_littleEndianBytes less]
    exact number_littleEndianBytes _ _
  rw [signed_eq_ok_iff]
  cases width with
  | bits64 =>
    refine ⟨Nat.le_of_eq (length_littleEndianBytes 8 _).symm, ?_, ?_, ?_⟩
    · change -(256 : Int) ^ 8 ≤ 2 * n
      omega
    · change 2 * n < (256 : Int) ^ 8
      omega
    · rw [number]
      change (256 : Int) ^ 8 ∣ n - ((n % 2 ^ 64).toNat % 256 ^ 8 : Nat)
      omega
  | bits32 =>
    have low := @Int.le_bmod n (2 ^ 32) (by decide)
    have high := @Int.bmod_lt n (2 ^ 32) (by decide)
    have same := @Int.bmod_emod n (2 ^ 32)
    refine ⟨?_, ?_, ?_, ?_⟩
    · rw [bytes, length_littleEndianBytes]
      decide
    · change -(256 : Int) ^ 4 ≤ 2 * n.bmod (2 ^ 32)
      omega
    · change 2 * n.bmod (2 ^ 32) < (256 : Int) ^ 4
      omega
    · rw [number]
      change (256 : Int) ^ 4 ∣ n.bmod (2 ^ 32) - ((n % 2 ^ 64).toNat % 256 ^ 4 : Nat)
      omega

end Storage

/-! ## Values in a response -/

namespace Dap

/-- Among the variables of a successful response the first with a name shows a word of some kind. -/
structure ShowsChild (r : Response) (name : String) (kind : List Char → Prop) : Prop where
  success : r.success = true
  shown : ∃ front child back text word,
    (r.body.get "variables").items? = some (front ++ child :: back) ∧
    (∀ other ∈ front, (other.get "name").text? ≠ some name) ∧
    (child.get "name").text? = some name ∧ (child.get "value").text? = some text ∧
    Text.ShowsWord word text.toList ∧ kind word

namespace Client

variable {c d : Client} {log more rest : List (Exchange Link)} {command name : String}
  {arguments : Json} {kind : List Char → Prop} {h : Handle} {e : KnownValue} {seq : Nat}
  {r : Response}

/-- What was heard first decides what came of the request. -/
theorem Requested.unique {result : Except Error Response}
    (requested : Requested command arguments log result)
    (heard : log ++ more = asked command arguments seq (some r) ++ rest) :
    result = .ok r ∧ log = asked command arguments seq (some r) ∧ more = rest := by
  cases requested with
  | answered seq' r' =>
    simp only [asked, List.cons_append, List.nil_append, List.cons.injEq, Exchange.mk.injEq,
      Link.Request.await.injEq] at heard
    obtain ⟨⟨-, number⟩, -, -, ⟨-, answer⟩, rfl⟩ := heard
    cases number
    cases answer
    exact ⟨rfl, rfl, rfl⟩
  | closed seq' =>
    simp [asked] at heard
  | unwritten seq' e =>
    simp [asked] at heard

/-- What is shown for a value with children is what was heard. -/
theorem Unfolds.heard {shown : Except Error (List KnownValue)} (unfolds : Unfolds e log shown)
    (inner : e.variablesReference ≠ 0)
    (heard : log ++ more = asked "variables" (childrenArguments e) seq (some r) ++ rest)
    (success : r.success) : shown = .ok (variablesOf r.body) ∧ more = rest := by
  cases unfolds with
  | leaf none => exact absurd none inner
  | node _ requested =>
    obtain ⟨rfl, rfl, rfl⟩ := requested.unique heard
    exact ⟨congrArg (Except.map variablesOf) (if_pos success), rfl⟩

/-- The member that a response shows is found, and what it shows can be looked up. -/
theorem member_heard {result : Except Error (Option Handle)} (found : c.values.find h = .ok e)
    (inner : e.variablesReference ≠ 0) (run : ((member h name).run.run c).Gives log (result, d))
    (heard : log ++ more = asked "variables" (childrenArguments e) seq (some r) ++ rest)
    (shows_ : ShowsChild r name kind) :
    more = rest ∧ d.values.find h = .ok e ∧
      ∃ ref entry word, result = .ok (some ref) ∧ d.values.find ref = .ok entry ∧
        Text.ShowsWord word entry.description.toList ∧ kind word := by
  obtain ⟨success, front, child, back, text, word, items, others, named, value, showsWord, fits⟩ :=
    shows_
  obtain ⟨shown, asking, rfl, rfl⟩ := (member_gives_iff found).mp run
  obtain ⟨rfl, rfl⟩ := asking.heard inner heard success
  have listed : variablesOf r.body =
      front.map .ofVariable ++ .ofVariable child :: back.map .ofVariable := by
    unfold variablesOf
    rw [items, Option.getD_some, List.map_append, List.map_cons]
  have place : (variablesOf r.body).findIdx? (·.name = some name) = some front.length := by
    have skipped : ∀ other ∈ front.map KnownValue.ofVariable,
        decide (other.name = some name) = false := by
      intro other mem
      obtain ⟨j, inFront, rfl⟩ := List.mem_map.mp mem
      exact decide_eq_false (others j inFront)
    have here : (KnownValue.ofVariable child).name = some name := named
    rw [listed, List.findIdx?_append, List.findIdx?_eq_none_iff.mpr skipped, List.findIdx?_cons]
    simp [here]
  have entry : (variablesOf r.body)[front.length]? = some (.ofVariable child) := by
    simp [listed]
  refine ⟨rfl, KnownValues.find_extend found _, _, _, word, ?_, KnownValues.find_slot entry, ?_,
    fits⟩
  · change Except.ok (((variablesOf r.body).findIdx? _).map _) = _
    rw [place]
    rfl
  · have description : (KnownValue.ofVariable child).description = text := by
      simp [KnownValue.ofVariable, KnownValue.ofJson, value]
    rw [description]
    exact showsWord

/-! ## The debugger at the kernel's service -/

/-- Requests to the debugger are the client's work; all others have answers of their own. -/
def serve (others : (r : Host.Request) → Host.Answer r) :
    (r : Host.Request) → StateT Client LinkAct (Host.Answer r)
  | .debugger task => answer task
  | r => pure (others r)

/-- What the kernel does, as it comes to the connection. -/
def served {α : Type} (others : (r : Host.Request) → Host.Answer r) (act : Act α) (c : Client) :
    LinkAct (α × Client) :=
  (Program.run (serve others) act).run c

section Served

variable {α β : Type} {others : (r : Host.Request) → Host.Answer r}

theorem served_bind (p : Act α) (f : α → Act β) (c : Client) :
    served others (p.bind f) c =
      (served others p c).bind fun result => served others (f result.1) result.2 := by
  induction p generalizing c with
  | done a => rfl
  | ask r next ih =>
    change ((serve others r).run c).bind (fun s => served others ((next s.1).bind f) s.2) =
      (((serve others r).run c).bind fun s => served others (next s.1) s.2).bind _
    rw [Program.bind_assoc]
    exact congrArg _ (funext fun s => ih s.1 s.2)

/-- An action either ends at its first step with an error, or goes on. -/
theorem served_gives {action : Action α} {f : α → Action β} {result : Except Error β}
    (run : (served others (action >>= f).run c).Gives log (result, d)) :
    (∃ e, (served others action.run c).Gives log (.error e, d) ∧ result = .error e) ∨
      ∃ first second a middle, log = first ++ second ∧
        (served others action.run c).Gives first (.ok a, middle) ∧
        (served others (f a).run middle).Gives second (result, d) := by
  change (served others (Program.bind action.run _) c).Gives _ _ at run
  rw [served_bind] at run
  rcases run.of_bind with ⟨first, second, ⟨outcome, middle⟩, rfl, left, right⟩
  cases outcome with
  | error e =>
    rcases right.of_done with ⟨rfl, same⟩
    cases same
    rw [List.append_nil]
    exact .inl ⟨e, left, rfl⟩
  | ok a => exact .inr ⟨first, second, a, middle, rfl, left, right⟩

/-- Steps that need nothing from the connection can be left out. -/
theorem served_next {action : Action α} {f : α → Action β} {a : α}
    (step : served others action.run c = .done (.ok a, d)) :
    served others (action >>= f).run c = served others (f a).run d := by
  change served others (Program.bind action.run _) c = _
  rw [served_bind, step]
  rfl

theorem served_liftExcept (value : Except Error α) (c : Client) :
    served others (liftExcept value : Action α).run c = .done (value, c) := by
  cases value <;> rfl

theorem served_debugger (task : Debugger.Request) (c : Client) :
    served others (Act.debugger task) c = (answer task).run c :=
  Program.bind_done _

/-- The evaluation lock is no matter of the connection. -/
theorem served_withTargetLock (act : Act α) (c : Client) :
    served others (Act.withTargetLock act) c = served others act c := by
  change served others (act.bind fun a => (Act.host .unlockTarget).bind fun _ => .done a) c = _
  rw [served_bind]
  exact Program.bind_done _

end Served

section Shown

variable {β : Type} {others : (r : Host.Request) → Host.Answer r}

/-- The member that a response shows is found for the kernel. -/
theorem served_member {f : Handle → Action β} {result : Except Error β}
    (found : c.values.find h = .ok e) (inner : e.variablesReference ≠ 0)
    (run : (served others (Session.member h name >>= f).run c).Gives
      (asked "variables" (childrenArguments e) seq (some r) ++ rest) (result, d))
    (shows_ : ShowsChild r name kind) :
    ∃ middle ref entry word, middle.values.find h = .ok e ∧ middle.values.find ref = .ok entry ∧
      Text.ShowsWord word entry.description.toList ∧ kind word ∧
        (served others (f ref).run middle).Gives rest (result, d) := by
  unfold Session.member at run
  rw [bind_assoc] at run
  generalize heard : asked "variables" (childrenArguments e) seq (some r) ++ rest = log at run
  rcases served_gives run with ⟨error, asking, -⟩ | ⟨_, _, answer, _, rfl, asking, going⟩
  all_goals
    change (served others (Act.debugger (.member h name)) c).Gives _ _ at asking
    rw [served_debugger] at asking
  · rw [← List.append_nil log] at heard
    obtain ⟨-, -, _, _, _, same, -⟩ := member_heard found inner asking heard.symm shows_
    cases same
  · obtain ⟨rfl, kept, ref, entry, word, same, shown, shows_, fits⟩ :=
      member_heard found inner asking heard.symm shows_
    cases same
    exact ⟨_, ref, entry, word, kept, shown, shows_, fits, going⟩

/-- A scalar that is shown is stored anew for the kernel. -/
theorem served_storage {n : Nat} (found : c.values.find h = .ok e)
    (scalar : Text.scalar? e.description.toList = some n) :
    served others (Session.storage h).run c = .done (.ok (.ofScalar n), c) := by
  have shown : scalarOf? e = some n := by
    rw [scalarOf?, scalar]
  change served others (Act.debugger (.storage h)) c = _
  rw [served_debugger, (Finds.of_find found).stored, shown]
  rfl

end Shown

/-! ## Buffers -/

/-- The arguments of a request for bytes. -/
def memoryArguments (address length : Nat) : Json :=
  .object [("memoryReference", .str (String.ofList (Numeral.hexadecimal address))),
    ("offset", .int 0), ("count", .int length)]

/-- What it takes to fetch a range of memory, and what comes of it: no request for a range that is
empty or has a negative length, and one request for any other. -/
structure Fetches (address : Nat) (length : Int) (log : List (Exchange Link))
    (result : Except Error Bytes) : Prop where
  empty : length = 0 → log = [] ∧ result = .ok []
  negative : length < 0 → log = [] ∧ result = .error (.negativeLength length)
  positive : 0 < length → ∃ answer,
    Requested "readMemory" (memoryArguments address length.toNat) log answer ∧
      ∀ r bytes, answer = .ok r → r.success →
        (r.body.get "data").text? = some (String.ofList (Base64.encode bytes)) →
        result =
          if bytes.length < length.toNat then
            .error (.tooFewBytes address length.toNat bytes.length)
          else .ok (bytes.take length.toNat)

/-- Whatever is answered to the one request decides the result. -/
theorem memoryAt_gives {address length : Nat} {result : Except Error Bytes}
    (run : (memoryAt address length).Gives log result) :
    ∃ answer, Requested "readMemory" (memoryArguments address length) log answer ∧
      result = answer >>= fun r => bodyOf "readMemory" r >>= bytesOf address length := by
  have steps : memoryAt address length =
      (requestBody "readMemory" (memoryArguments address length)).bind
        fun outcome => .done (outcome >>= bytesOf address length) := by
    refine congrArg (Program.bind _) (funext fun outcome => ?_)
    cases outcome <;> rfl
  rw [steps, Program.gives_convert_iff] at run
  obtain ⟨outcome, asking, rfl⟩ := run
  obtain ⟨answer, requested, rfl⟩ := requestBody_gives_iff.mp asking
  exact ⟨answer, requested, bind_assoc answer _ _⟩

theorem bytesOf_encode {address length : Nat} {body : Json} {bytes : Bytes}
    (data : (body.get "data").text? = some (String.ofList (Base64.encode bytes))) :
    bytesOf address length body =
      if bytes.length < length then .error (.tooFewBytes address length bytes.length)
      else .ok (bytes.take length) := by
  rw [bytesOf, data, Option.getD_some, String.toList_ofList, Base64.decode_encode]

theorem bytesAt_served {others : (r : Host.Request) → Host.Answer r} {address : Nat} {length : Int}
    {result : Except Error Bytes}
    (run : (served others (QueuedMessage.bytesAt address length).run c).Gives log (result, d)) :
    Fetches address length log result := by
  unfold QueuedMessage.bytesAt at run
  split at run
  · next empty =>
    obtain ⟨rfl, same⟩ := run.of_done
    cases same
    exact ⟨fun _ => ⟨rfl, rfl⟩, fun _ => by omega, fun _ => by omega⟩
  split at run
  · next negative =>
    obtain ⟨rfl, same⟩ := run.of_done
    cases same
    exact ⟨fun _ => by omega, fun _ => ⟨rfl, rfl⟩, fun _ => by omega⟩
  · next some_ sign =>
    refine ⟨fun _ => by omega, fun _ => by omega, fun _ => ?_⟩
    change (served others (Act.withTargetLock (Act.debugger (.memoryAt address length.toNat)))
      c).Gives _ _ at run
    rw [served_withTargetLock, served_debugger] at run
    obtain ⟨answer, requested, decided⟩ := memoryAt_gives (keep_gives run).2
    refine ⟨answer, requested, fun r bytes same success data => ?_⟩
    have body : bodyOf "readMemory" r = .ok r.body := if_pos success
    rw [decided, same, ← bytesOf_encode data]
    change bodyOf "readMemory" r >>= bytesOf address length.toNat = _
    rw [body]
    rfl

/-- A buffer is read at the address and the length that the debugger shows, the length as a native
integer keeps it. -/
theorem readPart_served {session : Session} {width : NativeWidth} {part : Handle}
    {others : (r : Host.Request) → Host.Answer r} {c d : Client} {e : KnownValue} {a : Nat}
    {n : Int} {seq seq' : Nat} {r r' : Response} {rest : List (Exchange Link)}
    {result : Except Error Bytes} (probed : session.nativeWidth = some width) (found : c.values.find part = .ok e)
    (inner : e.variablesReference ≠ 0) (small : a < 2 ^ 64) (lower : -2 ^ 63 ≤ n)
    (upper : n < 2 ^ 63) (position : ShowsChild r "_position" (Text.AddressText a))
    (count : ShowsChild r' "count" (Text.IntegerText n))
    (run : (served others (QueuedMessage.readPart session part).run c).Gives
      (asked "variables" (childrenArguments e) seq (some r) ++
        (asked "variables" (childrenArguments e) seq' (some r') ++ rest)) (result, d)) :
    Fetches a (width.keeps n) rest result := by
  unfold QueuedMessage.readPart at run
  obtain ⟨c, ref, entry, word, found, known, shows_, text, run⟩ :=
    served_member found inner run position
  rw [served_next (served_storage known (Text.scalar?_address small text shows_)),
    Storage.address_ofScalar small, served_next (served_liftExcept (.ok a) c)] at run
  obtain ⟨c, ref, entry, word, -, known, shows_, text, run⟩ := served_member found inner run count
  have width_ : session.probedWidth = .ok width := by
    rw [Session.probedWidth, probed]
  rw [served_next (served_storage known (Text.scalar?_signed lower upper text shows_)), width_,
    served_next (served_liftExcept (.ok width) c), Storage.signed_ofScalar lower upper,
    served_next (served_liftExcept (.ok (width.keeps n)) c)] at run
  exact bytesAt_served run

/-- A value whose parts a debugger shows under the number 7. -/
def nested : KnownValue :=
  ⟨none, "", none, 7, none, none⟩

/-- For this response everything is a buffer of two bytes at the address 0x1000, with a length that
needs more than 32 bits. -/
def twoBytes : Response where
  requestSeq := 1
  success := true
  command := ""
  message := none
  body := .obj [("variables", .arr [
      .obj [("name", .str "_position"), ("value", .str "(UnsafeRawPointer) 0x00001000")],
      .obj [("name", .str "count"), ("value", .str "4294967298")]]),
    ("data", .str "AQID")]

/-- The buffer is read, as it comes to the connection. -/
def readingTwoBytes : LinkAct (Except Error Bytes × Client) :=
  served Host.constant (QueuedMessage.readPart ⟨⟨1⟩, default, some .bits32⟩ ⟨0, 1⟩).run
    ⟨.null, none, ⟨1, [nested]⟩⟩

/-- A target of 32 bits is asked for two bytes. -/
theorem readPart_served_twoBytes :
    NativeWidth.bits32.keeps 4294967298 = 2 ∧
      ∃ d, readingTwoBytes.Gives
          (asked "variables" (childrenArguments nested) 1 (some twoBytes) ++
            (asked "variables" (childrenArguments nested) 1 (some twoBytes) ++
              asked "readMemory" (memoryArguments 0x1000 2) 1 (some twoBytes)))
          (.ok [1, 2], d) ∧
        Fetches 0x1000 (NativeWidth.bits32.keeps 4294967298)
          (asked "readMemory" (memoryArguments 0x1000 2) 1 (some twoBytes)) (.ok [1, 2]) := by
  have position : ShowsChild twoBytes "_position" (Text.AddressText 0x1000) := by
    have word : Text.ShowsWord "0x00001000".toList "(UnsafeRawPointer) 0x00001000".toList := by
      change Text.ShowsWord _ ("(UnsafeRawPointer)".toList ++ ' ' :: ("0x00001000".toList ++ []))
      refine .skip (by decide) ?solid ?unlike ?parted (.blank (by decide) (.here nofun))
      case solid =>
        exact fun c mem => Bool.eq_false_iff.mpr (List.any_eq_false.mp (by decide) c mem)
      case unlike | parted =>
        rintro c ⟨⟩
        decide
    exact ⟨rfl, [], _, _, _, _, rfl, List.forall_mem_nil _, rfl, rfl, word, .hexadecimal 4 rfl⟩
  have count : ShowsChild twoBytes "count" (Text.IntegerText 4294967298) := by
    have word : Text.ShowsWord "4294967298".toList ("4294967298".toList ++ []) := .here nofun
    refine ⟨rfl, [_], _, [], _, _, rfl, ?_, rfl, rfl, word, .natural 0 (by decide)⟩
    decide
  refine ⟨by decide, (readingTwoBytes.play (obliging twoBytes.body)).2.2, ?run,
    readPart_served rfl rfl (by decide) (by decide) (by decide) (by decide) position count ?run⟩
  exact Program.gives_play (obliging twoBytes.body) readingTwoBytes

end Client

end Dap

end NotebookKernel
