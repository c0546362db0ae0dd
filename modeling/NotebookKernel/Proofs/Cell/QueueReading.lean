import NotebookKernel.Proofs.Target.Showing
import NotebookKernel.Proofs.Target.Storage

/-!
Reading the queue of messages, beside what the target holds.

What a queue holds can be said without handles and requests: `Target.message?` is the message of a
payload, and `Target.reached` are the parts that are looked at for it. `QueuedMessage.drain_decoded`
says that reading the queue through the debugger comes to that, payload by payload, whatever handles
are given out.
-/

namespace NotebookKernel

theorem filterMap_cons_toList {α β : Type} (f : α → Option β) (a : α) (rest : List α) :
    (a :: rest).filterMap f = (f a).toList ++ rest.filterMap f := by
  cases found : f a <;> simp [found]

theorem toOption_eq_some_iff {α : Type} {result : Except Error α} {a : α} :
    result.toOption = some a ↔ result = .ok a := by
  cases result <;> simp [Except.toOption]

/-! ## What the queue holds -/

namespace TargetValue

/-- The bytes that the member of a given name is stored in. -/
def stored? (part : TargetValue) (name : String) : Option Storage :=
  match part.member name with
  | .ok (some member) => member.storage.toOption
  | _ => none

/-- The address and the length that a part shows. -/
def extent? (width : NativeWidth) (part : TargetValue) : Option (Nat × Int) := do
  let position ← part.stored? "_position"
  let address ← (position.address 0).toOption
  let count ← part.stored? "count"
  let length ← (count.signed 0 width).toOption
  pure (address, length)

/-- The read of memory that a part asks for. -/
def read? (width : NativeWidth) (part : TargetValue) : Option (Nat × Nat) := do
  let (address, length) ← part.extent? width
  if 0 < length then some (address, length.toNat) else none

/-- A part holds an address in its member `_position` and an integer of the given width in its
member `count`. -/
structure Extent (width : NativeWidth) (part : TargetValue) (address : Nat) (length : Int) :
    Prop where
  position : ∃ member stored, part.member "_position" = .ok (some member) ∧
    member.storage = .ok stored ∧ stored.HoldsAddress address
  count : ∃ member stored, part.member "count" = .ok (some member) ∧
    member.storage = .ok stored ∧ stored.HoldsInteger width length

theorem stored?_eq_some_iff {part : TargetValue} {name : String} {stored : Storage} :
    part.stored? name = some stored ↔
      ∃ member, part.member name = .ok (some member) ∧ member.storage = .ok stored := by
  unfold stored?
  split
  · next member same => simp [same, toOption_eq_some_iff]
  · next other =>
    constructor
    · exact fun none => nomatch none
    · rintro ⟨member, same, -⟩
      exact absurd same (other member)

theorem extent?_eq_some_iff {width : NativeWidth} {part : TargetValue} {address : Nat}
    {length : Int} :
    part.extent? width = some (address, length) ↔ part.Extent width address length := by
  simp only [extent?, Option.bind_eq_bind, Option.bind_eq_some_iff, stored?_eq_some_iff,
    toOption_eq_some_iff, Storage.address_eq_ok_iff, Storage.signed_eq_ok_iff]
  constructor
  · rintro ⟨position, ⟨p, asked, stored⟩, a, pointer, count, ⟨c, askedCount, storedCount⟩, n,
      number, same⟩
    cases same
    exact ⟨⟨p, position, asked, stored, pointer⟩, ⟨c, count, askedCount, storedCount, number⟩⟩
  · rintro ⟨⟨p, position, asked, stored, pointer⟩, ⟨c, count, askedCount, storedCount, number⟩⟩
    exact ⟨position, ⟨p, asked, stored⟩, address, pointer, count, ⟨c, askedCount, storedCount⟩,
      length, number, rfl⟩

theorem read?_eq_some_iff {width : NativeWidth} {part : TargetValue} {address n : Nat} :
    part.read? width = some (address, n) ↔
      ∃ length, part.Extent width address length ∧ 0 < length ∧ n = length.toNat := by
  simp only [read?, Option.bind_eq_bind, Option.bind_eq_some_iff, Prod.exists,
    extent?_eq_some_iff, Option.ite_none_right_eq_some]
  constructor
  · rintro ⟨_, length, extent, positive, same⟩
    cases same
    exact ⟨length, extent, positive, rfl⟩
  · rintro ⟨length, extent, positive, rfl⟩
    exact ⟨address, length, extent, positive, rfl⟩

end TargetValue

namespace Target

variable (target : Target) (width : NativeWidth)

/-- The bytes at an address. Nothing is read where there are none. -/
def bytes? (address : Nat) (length : Int) : Option Bytes :=
  if length = 0 then some []
  else if length < 0 then none
  else (target.memory address length.toNat).toOption

/-- The bytes of a part. -/
def part? (part : TargetValue) : Option Bytes := do
  let (address, length) ← part.extent? width
  target.bytes? address length

/-- The message of a payload, if all its parts can be read. -/
def message? (payload : TargetValue) : Option QueuedMessage := do
  let parts ← payload.children.toOption
  parts.mapM (target.part? width)

/-- Of some parts those up to the first that cannot be read, which is among them. -/
def reached (parts : List TargetValue) : List TargetValue :=
  let readable (part : TargetValue) : Bool := (target.part? width part).isSome
  parts.takeWhile readable ++ (parts.dropWhile readable).head?.toList

/-- The reads of memory for the message of a payload: those of the parts that are reached. -/
def reads (payload : TargetValue) : List (Nat × Nat) :=
  match payload.children with
  | .error _ => []
  | .ok parts => (target.reached width parts).filterMap (·.read? width)

/-- The payloads of the queue, if the target gives a value that can be described and has children.
-/
def payloads : List TargetValue :=
  match target.yield with
  | .ok (.value queue) =>
    match queue.view, queue.children with
    | .ok _, .ok payloads => payloads
    | _, _ => []
  | _ => []

/-- The bytes of a part that can be read: none if its length is zero, else what memory holds at its
address. -/
inductive Decodes (part : TargetValue) : Bytes → Prop
  | empty (address : Nat) : part.Extent width address 0 → Decodes part []
  | read (address : Nat) (length : Int) (bytes : Bytes) : part.Extent width address length →
    0 < length → target.memory address length.toNat = .ok bytes → Decodes part bytes

theorem reached_cons (part : TargetValue) (rest : List TargetValue) :
    target.reached width (part :: rest) =
      part :: (target.part? width part).elim [] fun _ => target.reached width rest := by
  unfold reached
  cases readable : target.part? width part <;> simp [readable]

theorem bytes?_eq_some_iff {address : Nat} {length : Int} {bytes : Bytes} :
    target.bytes? address length = some bytes ↔
      length = 0 ∧ bytes = [] ∨ 0 < length ∧ target.memory address length.toNat = .ok bytes := by
  unfold bytes?
  split_ifs with zero negative
  · simp [zero, eq_comm]
  · have positive : ¬ 0 < length := by omega
    simp [zero, positive]
  · have positive : 0 < length := by omega
    simp [zero, positive, toOption_eq_some_iff]

theorem part?_eq_some_iff {part : TargetValue} {bytes : Bytes} :
    target.part? width part = some bytes ↔ target.Decodes width part bytes := by
  simp only [part?, Option.bind_eq_bind, Option.bind_eq_some_iff, Prod.exists,
    TargetValue.extent?_eq_some_iff, bytes?_eq_some_iff]
  constructor
  · rintro ⟨address, length, extent, ⟨rfl, rfl⟩ | ⟨positive, read⟩⟩
    · exact .empty address extent
    · exact .read address length bytes extent positive read
  · rintro (⟨address, extent⟩ | ⟨address, length, _, extent, positive, read⟩)
    · exact ⟨address, 0, extent, .inl ⟨rfl, rfl⟩⟩
    · exact ⟨address, length, extent, .inr ⟨positive, read⟩⟩

/-- A payload has a message if it has parts and each of them can be read. -/
theorem message?_eq_some_iff {payload : TargetValue} {message : QueuedMessage} :
    target.message? width payload = some message ↔
      ∃ parts, payload.children = .ok parts ∧
        List.Forall₂ (target.Decodes width) parts message := by
  have all : ∀ (parts : List TargetValue) (message : QueuedMessage),
      parts.mapM (target.part? width) = some message ↔
        List.Forall₂ (target.Decodes width) parts message := by
    intro parts
    induction parts with
    | nil => exact fun message => by cases message <;> simp
    | cons part rest ih =>
      intro message
      simp only [List.mapM_cons, Option.bind_eq_bind, Option.bind_eq_some_iff, part?_eq_some_iff,
        ih]
      constructor
      · rintro ⟨bytes, decodes, others, later, same⟩
        cases same
        exact .cons decodes later
      · rintro (_ | ⟨decodes, later⟩)
        exact ⟨_, decodes, _, later, rfl⟩
  simp only [message?, Option.bind_eq_bind, Option.bind_eq_some_iff, toOption_eq_some_iff, all]

end Target

/-! ## Reading it -/

/-- The bytes that a member is stored in. -/
def Session.stored (value : Handle) (name : String) : Action Storage := do
  Session.storage (← Session.member value name)

/-- The address and the length that a part shows. -/
def QueuedMessage.extent (session : Session) (part : Handle) : Action (Nat × Int) := do
  let position ← Session.stored part "_position"
  let address ← (liftExcept (position.address 0) : Action Nat)
  let count ← Session.stored part "count"
  let width ← (liftExcept session.probedWidth : Action NativeWidth)
  let length ← (liftExcept (count.signed 0 width) : Action Int)
  pure (address, length)

theorem QueuedMessage.readPart_eq (session : Session) (part : Handle) :
    readPart session part = extent session part >>= fun shown => bytesAt shown.1 shown.2 := by
  simp only [readPart, extent, Session.stored, bind_assoc, pure_bind]

namespace Target

variable {target : Target} {width : NativeWidth} {s : Showing}

theorem fetches_stored {part : Handle} {value : TargetValue} (known : s.at? part = some value)
    (name : String) :
    target.Fetches s (Session.stored part name) [] (value.stored? name) := by
  refine Explores.ask (Showing.isSome_at? known) fun answer t answers => ?_
  obtain ⟨grown, answers⟩ := answers.of_member known
  refine ⟨grown, ?_⟩
  unfold TargetValue.stored?
  cases member : value.member name with
  | error e =>
    rw [member] at answers
    subst answers
    exact Explores.done ⟨rfl, rfl⟩
  | ok found =>
    rw [member] at answers
    cases found with
    | none =>
      subst answers
      exact Explores.done ⟨rfl, rfl⟩
    | some found =>
      obtain ⟨handle, rfl, given⟩ := answers
      refine Explores.ask (Showing.isSome_at? given) fun answer u answers => ?_
      obtain ⟨rfl, rfl⟩ := answers.of_storage given
      exact ⟨.refl _, Explores.done ⟨rfl, rfl⟩⟩

/-- What stands at an address is read at once, and only if it is something. -/
theorem fetches_bytesAt (address : Nat) (length : Int) :
    target.Fetches s (QueuedMessage.bytesAt address length)
      (if 0 < length then [(address, length.toNat)] else []) (target.bytes? address length) := by
  unfold QueuedMessage.bytesAt bytes?
  rcases Int.lt_trichotomy length 0 with negative | rfl | positive
  · have some : ¬ length = 0 := by omega
    have nothing : ¬ 0 < length := by omega
    simp only [if_neg some, if_pos negative, if_neg nothing]
    exact Explores.done (a := Except.error _) ⟨rfl, rfl⟩
  · exact Explores.done (a := Except.ok []) ⟨rfl, rfl⟩
  · have some : ¬ length = 0 := by omega
    have fine : ¬ length < 0 := by omega
    simp only [if_neg some, if_neg fine, if_pos positive]
    refine Explores.ask (r := .lockTarget) trivial fun _ t same => ?_
    obtain rfl : t = s := same
    refine ⟨.refl _, Explores.ask (r := .debugger (.memoryAt _ _)) trivial
      fun answer t answers => ?_⟩
    obtain ⟨rfl, rfl⟩ := answers
    refine ⟨.refl _, Explores.ask (r := .unlockTarget) trivial fun _ t same => ?_⟩
    obtain rfl : t = _ := same
    exact ⟨.refl _, Explores.done ⟨rfl, rfl⟩⟩

variable {session : Session}

theorem fetches_extent (probed : session.nativeWidth = some width) {part : Handle}
    {value : TargetValue} (known : s.at? part = some value) :
    target.Fetches s (QueuedMessage.extent session part) [] (value.extent? width) := by
  have native : (liftExcept session.probedWidth : Action NativeWidth) = pure width := by
    rw [Session.probedWidth, probed]
    rfl
  simp only [QueuedMessage.extent, native, pure_bind]
  refine Fetches.look (fetches_stored known "_position") fun position t grown => ?_
  refine Fetches.look Fetches.lift fun address u grown' => ?_
  have known := (grown.trans grown').at? known
  refine Fetches.look (fetches_stored known "count") fun count _ _ => ?_
  exact Fetches.look Fetches.lift fun length _ _ => Explores.done (a := Except.ok _) ⟨rfl, rfl⟩

theorem fetches_readPart (probed : session.nativeWidth = some width) {part : Handle}
    {value : TargetValue} (known : s.at? part = some value) :
    target.Fetches s (QueuedMessage.readPart session part) (value.read? width).toList
      (target.part? width value) := by
  rw [QueuedMessage.readPart_eq]
  have extent : target.Fetches s (QueuedMessage.extent session part) [] (value.extent? width) :=
    fetches_extent probed known
  have fetched := extent.bind fun shown _ _ _ => fetches_bytesAt shown.1 shown.2
  have reads : (value.read? width).toList = (value.extent? width).elim [] fun shown =>
      if 0 < shown.2 then [(shown.1, shown.2.toNat)] else [] := by
    rw [TargetValue.read?]
    cases value.extent? width with
    | none => rfl
    | some shown => exact apply_ite Option.toList _ _ _
  rw [reads]
  exact fetched

theorem fetches_readParts (probed : session.nativeWidth = some width) {handles : List Handle}
    {parts : List TargetValue} (shown : s.Shows handles parts) :
    target.Fetches s (QueuedMessage.readParts session handles)
      ((target.reached width parts).filterMap (·.read? width))
      (parts.mapM (target.part? width)) := by
  induction parts generalizing handles s with
  | nil =>
    cases shown
    exact Explores.done (a := Except.ok []) ⟨rfl, rfl⟩
  | cons part rest ih =>
    cases shown with
    | cons known others =>
      have fetched := (fetches_readPart probed known).bind fun bytes t grown _ =>
        (ih (grown.shows others)).map (f := List.cons bytes)
      have reads : (target.reached width (part :: rest)).filterMap (·.read? width) =
          (part.read? width).toList ++ (target.part? width part).elim [] fun _ =>
            (target.reached width rest).filterMap (·.read? width) := by
        rw [reached_cons, filterMap_cons_toList]
        cases target.part? width part <;> rfl
      rw [reads, List.mapM_cons]
      simp only [Option.map_eq_bind] at fetched
      exact fetched

theorem fetches_read (probed : session.nativeWidth = some width) {handle : Handle}
    {payload : TargetValue} (known : s.at? handle = some payload) :
    target.Fetches s (QueuedMessage.read session handle) (target.reads width payload)
      (target.message? width payload) := by
  refine Explores.ask (Showing.isSome_at? known) fun answer t answers => ?_
  obtain ⟨grown, answers⟩ := answers.of_children known
  refine ⟨grown, ?_⟩
  unfold reads message?
  cases children : payload.children with
  | error e =>
    rw [children] at answers
    subst answers
    exact Explores.done (a := Except.error e) ⟨rfl, rfl⟩
  | ok parts =>
    rw [children] at answers
    obtain ⟨handles, rfl, shown⟩ := answers
    exact fetches_readParts probed shown

/-- Payloads are read one after the other, and none is skipped for the failure of another. -/
theorem explores_readAll (probed : session.nativeWidth = some width) {handles : List Handle}
    {payloads : List TargetValue} (shown : s.Shows handles payloads) :
    target.Explores s (QueuedMessage.readAll session handles) fun reads _ messages =>
      reads = payloads.flatMap (target.reads width) ∧
        messages = payloads.filterMap (target.message? width) := by
  induction payloads generalizing handles s with
  | nil =>
    cases shown
    exact Explores.done ⟨rfl, rfl⟩
  | cons payload rest ih =>
    cases shown with
    | cons known others =>
      refine Explores.bind (fetches_read probed known) ?_
      rintro _ t result ⟨rfl, value⟩ grown
      have later := ih (grown.shows others)
      cases result with
      | error e =>
        have none : target.message? width payload = none := value.symm
        refine Explores.ask (r := .log _) trivial fun _ u same => ?_
        obtain rfl : u = t := same
        refine ⟨.refl _, later.imp ?_⟩
        rintro _ _ _ ⟨rfl, rfl⟩
        simp [none, Host.Request.memory?]
      | ok message =>
        have some : target.message? width payload = some message := value.symm
        refine Explores.bind later ?_
        rintro _ u others ⟨rfl, rfl⟩ _
        refine Explores.done ⟨?_, ?_⟩
        · simp
        · simp [some]

theorem explores_readQueue (probed : session.nativeWidth = some width) {handle : Handle}
    {queue : TargetValue} (known : s.at? handle = some queue) :
    target.Explores s (QueuedMessage.readQueue session handle) fun reads _ messages =>
      reads = (queue.children.toOption.getD []).flatMap (target.reads width) ∧
        messages = (queue.children.toOption.getD []).filterMap (target.message? width) := by
  refine Explores.ask (Showing.isSome_at? known) fun answer t answers => ?_
  obtain ⟨grown, answers⟩ := answers.of_children known
  refine ⟨grown, ?_⟩
  cases children : queue.children with
  | error e =>
    rw [children] at answers
    subst answers
    refine Explores.ask (r := .log _) trivial fun _ u same => ?_
    obtain rfl : u = t := same
    exact ⟨.refl _, Explores.done ⟨rfl, rfl⟩⟩
  | ok payloads =>
    rw [children] at answers
    obtain ⟨handles, rfl, shown⟩ := answers
    exact explores_readAll probed shown

/-- An evaluation gives out a handle on what comes of it. -/
theorem Runs.of_evaluate {t : Showing} {code : String} {log : List (Showing × Exchange Host)}
    {result : Except Error Evaluation}
    (run : target.Runs s (session.evaluate code).run log t result) :
    (memoryReads log = [] ∧ Known log) ∧
      match target.yield with
      | .error e => result = .error e
      | .ok .nothing => result = .ok .valueless
      | .ok (.value v) => ∃ h, result = .ok (.value h) ∧ t.at? h = some v
      | .ok (.failed v) => ∃ h, result = .ok (.failed h) ∧ t.at? h = some v := by
  obtain ⟨_, _, _, rfl, same, locked⟩ := run.of_ask
  obtain rfl := same
  obtain ⟨_, _, _, rfl, same, busy⟩ := locked.of_ask
  obtain rfl := same
  obtain ⟨answer, given, _, rfl, ⟨-, answers⟩, evaluated⟩ := busy.of_ask
  obtain ⟨_, _, _, rfl, same, idle⟩ := evaluated.of_ask
  obtain rfl := same
  obtain ⟨_, _, _, rfl, same, unlocked⟩ := idle.of_ask
  obtain rfl := same
  obtain ⟨rfl, rfl, rfl⟩ := unlocked.of_done
  exact ⟨⟨rfl, .cons trivial (.cons trivial (.cons trivial (.cons trivial (.cons trivial .nil))))⟩,
    answers⟩

theorem Runs.of_describe {t : Showing} {β : Type} {f : ValueView → β} {handle : Handle}
    {value : TargetValue} {log : List (Showing × Exchange Host)} {result : Except Error β}
    (known : s.at? handle = some value)
    (run : target.Runs s
      (do let view ← Session.describe handle; pure (f view) : Action β).run log t result) :
    (memoryReads log = [] ∧ Known log) ∧ t = s ∧ result = value.view.map f := by
  obtain ⟨answer, same, _, rfl, answers, rest⟩ := run.of_ask
  obtain ⟨rfl, rfl⟩ := answers.of_describe known
  have looked : Known [(same, ⟨.debugger (.describe handle), value.view⟩)] :=
    .cons (Showing.isSome_at? known) .nil
  cases view : value.view with
  | error e =>
    rw [view] at rest looked
    obtain ⟨rfl, rfl, rfl⟩ := rest.of_done
    exact ⟨⟨rfl, looked⟩, rfl, rfl⟩
  | ok shown =>
    rw [view] at rest looked
    obtain ⟨rfl, rfl, rfl⟩ := rest.of_done
    exact ⟨⟨rfl, looked⟩, rfl, rfl⟩

/-- Submitted code gives the queue, if that is what the target yields and describes. -/
theorem Runs.of_execute {k : Kernel} {t : Showing} {code : String}
    {log : List (Showing × Exchange Host)} {result : Except Error Outcome}
    (run : target.Runs s (k.execute code).run log t result) :
    (memoryReads log = [] ∧ Known log) ∧
      ((∃ (queue : TargetValue) (view : ValueView) (value : ShownValue),
          target.yield = .ok (.value queue) ∧ queue.view = .ok view ∧
          result = .ok (.gave value) ∧ t.at? value.handle = some queue) ∨
        target.payloads = [] ∧ ∀ value, result ≠ .ok (.gave value)) := by
  obtain ⟨first, second, middle, evaluation, rfl, evaluated, classified⟩ := Runs.of_bind run
  obtain ⟨⟨noReads, known⟩, answers⟩ := evaluated.of_evaluate
  have whole : memoryReads second = [] ∧ Known second →
      memoryReads (first ++ second) = [] ∧ Known (first ++ second) := fun ⟨unread, others⟩ =>
    ⟨by rw [memoryReads_append, noReads, unread]; rfl, known.append others⟩
  unfold payloads
  cases yield : target.yield with
  | error e =>
    rw [yield] at answers
    subst answers
    obtain ⟨rfl, rfl, rfl⟩ := classified.of_done
    exact ⟨whole ⟨rfl, .nil⟩, .inr ⟨rfl, fun _ same => nomatch same⟩⟩
  | ok yielded =>
    rw [yield] at answers
    cases yielded with
    | nothing =>
      subst answers
      obtain ⟨rfl, rfl, rfl⟩ := classified.of_done
      exact ⟨whole ⟨rfl, .nil⟩, .inr ⟨rfl, fun _ same => nomatch same⟩⟩
    | failed value =>
      obtain ⟨handle, rfl, given⟩ := answers
      obtain ⟨quiet, rfl, rfl⟩ := Runs.of_describe given classified
      refine ⟨whole quiet, .inr ⟨rfl, fun other same => ?_⟩⟩
      cases view : value.view <;> rw [view] at same <;> cases same
    | value queue =>
      obtain ⟨handle, rfl, given⟩ := answers
      obtain ⟨quiet, rfl, rfl⟩ := Runs.of_describe given classified
      refine ⟨whole quiet, ?_⟩
      cases view : queue.view with
      | error e => exact .inr ⟨by simp [view], fun _ same => nomatch same⟩
      | ok shown => exact .inl ⟨queue, shown, _, rfl, view, rfl, given⟩

end Target

/-- Reading the queue comes to what the queue holds. Its messages are those of the payloads that
have one, in the order of the queue: a payload has a message if it has parts and each of them can be
read, and the message is what they read. The memory that is read is that of the parts that are
reached, in order. No handle is asked about that does not stand for a value at that moment. If the
target does not give a queue there are no messages, and no memory is read. -/
theorem QueuedMessage.drain_decoded {k : Kernel} {width : NativeWidth} {target : Target}
    {s t : Showing} {log : List (Showing × Exchange Host)} {messages : List QueuedMessage}
    (probed : k.session.nativeWidth = some width) (run : target.Runs s (drain k) log t messages) :
    messages = target.payloads.filterMap (target.message? width) ∧
      (∀ payload message, target.message? width payload = some message ↔
        ∃ parts, payload.children = .ok parts ∧
          List.Forall₂ (target.Decodes width) parts message) ∧
      memoryReads log = target.payloads.flatMap (target.reads width) ∧
      (∀ part address n, TargetValue.read? width part = some (address, n) ↔
        ∃ length, part.Extent width address length ∧ 0 < length ∧ n = length.toNat) ∧
      Known log := by
  obtain ⟨first, second, middle, outcome, rfl, executed, read⟩ := Target.Runs.of_bind run
  obtain ⟨⟨noReads, known⟩, given⟩ := executed.of_execute
  rw [memoryReads_append, noReads, List.nil_append]
  have decoded : ∀ payload message, target.message? width payload = some message ↔
      ∃ parts, payload.children = .ok parts ∧
        List.Forall₂ (target.Decodes width) parts message :=
    fun _ _ => target.message?_eq_some_iff width
  have asked : ∀ part address n, TargetValue.read? width part = some (address, n) ↔
      ∃ length, part.Extent width address length ∧ 0 < length ∧ n = length.toNat :=
    fun _ _ _ => TargetValue.read?_eq_some_iff
  obtain ⟨queue, view, value, yield, described, rfl, given⟩ | ⟨none, ungiven⟩ := given
  · obtain ⟨others, -, reads, rfl⟩ := Target.explores_readQueue probed given _ _ _ read
    have payloads : target.payloads = queue.children.toOption.getD [] := by
      simp only [Target.payloads, yield, described]
      cases queue.children <;> rfl
    rw [reads, payloads]
    exact ⟨rfl, decoded, rfl, asked, known.append others⟩
  · have logged : ∀ record, target.Runs middle (do Act.log record; pure [] :
        Act (List QueuedMessage)) second t messages →
        memoryReads second = [] ∧ Known second ∧ messages = [] := by
      intro record run
      obtain ⟨_, _, _, rfl, -, rest⟩ := run.of_ask
      obtain ⟨rfl, -, rfl⟩ := rest.of_done
      exact ⟨rfl, .cons trivial .nil, rfl⟩
    have empty : memoryReads second = [] ∧ Known second ∧ messages = [] := by
      cases outcome with
      | error e => exact logged _ read
      | ok result =>
        cases result with
        | gave value => exact absurd rfl (ungiven value)
        | finished => exact logged _ read
        | notExpanded e => exact logged _ read
        | failed value => exact logged _ read
    obtain ⟨unread, others, rfl⟩ := empty
    rw [unread, none]
    exact ⟨rfl, decoded, rfl, asked, known.append others⟩

/-- A value that is stored as a number. -/
def TargetValue.scalar (n : Nat) : TargetValue :=
  ⟨.ok default, .ok [], fun _ => .ok none, .ok (.ofScalar n)⟩

/-- A collection. -/
def TargetValue.collection (values : Except Error (List TargetValue)) : TargetValue :=
  ⟨.ok default, values, fun _ => .ok none, .error (.noScalar "")⟩

/-- Two bytes at the address 4096. -/
def TargetValue.twoBytes : TargetValue where
  view := .ok default
  children := .ok []
  member name :=
    .ok (if name = "_position" then some (scalar 4096) else
      if name = "count" then some (scalar 2) else none)
  storage := .error (.noScalar "")

/-- A target with two payloads, of which the first does not tell its parts. -/
def Target.twoPayloads : Target where
  yield := .ok (.value (.collection (.ok
    [.collection (.error .disconnected), .collection (.ok [.twoBytes])])))
  memory _ _ := .ok [1, 2]

/-- Its values, by their handles. -/
def Showing.twoPayloads : Showing where
  generation := 1
  value? id := [TargetValue.collection (.ok
      [.collection (.error .disconnected), .collection (.ok [.twoBytes])]),
    .collection (.error .disconnected), .collection (.ok [.twoBytes]), .twoBytes, .scalar 4096,
    .scalar 2][id]?

/-- The second payload is read, although the first cannot be. -/
theorem QueuedMessage.drain_decoded_twoPayloads :
    ∃ (k : Kernel) (s t : Showing) (log : List (Showing × Exchange Host)),
      k.session.nativeWidth = some .bits64 ∧
      Target.twoPayloads.Runs s (drain k) log t [[[1, 2]]] ∧ memoryReads log = [(4096, 2)] ∧
      Known log := by
  let k : Kernel :=
    { (default : Kernel) with
      session := { (default : Session) with nativeWidth := some .bits64 } }
  have run : ∃ log, Target.twoPayloads.Runs ⟨0, fun _ => none⟩ (drain k) log
      .twoPayloads [[[1, 2]]] := by
    have still : Showing.twoPayloads.Extends .twoPayloads := .refl _
    refine Target.Runs.exists_ask () rfl ?_
    refine Target.Runs.exists_ask () rfl ?_
    refine Target.Runs.exists_ask (u := .twoPayloads) (.ok (.value ⟨0, 1⟩))
      ⟨Nat.zero_lt_one, _, rfl, rfl⟩ ?_
    refine Target.Runs.exists_ask () rfl ?_
    refine Target.Runs.exists_ask () rfl ?_
    refine Target.Runs.exists_ask (.ok default) ⟨rfl, rfl⟩ ?_
    refine Target.Runs.exists_ask (.ok [⟨1, 1⟩, ⟨2, 1⟩])
      ⟨still, _, rfl, .cons rfl (.cons rfl .nil)⟩ ?_
    refine Target.Runs.exists_ask (.error .disconnected) ⟨still, rfl⟩ ?_
    refine Target.Runs.exists_ask () rfl ?_
    refine Target.Runs.exists_ask (.ok [⟨3, 1⟩]) ⟨still, _, rfl, .cons rfl .nil⟩ ?_
    refine Target.Runs.exists_ask (.ok (some ⟨4, 1⟩)) ⟨still, _, rfl, rfl⟩ ?_
    refine Target.Runs.exists_ask (.ok (.ofScalar 4096)) ⟨rfl, rfl⟩ ?_
    refine Target.Runs.exists_ask (.ok (some ⟨5, 1⟩)) ⟨still, _, rfl, rfl⟩ ?_
    refine Target.Runs.exists_ask (.ok (.ofScalar 2)) ⟨rfl, rfl⟩ ?_
    refine Target.Runs.exists_ask () rfl ?_
    refine Target.Runs.exists_ask (.ok [1, 2]) ⟨rfl, rfl⟩ ?_
    refine Target.Runs.exists_ask () rfl ?_
    exact ⟨[], .done _ _⟩
  obtain ⟨log, run⟩ := run
  obtain ⟨-, -, reads, -, known⟩ := drain_decoded rfl run
  exact ⟨k, _, _, log, rfl, run, reads, known⟩

end NotebookKernel
