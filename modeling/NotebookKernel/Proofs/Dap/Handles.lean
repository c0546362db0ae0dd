import Mathlib.Data.List.Forall2
import Mathlib.Data.List.Nodup
import NotebookKernel.Proofs.Dap.Outcomes

/-!
Handles find the values they were issued for, or nothing.

The table of known values is emptied when an evaluation begins and only grows otherwise. A handle
is the place of its value in the table together with the number of the evaluation, so the places
that are used again after an evaluation belong to handles of another number. Every operation on a
handle begins by looking it up: what is shown of a value, its children among it, is asked of the
debugger for the entry that the handle finds (`Client.Finds`).
`Client.Runs.handles_kept` says what becomes of a handle over any run of the client: it finds the
entry that the debugger's response described until the next evaluation begins, and is stale from
then on.
-/

namespace NotebookKernel.Dap

/-! ## The table of known values -/

namespace KnownValues

variable {t : KnownValues} {h : Handle} {e : KnownValue}

/-- The table with more values behind the known ones. -/
def extend (t : KnownValues) (shown : List KnownValue) : KnownValues :=
  { t with entries := t.entries ++ shown }

/-- The handle of the value that will be shown after `i` others. -/
def slot (t : KnownValues) (i : Nat) : Handle :=
  ⟨t.entries.length + i, t.generation⟩

theorem extend_nil (t : KnownValues) : t.extend [] = t := by
  unfold extend
  rw [List.append_nil]

theorem extend_extend (t : KnownValues) (front back : List KnownValue) :
    (t.extend front).extend back = t.extend (front ++ back) := by
  simp [extend]

theorem insert_eq (t : KnownValues) (e : KnownValue) : t.insert e = (t.slot 0, t.extend [e]) :=
  rfl

theorem insertAll_eq (t : KnownValues) (shown : List KnownValue) :
    t.insertAll shown = ((List.range shown.length).map t.slot, t.extend shown) := by
  induction shown generalizing t with
  | nil => simp [insertAll, extend_nil]
  | cons e shown ih =>
    have next : (t.extend [e]).slot = fun i => t.slot (i + 1) := by
      funext i
      simp [slot, extend, Nat.add_assoc, Nat.add_comm 1 i]
    simp [insertAll, insert_eq, ih, next, extend_extend, List.range_succ_eq_map, Function.comp_def]

theorem slot_injective (t : KnownValues) : Function.Injective t.slot := by
  intro i j same
  have ids := congrArg Handle.id same
  simp only [slot] at ids
  omega

theorem find_slot {shown : List KnownValue} {i : Nat} (here : shown[i]? = some e) :
    (t.extend shown).find (t.slot i) = .ok e := by
  have place : (t.entries ++ shown)[t.entries.length + i]? = some e := by
    rw [List.getElem?_append_right (Nat.le_add_right _ i), Nat.add_sub_cancel_left, here]
  simp [find, slot, extend, place]

/-- Values that are shown later do not change what a handle finds. -/
theorem find_extend (found : t.find h = .ok e) (shown : List KnownValue) :
    (t.extend shown).find h = .ok e := by
  unfold find at found ⊢
  split at found
  · next same =>
    split at found
    · next entry here =>
      cases found
      have bound := (List.getElem?_eq_some_iff.mp here).1
      have place : (t.entries ++ shown)[h.id]? = some e := by
        rw [List.getElem?_append_left bound, here]
      simp [extend, same, place]
    · cases found
  · cases found

/-- A handle that may have been issued before. -/
def Used (t : KnownValues) (h : Handle) : Prop :=
  h.generation < t.generation ∨ h.generation = t.generation ∧ h.id < t.entries.length

theorem not_used_slot (t : KnownValues) (i : Nat) : ¬t.Used (t.slot i) := by
  unfold Used slot
  dsimp only
  omega

theorem Used.extend (used : t.Used h) (shown : List KnownValue) : (t.extend shown).Used h := by
  unfold Used KnownValues.extend at *
  dsimp only
  rw [List.length_append]
  omega

theorem Used.nextGeneration (used : t.Used h) : t.nextGeneration.Used h := by
  unfold Used KnownValues.nextGeneration at *
  dsimp only
  omega

theorem find_stale (old : h.generation < t.generation) :
    t.find h = .error (.staleHandle h.id h.generation) := by
  unfold find
  rw [if_neg (Nat.ne_of_lt old)]

end KnownValues

/-! ## Operations of the client -/

/-- What the client does for the kernel. -/
inductive Deed where
  /-- An operation with the exchanges it took part in and its answer. -/
  | done (task : Debugger.Request) (log : List (Exchange Link)) (answer : Debugger.Answer task)
  /-- An evaluation that has begun and got no answer. -/
  | begun (code : String) (options : RunOptions)

namespace Deed

/-- An evaluation begins. -/
def evaluates : Deed → Bool
  | done (.evaluate _ _) _ _ | begun _ _ => true
  | _ => false

/-- The handles that are issued with an answer. -/
def handles : Deed → List Handle
  | done (.evaluate _ _) _ (.ok (.value h)) => [h]
  | done (.evaluate _ _) _ (.ok (.failed h)) => [h]
  | done (.children _) _ (.ok refs) => refs
  | done (.member _ _) _ (.ok (some h)) => [h]
  | _ => []

/-- The response that was fetched last. -/
def response? (log : List (Exchange Link)) : Option Response :=
  match log.getLast? with
  | some ⟨.await _, r⟩ => r
  | _ => none

/-- The variables that a response describes, in order. -/
def shownVariables (log : List (Exchange Link)) : List KnownValue :=
  match response? log with
  | some r => ((r.body.get "variables").items?.getD []).map KnownValue.ofVariable
  | none => []

/-- The value that a response to an evaluation describes. -/
def shownOutcome (log : List (Exchange Link)) : List KnownValue :=
  match (response? log).map Client.meaningOf with
  | some (.value e) => [e]
  | some (.failed e) => [e]
  | _ => []

/-- The values that handles are issued for, as the debugger's response describes them. -/
def entries : Deed → List KnownValue
  | done (.evaluate _ _) log (.ok _) => shownOutcome log
  | done (.children _) log (.ok _) => shownVariables log
  | done (.member _ name) log (.ok (some _)) =>
    ((shownVariables log).find? (·.name = some name)).toList
  | _ => []

/-- What a deed makes of what the client remembers. -/
def Leads (c : Client) : Deed → Client → Prop
  | done task log answer, d => ((Client.answer task).run c).Gives log (answer, d)
  | begun _ _, d => d = c.evaluating

/-- The table when handles are issued. -/
def table (c : Client) (deed : Deed) : KnownValues :=
  if deed.evaluates then c.values.nextGeneration else c.values

end Deed

/-! ## What an operation does to the table -/

/-- The handles of some values, in the order of the values, none twice. -/
structure Issues (t : KnownValues) (shown : List KnownValue) (handles : List Handle)
    (entries : List KnownValue) : Prop where
  placed : List.Forall₂ (fun h e => ∃ i, h = t.slot i ∧ shown[i]? = some e) handles entries
  nodup : handles.Nodup

theorem Issues.none (t : KnownValues) (shown : List KnownValue) : Issues t shown [] [] :=
  ⟨.nil, List.nodup_nil⟩

theorem Issues.one (t : KnownValues) {shown : List KnownValue} {i : Nat} {e : KnownValue}
    (here : shown[i]? = some e) : Issues t shown [t.slot i] [e] :=
  ⟨.cons ⟨i, rfl, here⟩ .nil, List.nodup_singleton _⟩

theorem Issues.slot {t : KnownValues} {shown entries : List KnownValue} {handles : List Handle}
    (issues : Issues t shown handles entries) {h : Handle} (mem : h ∈ handles) :
    ∃ i < shown.length, h = t.slot i := by
  rcases List.getElem_of_mem mem with ⟨k, bound, rfl⟩
  have bound' : k < entries.length := issues.placed.length_eq ▸ bound
  rcases issues.placed.get bound bound' with ⟨i, same, here⟩
  exact ⟨i, (List.getElem?_eq_some_iff.mp here).1, same⟩

theorem Issues.used {t : KnownValues} {shown entries : List KnownValue} {handles : List Handle}
    (issues : Issues t shown handles entries) {h : Handle} (mem : h ∈ handles) :
    (t.extend shown).Used h := by
  rcases issues.slot mem with ⟨i, bound, rfl⟩
  have place : (t.slot i).id < (t.extend shown).entries.length := by
    simp [KnownValues.slot, KnownValues.extend, bound]
  exact .inr ⟨rfl, place⟩

theorem Issues.all (t : KnownValues) (shown : List KnownValue) :
    Issues t shown ((List.range shown.length).map t.slot) shown := by
  constructor
  · rw [List.forall₂_iff_get]
    refine ⟨by simp, fun i bound _ => ⟨i, ?_, ?_⟩⟩
    · simp
    · simp
  · exact List.nodup_range.map t.slot_injective

namespace Client

variable {c d : Client} {log : List (Exchange Link)} {h : Handle} {e : KnownValue}

/-- An action that leaves the table as it is. -/
def Unshowing {α : Type} (action : ClientAction α) : Prop :=
  ∀ (c d : Client) (log : List (Exchange Link)) (result : Except Error α),
    (action.run.run c).Gives log (result, d) → d.values = c.values

theorem Unshowing.bind {α β : Type} {action : ClientAction α} {f : α → ClientAction β}
    (unshowing : Unshowing action) (later : ∀ a, Unshowing (f a)) : Unshowing (action >>= f) := by
  intro c d log result run
  rcases gives_bind run with ⟨e, failed, -⟩ | ⟨_, _, a, middle, -, first, second⟩
  · exact unshowing _ _ _ _ failed
  · exact (later a _ _ _ _ second).trans (unshowing _ _ _ _ first)

theorem unshowing_linked {α : Type} (act : LinkAct (Except Error α)) : Unshowing (linked act) := by
  intro c d log result run
  rw [(linked_gives run).1]

theorem unshowing_liftExcept {α : Type} (result : Except Error α) :
    Unshowing (liftExcept result) := by
  intro c d log result run
  rw [(liftExcept_gives run).1]

theorem unshowing_pure {α : Type} (a : α) : Unshowing (pure a : ClientAction α) := by
  intro c d log result run
  rcases run.of_done with ⟨-, same⟩
  cases same
  rfl

theorem unshowing_modify {f : Client → Client} (same : ∀ c, (f c).values = c.values) :
    Unshowing (modify f) := by
  intro c d log result run
  rcases run.of_done with ⟨-, done⟩
  cases done
  exact same c

theorem unshowing_handshake (plan : LaunchPlan) : Unshowing (handshake plan) := by
  refine .bind (unshowing_linked _) fun capabilities => ?_
  refine .bind (unshowing_modify fun _ => rfl) fun _ => ?_
  refine .bind (unshowing_linked _) fun launched => ?_
  refine .bind (unshowing_linked _) fun _ => ?_
  -- what follows a step that only a launch with an entry breakpoint makes
  extract_lets named configured
  have named_fine : Unshowing (named ()) :=
    .bind (unshowing_linked _) fun threads => unshowing_liftExcept (firstThread threads)
  have configured_fine : Unshowing (configured ()) := by
    refine .bind (unshowing_linked _) fun _ => .bind (unshowing_linked _) fun _ => ?_
    cases plan.entryBreakpoint with
    | none => exact named_fine
    | some entry => exact .bind (unshowing_linked _) fun _ => named_fine
  cases plan.entryBreakpoint with
  | none => exact configured_fine
  | some entry => exact .bind (unshowing_linked _) fun _ => configured_fine

theorem unshowing_launch (plan : LaunchPlan) : Unshowing (launch plan) := by
  have shaken : Unshowing
      (ExceptT.mk ((Except.ok <$> ·) (handshake plan).run) :
        ClientAction (Except Error ThreadId)) := by
    intro c d log result run
    rcases Program.Gives.of_bind run with ⟨_, _, ⟨outcome, _⟩, -, shaking, rest⟩
    rcases rest.of_done with ⟨-, same⟩
    cases same
    exact unshowing_handshake plan _ _ _ _ shaking
  refine .bind (unshowing_linked _) fun _ => .bind shaken fun result => ?_
  refine .bind (unshowing_linked _) fun _ => .bind (unshowing_liftExcept result) fun thread => ?_
  exact .bind (unshowing_modify fun _ => rfl) fun _ => unshowing_pure thread

theorem lookup_gives {h : Handle} {result : Except Error KnownValue}
    (run : ((lookup h).run.run c).Gives log (result, d)) :
    d = c ∧ log = [] ∧ result = c.values.find h :=
  liftExcept_gives run

theorem unshowing_lookup (h : Handle) : Unshowing (lookup h) := by
  intro c d log result run
  rw [(lookup_gives run).1]

/-! ## Children and members -/

/-- Every operation on a value begins by looking its handle up. -/
theorem run_lookup {α : Type} (f : KnownValue → ClientAction α) :
    ((lookup h >>= f).run.run c) =
      match c.values.find h with
      | .ok e => (f e).run.run c
      | .error e => .done (.error e, c) := by
  rw [Layers.run_bind]
  have looked : (lookup h).run.run c = .done (c.values.find h, c) := by
    change ((liftExcept (c.values.find h) : ClientAction KnownValue).run.run c) = _
    cases c.values.find h <;> rfl
  rw [looked]
  cases c.values.find h <;> rfl

/-- The arguments of a request for the children of a value. -/
def childrenArguments (e : KnownValue) : Json :=
  .object [("variablesReference", .int e.variablesReference)]

/-- The values that the body of a response describes. -/
def variablesOf (body : Json) : List KnownValue :=
  ((body.get "variables").items?.getD []).map .ofVariable

/-- What the debugger shows when it is asked for the children of a value. A value without a
reference has none, and nothing is asked; of any other the debugger is asked for the variables of
its reference, once. -/
inductive Unfolds (e : KnownValue) : List (Exchange Link) → Except Error (List KnownValue) → Prop
  | leaf : e.variablesReference = 0 → Unfolds e [] (.ok [])
  | node {log : List (Exchange Link)} {responded : Except Error Response} :
    e.variablesReference ≠ 0 → Requested "variables" (childrenArguments e) log responded →
      Unfolds e log ((responded >>= bodyOf "variables").map variablesOf)

/-- The client with what the debugger has shown; after an error it is the same. -/
def showing (c : Client) : Except Error (List KnownValue) → Client
  | .ok shown => { c with values := c.values.extend shown }
  | .error _ => c

/-- The request for the children of a value that has been looked up. -/
def showChildren (e : KnownValue) : LinkAct (Except Error (List KnownValue)) :=
  if e.variablesReference = 0 then .done (.ok [])
  else (requestBody "variables" (childrenArguments e)).bind fun body => .done (body.map variablesOf)

theorem showChildren_gives_iff {shown : Except Error (List KnownValue)} :
    (showChildren e).Gives log shown ↔ Unfolds e log shown := by
  unfold showChildren
  split
  · next none =>
    constructor
    · intro run
      obtain ⟨rfl, rfl⟩ := run.of_done
      exact .leaf none
    · intro unfolds
      cases unfolds with
      | leaf => exact .done _
      | node some_ => exact absurd none some_
  · next some_ =>
    rw [Program.gives_convert_iff]
    constructor
    · rintro ⟨body, run, rfl⟩
      obtain ⟨responded, requested, rfl⟩ := requestBody_gives_iff.mp run
      exact .node some_ requested
    · intro unfolds
      cases unfolds with
      | leaf none => exact absurd none some_
      | node _ requested => exact ⟨_, requestBody_gives_iff.mpr ⟨_, requested, rfl⟩, rfl⟩

/-- The values that are shown are those that the last response describes. -/
theorem Unfolds.shownVariables {shown : List KnownValue} (unfolds : Unfolds e log (.ok shown)) :
    Deed.shownVariables log = shown := by
  generalize same : Except.ok shown = what at unfolds
  cases unfolds with
  | leaf =>
    cases same
    rfl
  | @node _ responded _ requested =>
    cases requested with
    | answered seq r =>
      change Except.ok shown = (bodyOf "variables" r).map variablesOf at same
      unfold bodyOf at same
      split at same <;> cases same
      rfl
    | closed | unwritten => cases same

/-- The children are listed by new handles, one for each value that is shown. -/
theorem run_children (found : c.values.find h = .ok e) :
    (children h).run.run c = (showChildren e).bind fun shown =>
      .done (shown.map fun s => (List.range s.length).map c.values.slot, c.showing shown) := by
  change (lookup h >>= _).run.run c = _
  rw [run_lookup, found]
  unfold showChildren
  dsimp only
  split
  · change Program.done _ = Program.done _
    simp [showing, KnownValues.extend_nil, Except.map]
  · rw [Program.bind_assoc, Layers.run_bind]
    change Program.bind (Program.bind _ _) _ = _
    rw [Program.bind_assoc]
    refine congrArg (Program.bind _) (funext fun body => ?_)
    cases body with
    | error e => rfl
    | ok body =>
      change Program.done _ = Program.done _
      rw [KnownValues.insertAll_eq]
      rfl

theorem run_children_missing {error : Error} (missing : c.values.find h = .error error) :
    (children h).run.run c = .done (.error error, c) := by
  change (lookup h >>= _).run.run c = _
  rw [run_lookup, missing]

/-- The first of some values with a name, found by their handles. -/
theorem firstNamed_eq {values : KnownValues} {name : String} {refs : List Handle}
    {shown : List KnownValue}
    (known : List.Forall₂ (fun h e => values.find h = .ok e) refs shown) :
    firstNamed values name refs =
      .ok ((shown.findIdx? (·.name = some name)).bind (refs[·]?)) := by
  induction known with
  | nil => rfl
  | @cons h e refs shown found known ih =>
    rw [List.findIdx?_cons]
    by_cases named : e.name = some name
    · simp [firstNamed, found, named]
    · simp only [firstNamed, found, if_neg named, ih]
      cases shown.findIdx? (·.name = some name) <;> simp [named]

theorem find_slots (t : KnownValues) (shown : List KnownValue) :
    List.Forall₂ (fun h e => (t.extend shown).find h = .ok e)
      ((List.range shown.length).map t.slot) shown := by
  refine (Issues.all t shown).placed.imp ?_
  rintro h e ⟨i, rfl, here⟩
  exact KnownValues.find_slot here

theorem firstNamed_slots (t : KnownValues) (name : String) (shown : List KnownValue) :
    firstNamed (t.extend shown) name ((List.range shown.length).map t.slot) =
      .ok ((shown.findIdx? (·.name = some name)).map t.slot) := by
  rw [firstNamed_eq (find_slots t shown)]
  cases place : shown.findIdx? (·.name = some name) with
  | none => rfl
  | some i =>
    have bound := (List.findIdx?_eq_some_iff_findIdx_eq.mp place).1
    simp [bound]

/-- A member is the first of the children with its name. -/
theorem run_member (found : c.values.find h = .ok e) (name : String) :
    (member h name).run.run c = (showChildren e).bind fun shown =>
      .done (shown.map fun s => (s.findIdx? (·.name = some name)).map c.values.slot,
        c.showing shown) := by
  change (children h >>= _).run.run c = _
  rw [Layers.run_bind, run_children found, Program.bind_assoc]
  refine congrArg (Program.bind _) (funext fun shown => ?_)
  cases shown with
  | error e => rfl
  | ok shown =>
    change (liftExcept (firstNamed (c.values.extend shown) name _) : ClientAction _).run.run _ = _
    rw [firstNamed_slots]
    rfl

theorem run_member_missing {error : Error} (missing : c.values.find h = .error error)
    (name : String) : (member h name).run.run c = .done (.error error, c) := by
  change (children h >>= _).run.run c = _
  rw [Layers.run_bind, run_children_missing missing]
  rfl

/-- Listing the children of a value is asking for the children of what its handle finds. -/
theorem children_gives_iff (found : c.values.find h = .ok e)
    {result : Except Error (List Handle)} :
    ((children h).run.run c).Gives log (result, d) ↔ ∃ shown, Unfolds e log shown ∧
      result = shown.map (fun s => (List.range s.length).map c.values.slot) ∧
        d = c.showing shown := by
  rw [run_children found, Program.gives_convert_iff]
  simp only [showChildren_gives_iff, Prod.mk.injEq]

/-- So is choosing one of them by its name. -/
theorem member_gives_iff (found : c.values.find h = .ok e) {name : String}
    {result : Except Error (Option Handle)} :
    ((member h name).run.run c).Gives log (result, d) ↔ ∃ shown, Unfolds e log shown ∧
      result = shown.map (fun s => (s.findIdx? (·.name = some name)).map c.values.slot) ∧
        d = c.showing shown := by
  rw [run_member found, Program.gives_convert_iff]
  simp only [showChildren_gives_iff, Prod.mk.injEq]

/-- The children of a value are the variables of the response, and their handles are new. -/
theorem children_gives {result : Except Error (List Handle)}
    (run : ((children h).run.run c).Gives log (result, d)) :
    (∃ e, result = .error e ∧ d = c) ∨
      result = .ok ((List.range (Deed.shownVariables log).length).map c.values.slot) ∧
        d = { c with values := c.values.extend (Deed.shownVariables log) } := by
  cases found : c.values.find h with
  | error e =>
    rw [run_children_missing found] at run
    obtain ⟨-, same⟩ := run.of_done
    cases same
    exact .inl ⟨e, rfl, rfl⟩
  | ok e =>
    obtain ⟨shown, unfolds, rfl, rfl⟩ := (children_gives_iff found).mp run
    cases shown with
    | error e => exact .inl ⟨e, rfl, rfl⟩
    | ok shown =>
      rw [unfolds.shownVariables]
      exact .inr ⟨rfl, rfl⟩

theorem member_gives {name : String} {result : Except Error (Option Handle)}
    (run : ((member h name).run.run c).Gives log (result, d)) :
    (∃ e, result = .error e ∧ d = c) ∨
      d.values = c.values.extend (Deed.shownVariables log) ∧
        result = .ok (((Deed.shownVariables log).findIdx? (·.name = some name)).map
          c.values.slot) := by
  cases found : c.values.find h with
  | error e =>
    rw [run_member_missing found] at run
    obtain ⟨-, same⟩ := run.of_done
    cases same
    exact .inl ⟨e, rfl, rfl⟩
  | ok e =>
    obtain ⟨shown, unfolds, rfl, rfl⟩ := (member_gives_iff found).mp run
    cases shown with
    | error e => exact .inl ⟨e, rfl, rfl⟩
    | ok shown =>
      rw [unfolds.shownVariables]
      exact .inr ⟨rfl, rfl⟩

/-- An evaluation fetches its response last. -/
theorem shownOutcome_asked (front : List (Exchange Link)) (command : String) (arguments : Json)
    (seq : Nat) (r : Response) :
    Deed.shownOutcome (front ++ asked command arguments seq (some r)) =
      match meaningOf r with
      | .valueless => []
      | .value e => [e]
      | .failed e => [e] := by
  have last : Deed.response? (front ++ asked command arguments seq (some r)) = some r := by
    simp [Deed.response?, asked]
  simp only [Deed.shownOutcome, last, Option.map_some]
  cases meaningOf r <;> rfl

end Client

namespace Deed

variable {c d : Client} {deed : Deed}

/-- What shows no value issues no handle. -/
theorem issues_still {t : KnownValues} (same : d.values = t) :
    ∃ shown, d.values = t.extend shown ∧ Issues t shown [] [] :=
  ⟨[], same.trans (KnownValues.extend_nil t).symm, .none _ _⟩

/-- An evaluation begins a new table, and issues a handle of the value that its response describes,
if there is one. -/
theorem issues_evaluate {code : String} {options : RunOptions} {log : List (Exchange Link)}
    {answer : Except Error Evaluation}
    (leads : (done (.evaluate code options) log answer).Leads c d) :
    ∃ shown, d.values = c.evaluating.values.extend shown ∧
      Issues c.evaluating.values shown (done (.evaluate code options) log answer).handles
        (done (.evaluate code options) log answer).entries := by
  rcases Client.evaluate_gives leads with
    ⟨e, rfl, rfl⟩ | ⟨outcome, front, frame, seq, r, rfl, rfl, understood⟩
  · exact issues_still rfl
  · cases understood with
    | valueless meaning =>
      refine ⟨[], (KnownValues.extend_nil _).symm, ?_⟩
      simp only [entries, Client.shownOutcome_asked, meaning]
      exact .none _ _
    | @value entry meaning =>
      refine ⟨[entry], rfl, ?_⟩
      simp only [entries, Client.shownOutcome_asked, meaning]
      exact .one (i := 0) _ rfl
    | @failed entry meaning =>
      refine ⟨[entry], rfl, ?_⟩
      simp only [entries, Client.shownOutcome_asked, meaning]
      exact .one (i := 0) _ rfl

/-- Choosing a member shows all children, and issues a handle of the one that was found. -/
theorem issues_member {value : Handle} {name : String} {log : List (Exchange Link)}
    {answer : Except Error (Option Handle)}
    (leads : (done (.member value name) log answer).Leads c d) :
    ∃ shown, d.values = c.values.extend shown ∧
      Issues c.values shown (done (.member value name) log answer).handles
        (done (.member value name) log answer).entries := by
  rcases Client.member_gives leads with ⟨e, rfl, rfl⟩ | ⟨grown, rfl⟩
  · exact issues_still rfl
  cases place : (shownVariables log).findIdx? (·.name = some name) with
  | none => exact ⟨_, grown, .none _ _⟩
  | some i =>
    have bound := (List.findIdx?_eq_some_iff_findIdx_eq.mp place).1
    have here : (shownVariables log)[i]? = some (shownVariables log)[i] :=
      List.getElem?_eq_getElem bound
    have entry : (done (.member value name) log (.ok (some (c.values.slot i)))).entries =
        [(shownVariables log)[i]] := by
      simp [entries, List.find?_eq_bind_findIdx?_getElem?, place, here]
    refine ⟨_, grown, ?_⟩
    rw [Option.map_some, entry]
    exact .one _ here

/-- Every operation adds to its table the values that its response describes, and issues handles of
these. -/
theorem Leads.issues (leads : deed.Leads c d) :
    ∃ shown, d.values = (deed.table c).extend shown ∧
      Issues (deed.table c) shown deed.handles deed.entries := by
  cases deed with
  | begun code options =>
    cases leads
    exact issues_still rfl
  | done task log answer =>
    cases task with
    | evaluate code options => exact issues_evaluate leads
    | children value =>
      rcases Client.children_gives leads with ⟨e, rfl, rfl⟩ | ⟨rfl, rfl⟩
      · exact issues_still rfl
      · exact ⟨_, rfl, .all _ _⟩
    | member value name => exact issues_member leads
    | launch plan => exact issues_still (Client.unshowing_launch plan _ _ _ _ leads)
    | describe value =>
      refine issues_still ((Client.unshowing_lookup value).bind (fun entry => ?_) _ _ _ _ leads)
      exact Client.unshowing_pure _
    | storage value =>
      refine issues_still ((Client.unshowing_lookup value).bind (fun entry => ?_) _ _ _ _ leads)
      cases Client.scalarOf? entry with
      | some n => exact Client.unshowing_pure _
      | none => exact Client.unshowing_liftExcept (.error (.noScalar entry.description))
    | memoryAt | takeOutput | unreadOutput | frames | interrupt | canComplete | complete
    | terminate =>
      exact issues_still (congrArg Client.values (Client.keep_gives leads).1)

/-- What a deed adds to the evaluations that have begun. -/
theorem table_generation (c : Client) (deed : Deed) :
    (deed.table c).generation = c.values.generation + [deed].countP Deed.evaluates := by
  unfold table
  cases evaluates : deed.evaluates <;> simp [evaluates, KnownValues.nextGeneration]

theorem Leads.generation (leads : deed.Leads c d) :
    d.values.generation = c.values.generation + [deed].countP Deed.evaluates := by
  rcases leads.issues with ⟨shown, grown, -⟩
  rw [grown, ← table_generation]
  rfl

theorem table_used {h : Handle} (used : c.values.Used h) (deed : Deed) :
    (deed.table c).Used h := by
  unfold table
  split
  · exact used.nextGeneration
  · exact used

theorem Leads.used (leads : deed.Leads c d) {h : Handle} (used : c.values.Used h) :
    d.values.Used h := by
  rcases leads.issues with ⟨shown, grown, -⟩
  rw [grown]
  exact (table_used used deed).extend shown

/-- Handles that are issued now were not issued before. -/
theorem Leads.fresh (leads : deed.Leads c d) {h : Handle} (mem : h ∈ deed.handles) :
    ¬c.values.Used h := by
  rcases leads.issues with ⟨shown, -, issues⟩
  rcases issues.slot mem with ⟨i, -, rfl⟩
  intro used
  exact KnownValues.not_used_slot _ _ (table_used used deed)

end Deed

/-! ## Runs of the client -/

namespace Client

/-- One operation after the other, each with whatever comes over the connection. -/
inductive Runs : Client → List Deed → Client → Prop
  | done (c : Client) : Runs c [] c
  | next {c d e : Client} {deed : Deed} {deeds : List Deed} :
    deed.Leads c d → Runs d deeds e → Runs c (deed :: deeds) e

namespace Runs

variable {c d : Client} {deeds before after : List Deed} {deed : Deed} {h : Handle} {e : KnownValue}

theorem of_append (run : Runs c (before ++ after) d) :
    ∃ middle, Runs c before middle ∧ Runs middle after d := by
  induction before generalizing c with
  | nil => exact ⟨c, .done c, run⟩
  | cons deed before ih =>
    cases run with
    | next leads later =>
      rcases ih later with ⟨middle, front, back⟩
      exact ⟨middle, .next leads front, back⟩

theorem generation (run : Runs c deeds d) :
    d.values.generation = c.values.generation + deeds.countP Deed.evaluates := by
  induction run with
  | done c => rfl
  | @next c d e deed deeds leads later ih =>
    rw [ih, leads.generation, Nat.add_assoc, ← List.countP_append]
    rfl

/-- While no evaluation begins the table only grows. -/
theorem find (run : Runs c deeds d) (quiet : ∀ deed ∈ deeds, deed.evaluates = false)
    (found : c.values.find h = .ok e) : d.values.find h = .ok e := by
  induction run with
  | done c => exact found
  | @next c d e deed deeds leads later ih =>
    rw [List.forall_mem_cons] at quiet
    apply ih quiet.2
    rcases leads.issues with ⟨shown, grown, -⟩
    unfold Deed.table at grown
    rw [quiet.1] at grown
    rw [grown]
    exact KnownValues.find_extend found shown

/-- No handle is issued twice. -/
theorem not_issued (run : Runs c deeds d) (used : c.values.Used h) :
    ∀ deed ∈ deeds, h ∉ deed.handles := by
  induction run with
  | done c => exact fun _ mem => nomatch mem
  | next leads later ih =>
    rw [List.forall_mem_cons]
    refine ⟨fun mem => leads.fresh mem used, ih (leads.used used)⟩

end Runs

/-- The client knows a value by a handle: whatever is asked about the handle is asked about that
value. Its children are those that the debugger shows for the value, and its members are the first
of them with their names. -/
structure Finds (c : Client) (h : Handle) (e : KnownValue) : Prop where
  found : c.values.find h = .ok e
  described : (answer (.describe h)).run c =
    .done (.ok ⟨e.description, e.typeName, e.error⟩, c)
  stored : (answer (.storage h)).run c =
    .done (((scalarOf? e).map Storage.ofScalar).elim (.error (.noScalar e.description)) .ok, c)
  children (log : List (Exchange Link)) (result : Except Error (List Handle)) (d : Client) :
    ((answer (.children h)).run c).Gives log (result, d) ↔ ∃ shown, Unfolds e log shown ∧
      result = shown.map (fun s => (List.range s.length).map c.values.slot) ∧ d = c.showing shown
  member (name : String) (log : List (Exchange Link)) (result : Except Error (Option Handle))
    (d : Client) :
    ((answer (.member h name)).run c).Gives log (result, d) ↔ ∃ shown, Unfolds e log shown ∧
      result = shown.map (fun s => (s.findIdx? (·.name = some name)).map c.values.slot) ∧
        d = c.showing shown

/-- Whatever is asked about a handle, the answer is that it is stale. -/
structure Refuses (c : Client) (h : Handle) : Prop where
  found : c.values.find h = .error (.staleHandle h.id h.generation)
  describe : (answer (.describe h)).run c = .done (.error (.staleHandle h.id h.generation), c)
  children : (answer (.children h)).run c = .done (.error (.staleHandle h.id h.generation), c)
  member (name : String) :
    (answer (.member h name)).run c = .done (.error (.staleHandle h.id h.generation), c)
  storage : (answer (.storage h)).run c = .done (.error (.staleHandle h.id h.generation), c)

variable {c d : Client} {h : Handle} {e : KnownValue}

theorem Finds.of_find (found : c.values.find h = .ok e) : Finds c h e := by
  refine ⟨found, ?_, ?_, fun _ _ _ => children_gives_iff found,
    fun _ _ _ _ => member_gives_iff found⟩
  · change (lookup h >>= _).run.run c = _
    rw [run_lookup, found]
    rfl
  · change (lookup h >>= _).run.run c = _
    rw [run_lookup, found]
    cases scalar : scalarOf? e <;> simp [scalar] <;> rfl

theorem Refuses.of_find (stale : c.values.find h = .error (.staleHandle h.id h.generation)) :
    Refuses c h := by
  have refused : ∀ {α : Type} (f : KnownValue → ClientAction α),
      (lookup h >>= f).run.run c = .done (.error (.staleHandle h.id h.generation), c) := by
    intro α f
    rw [run_lookup, stale]
  exact ⟨stale, refused _, run_children_missing stale, run_member_missing stale, refused _⟩

/-- Handles never find a value they were not issued for. In every run of the client, an operation
issues its handles for the values that its response describes, none twice and none that is issued
again. Until the next evaluation begins each of them finds its value, which every operation on it is
about, and from then on every operation on it says that it is stale, whatever becomes of that
evaluation. -/
theorem Runs.handles_kept {before after : List Deed} {deed : Deed}
    (run : Runs .fresh (before ++ deed :: after) c) :
    deed.handles.Nodup ∧ (∀ later ∈ after, deed.handles.Disjoint later.handles) ∧
      List.Forall₂ (fun h e =>
        h.generation = (before ++ [deed]).countP Deed.evaluates ∧
          ((∀ later ∈ after, later.evaluates = false) → Finds c h e) ∧
          ((∃ later ∈ after, later.evaluates = true) → Refuses c h))
        deed.handles deed.entries := by
  rcases run.of_append with ⟨b, first, rest⟩
  cases rest with
  | @next _ d _ _ _ leads later =>
  rcases leads.issues with ⟨shown, grown, issues⟩
  refine ⟨issues.nodup, ?_, issues.placed.imp ?_⟩
  · intro other mem h issued
    apply later.not_issued _ other mem
    rw [grown]
    exact issues.used issued
  · rintro h e ⟨i, rfl, here⟩
    have number : ((deed.table b).slot i).generation = d.values.generation := by
      rw [grown]
      rfl
    refine ⟨?_, fun quiet => ?_, fun ⟨other, mem, evaluates⟩ => ?_⟩
    · have start : (Client.fresh).values.generation = 0 := rfl
      rw [number, leads.generation, first.generation, start, Nat.zero_add, List.countP_append]
    · apply Finds.of_find
      apply later.find quiet
      rw [grown]
      exact KnownValues.find_slot here
    · apply Refuses.of_find
      apply KnownValues.find_stale
      have more : 0 < after.countP Deed.evaluates := List.countP_pos_iff.mpr ⟨other, mem, evaluates⟩
      rw [number, later.generation]
      omega

/-- A debugger that answers every request with the same body. -/
def obliging (body : Json) : (r : Link.Request) → Link.Answer r
  | .allocate => (1 : Nat)
  | .write _ => Except.ok ()
  | .await _ => some (⟨1, true, "", none, body⟩ : Response)
  | .awaitInTime _ => Awaited.arrived (⟨1, true, "", none, body⟩ : Response)
  | .awaitEvent name => Awaited.arrived (⟨name, .null⟩ : Event)
  | .takeOutput _ => ""
  | .unreadOutput => (0 : Nat)
  | .debuggee => none
  | .signal _ => Except.ok ()
  | .expect _ | .forget _ | .listen | .unlisten | .killServer | .log _ => ()

/-- An operation over the connection to such a debugger, and what the client remembers after it. -/
def obliged (body : Json) (c : Client) (task : Debugger.Request) : Deed × Client :=
  let run := ((answer task).run c).play (obliging body)
  (.done task run.1 run.2.1, run.2.2)

theorem obliged_leads (body : Json) (c : Client) (task : Debugger.Request) :
    (obliged body c task).1.Leads c (obliged body c task).2 := by
  change ((answer task).run c).Gives _ (_, _)
  exact Program.gives_play (obliging body) ((answer task).run c)

/-- A debugger with one thread, for which everything is 42. -/
def fortyTwo : Json :=
  .obj [("threads", .arr [.obj [("id", .int 1)]]), ("result", .str "42")]

/-- A target is launched. -/
def launched : Deed × Client :=
  obliged fortyTwo .fresh (.launch ⟨"", [], [], none, none⟩)

/-- Then code is evaluated. -/
def evaluated : Deed × Client :=
  obliged fortyTwo launched.2 (.evaluate "6 * 7" (.forCells "" none))

/-- The value of an evaluation is found after it, and its handle is stale when the next evaluation
has begun. -/
theorem Runs.handles_kept_fortyTwo :
    Runs .fresh ([launched.1] ++ evaluated.1 :: []) evaluated.2 ∧
      Runs .fresh ([launched.1] ++ evaluated.1 :: [.begun "" (.forCells "" none)])
        evaluated.2.evaluating ∧
      evaluated.1.handles = [⟨0, 1⟩] ∧
      Finds evaluated.2 ⟨0, 1⟩ ⟨none, "42", none, 0, none, none⟩ ∧
      Refuses evaluated.2.evaluating ⟨0, 1⟩ := by
  have before : ∀ {after d}, Runs evaluated.2 after d →
      Runs .fresh ([launched.1] ++ evaluated.1 :: after) d := fun later =>
    .next (obliged_leads _ _ _) (.next (obliged_leads _ _ _) later)
  have quiet := before (.done evaluated.2)
  have leads : (Deed.begun "" (.forCells "" none)).Leads evaluated.2 evaluated.2.evaluating := rfl
  have begun := before (.next leads (.done _))
  have handles : evaluated.1.handles = [⟨0, 1⟩] := by decide +kernel
  have entries : evaluated.1.entries = [⟨none, "42", none, 0, none, none⟩] := by decide +kernel
  have found := quiet.handles_kept.2.2
  have stale := begun.handles_kept.2.2
  rw [handles, entries, List.forall₂_cons] at found stale
  exact ⟨quiet, begun, handles, found.1.2.1 (fun _ mem => nomatch mem),
    stale.1.2.2 ⟨_, List.mem_singleton_self _, rfl⟩⟩

end Client

end NotebookKernel.Dap
