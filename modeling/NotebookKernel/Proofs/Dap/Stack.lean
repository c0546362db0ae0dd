import NotebookKernel.Proofs.Dap.Buffers

/-!
The stack trace that a user is shown.

A debugger tells the frames of a thread with any of their fields missing or mistyped. The client
makes a text of each, under its index in the whole stack, and the session leaves out those without a
source that a user can look at. `Client.Shows` says which frames are shown, and as what;
`Client.mainTrace_shown` says that a trace has exactly their texts, in the order of the stack.
-/

namespace NotebookKernel

namespace Path

/-! ## Texts of one path -/

/-- Slashes and single dots behind a name, which do not change the path. -/
inductive Idle : List Char → Prop
  | nil : Idle []
  | slash {tail : List Char} : Idle tail → Idle ('/' :: tail)
  | dot {tail : List Char} : Idle tail → Idle ('/' :: '.' :: tail)

/-- A piece of a path that does not count behind the first name. -/
def IsIdle (piece : List Char) : Prop :=
  piece = [] ∨ piece = ['.']

variable {front name path : List Char}

theorem pieces_append_slash (solid : '/' ∉ front) (rest : List Char) :
    pieces (front ++ '/' :: rest) = front :: pieces rest := by
  induction front with
  | nil => rfl
  | cons c front ih =>
    have plain : c ≠ '/' := fun same => solid (same ▸ List.mem_cons_self)
    rw [List.cons_append, pieces, if_neg plain, ih fun mem => solid (List.mem_cons_of_mem c mem)]

theorem pieces_solid (solid : '/' ∉ front) : pieces front = [front] := by
  induction front with
  | nil => rfl
  | cons c front ih =>
    have plain : c ≠ '/' := fun same => solid (same ▸ List.mem_cons_self)
    rw [pieces, if_neg plain, ih fun mem => solid (List.mem_cons_of_mem c mem)]

theorem Idle.pieces_eq {tail : List Char} (idle : Idle tail) (solid : '/' ∉ front) :
    ∃ others, pieces (front ++ tail) = front :: others ∧ ∀ piece ∈ others, IsIdle piece := by
  induction idle generalizing front with
  | nil =>
    rw [List.append_nil, pieces_solid solid]
    exact ⟨[], rfl, List.forall_mem_nil _⟩
  | @slash tail _ ih =>
    obtain ⟨others, same, all⟩ := @ih [] List.not_mem_nil
    rw [pieces_append_slash solid]
    refine ⟨_, rfl, ?_⟩
    change ∀ piece ∈ pieces ([] ++ tail), _
    rw [same]
    exact List.forall_mem_cons.mpr ⟨.inl rfl, all⟩
  | @dot tail _ ih =>
    obtain ⟨others, same, all⟩ := @ih ['.'] (by decide)
    rw [pieces_append_slash solid]
    refine ⟨_, rfl, ?_⟩
    change ∀ piece ∈ pieces (['.'] ++ tail), _
    rw [same]
    exact List.forall_mem_cons.mpr ⟨.inr rfl, all⟩

/-- Every text starts with one of its pieces, and another follows behind a slash. -/
theorem exists_pieces (path : List Char) :
    ∃ front, '/' ∉ front ∧ (path = front ∨ ∃ rest, path = front ++ '/' :: rest) := by
  induction path with
  | nil => exact ⟨[], List.not_mem_nil, .inl rfl⟩
  | cons c path ih =>
    by_cases slash : c = '/'
    · exact ⟨[], List.not_mem_nil, .inr ⟨path, by rw [slash, List.nil_append]⟩⟩
    · obtain ⟨front, solid, cut⟩ := ih
      refine ⟨c :: front, ?_, ?_⟩
      · intro mem
        rcases List.mem_cons.mp mem with same | mem
        · exact slash same.symm
        · exact solid mem
      · rcases cut with whole | ⟨rest, cut⟩
        · exact .inl (by rw [whole])
        · exact .inr ⟨rest, by rw [cut, List.cons_append]⟩

theorem idle_of_pieces (rest : List Char) (all : ∀ piece ∈ pieces rest, IsIdle piece) :
    Idle ('/' :: rest) := by
  obtain ⟨front, solid, whole | ⟨later, cut⟩⟩ := exists_pieces rest
  · rw [whole, pieces_solid solid] at all
    rcases all front List.mem_cons_self with same | same
    · rw [whole, same]
      exact .slash .nil
    · rw [whole, same]
      exact .dot .nil
  · rw [cut, pieces_append_slash solid, List.forall_mem_cons] at all
    have shorter : later.length < rest.length := by
      rw [cut, List.length_append, List.length_cons]
      omega
    have idle := idle_of_pieces later all.2
    rcases all.1 with same | same
    · rw [cut, same]
      exact .slash idle
    · rw [cut, same]
      exact .dot idle
termination_by rest.length

/-- A path that starts with a name is this name and the others that count. -/
theorem components_append {tail : List Char} {others : List (List Char)} (some : front ≠ [])
    (solid : '/' ∉ front) (cut : pieces (front ++ tail) = front :: others) :
    components (front ++ tail) =
      ⟨false, front :: (others.filter (· ≠ [])).filter (· ≠ ['.'])⟩ := by
  have relative : isAbsolute (front ++ tail) = false := by
    cases front with
    | nil => exact absurd rfl some
    | cons c front =>
      have plain : c ≠ '/' := fun same => solid (same ▸ List.mem_cons_self)
      simp [isAbsolute, plain]
  simp [components, cut, relative, some]

/-- A text denotes the path of a name if it is this name with nothing behind it that counts. -/
theorem components_eq_iff (some : name ≠ []) (solid : '/' ∉ name) :
    components path = components name ↔ ∃ tail, path = name ++ tail ∧ Idle tail := by
  have whole : components name = ⟨false, [name]⟩ := by
    have cut : pieces (name ++ []) = [name] := by
      rw [List.append_nil, pieces_solid solid]
    simpa using components_append some solid cut
  rw [whole]
  constructor
  · intro same
    obtain ⟨front, solid', cut⟩ := exists_pieces path
    by_cases empty : front = []
    · -- the path is empty or starts at the root
      rw [empty] at cut
      rcases cut with cut | ⟨rest, cut⟩
      · rw [cut] at same
        cases same
      · rw [cut] at same
        cases congrArg Components.absolute same
    · rcases cut with cut | ⟨rest, cut⟩
      · have pieces_ : pieces (front ++ []) = [front] := by
          rw [List.append_nil, pieces_solid solid']
        rw [cut, ← List.append_nil front, components_append empty solid' pieces_] at same
        cases same
        exact ⟨[], by rw [cut, List.append_nil], .nil⟩
      · have pieces_ := pieces_append_slash solid' rest
        rw [cut, components_append empty solid' pieces_] at same
        obtain ⟨rfl, none⟩ := List.cons.inj (Components.mk.inj same).2
        refine ⟨_, cut, idle_of_pieces rest ?_⟩
        intro piece mem
        by_contra counts
        obtain ⟨some', other⟩ := not_or.mp counts
        have left : piece ∈ ((pieces rest).filter (· ≠ [])).filter (· ≠ ['.']) := by
          simp [mem, some', other]
        rw [none] at left
        exact List.not_mem_nil left
  · intro ⟨tail, cut, idle⟩
    obtain ⟨others, pieces_, all⟩ := idle.pieces_eq solid
    have none : (others.filter (· ≠ [])).filter (· ≠ ['.']) = [] := by
      rw [List.filter_filter, List.filter_eq_nil_iff]
      intro piece mem
      rcases all piece mem with same | same
      · simp [same]
      · simp [same]
    rw [cut, components_append some solid pieces_, none]

end Path

/-! ## Frames that are shown -/

/-- The text denotes the file that the compiler names as the source of library code. -/
def Frame.Hides (file : String) : Prop :=
  ∃ tail, file.toList = Frame.hiddenFile.toList ++ tail ∧ Path.Idle tail

theorem Frame.same_hiddenFile_iff {file : String} :
    Path.same file Frame.hiddenFile = true ↔ Frame.Hides file := by
  rw [Path.same, decide_eq_true_iff]
  exact Path.components_eq_iff (by decide) (by decide)

namespace Dap.Client

/-- The text by which a debugger names the source of a frame: its path, else its name. -/
inductive SourceText (source : Json) : String → Prop
  | path {text : String} : (source.get "path").text? = some text → SourceText source text
  | name {text : String} : (source.get "path").text? = none →
    (source.get "name").text? = some text → SourceText source text

/-- The text of a frame with a line and a source. The frame may lack a name and a column. -/
def frameText (index : Nat) (frame : Json) (file : String) (line : Nat) : String :=
  let column := (frame.get "column").word64?.getD 0
  s!"frame #{index}: " ++ (frame.get "name").text?.getD "???" ++ " at " ++ file ++
    s!":{line}:{column}"

/-- The frame with this index in its stack is shown as this text: it has a line, and a source that a
user can look at. -/
inductive Shows (index : Nat) (frame : Json) : String → Prop
  | visible {line : Nat} {file : String} : frame.get "line" = .int line → 0 < line →
    line < 2 ^ 64 → SourceText (frame.get "source") file → ¬ Frame.Hides file →
    Shows index frame (frameText index frame file line)

theorem sourceText_iff {source : Json} {text : String} :
    SourceText source text ↔
      (source.get "path").text?.or (source.get "name").text? = some text := by
  constructor
  · intro names
    cases names with
    | path found => rw [found, Option.some_or]
    | name missing found => rw [missing, Option.none_or, found]
  · intro same
    cases found : (source.get "path").text? with
    | some path =>
      rw [found, Option.some_or] at same
      exact .path (found.trans same)
    | none =>
      rw [found, Option.none_or] at same
      exact .name found same

theorem word64?_eq_some_iff {j : Json} {n : Nat} :
    j.word64? = some n ↔ j = .int n ∧ n < 2 ^ 64 := by
  constructor
  · intro same
    cases j with
    | int m =>
      obtain ⟨⟨lower, upper⟩, same⟩ := Option.ite_none_right_eq_some.mp same
      cases same
      change m < (2 : Int) ^ 64 at upper
      exact ⟨by rw [Int.toNat_of_nonneg lower], by omega⟩
    | _ => cases same
  · intro ⟨same, upper⟩
    have bounded : (n : Int) < Int.pow 2 64 := Int.ofNat_lt.mpr upper
    rw [same, Json.word64?, if_pos ⟨Int.natCast_nonneg n, bounded⟩, Int.toNat_natCast]

variable {index : Nat} {frame : Json} {text : String}

/-- The client decodes a frame with a line and a source in full. -/
theorem frameOf_sourced {line : Nat} {file : String}
    (lined : (frame.get "line").word64?.filter (0 < ·) = some line)
    (names : SourceText (frame.get "source") file) :
    frameOf index frame = ⟨frameText index frame file line, some file, some line⟩ := by
  simp only [frameOf, lined, sourceText_iff.mp names, Option.isSome_some, if_true]
  rfl

/-- A frame of which the client knows the source has a line. -/
theorem exists_of_file {file : String} (sourced : (frameOf index frame).file = some file) :
    ∃ line, (frame.get "line").word64?.filter (0 < ·) = some line ∧
      SourceText (frame.get "source") file := by
  obtain ⟨lined, names⟩ := Option.ite_none_right_eq_some.mp sourced
  obtain ⟨line, lined⟩ := Option.isSome_iff_exists.mp lined
  exact ⟨line, lined, sourceText_iff.mpr names⟩

theorem shows_iff :
    Shows index frame text ↔
      (frameOf index frame).isVisible = true ∧ (frameOf index frame).description = text := by
  constructor
  · intro shows_
    cases shows_ with
    | @visible line file number positive bounded names visible =>
      have lined : (frame.get "line").word64?.filter (0 < ·) = some line := by
        rw [word64?_eq_some_iff.mpr ⟨number, bounded⟩]
        simp [positive]
      rw [frameOf_sourced lined names]
      refine ⟨?_, rfl⟩
      rw [← Frame.same_hiddenFile_iff] at visible
      simpa [Frame.isVisible] using visible
  · intro ⟨visible, described⟩
    cases sourced : (frameOf index frame).file with
    | none =>
      rw [Frame.isVisible, sourced] at visible
      cases visible
    | some file =>
      obtain ⟨line, lined, names⟩ := exists_of_file sourced
      rw [Frame.isVisible, sourced] at visible
      have shown : ¬ Frame.Hides file := by
        rw [← Frame.same_hiddenFile_iff]
        simpa using visible
      obtain ⟨number, positive⟩ := Option.filter_eq_some_iff.mp lined
      obtain ⟨number, bounded⟩ := word64?_eq_some_iff.mp number
      rw [frameOf_sourced lined names] at described
      rw [← described]
      exact .visible number (of_decide_eq_true positive) bounded names shown

/-! ## Traces -/

/-- The frames that a body tells, innermost first. -/
def stackOf (body : Json) : List Json :=
  (body.get "stackFrames").items?.getD []

/-- The texts of the frames that are shown, each with its index in the whole stack. -/
def shownOf (frames : List Json) : List (Nat × String) :=
  (frames.zipIdx.filter fun (frame, index) => (frameOf index frame).isVisible).map
    fun (frame, index) => (index, (frameOf index frame).description)

theorem framesOf_eq (start : Nat) (frames : List Json) :
    framesOf start frames =
      (frames.zipIdx start).map fun (frame, index) => frameOf index frame := by
  induction frames generalizing start with
  | nil => rfl
  | cons frame rest ih => rw [framesOf, List.zipIdx_cons, List.map_cons, ih]

theorem visible_framesOf (frames : List Json) :
    Frame.visible (framesOf 0 frames) = (shownOf frames).map Prod.snd := by
  rw [Frame.visible, framesOf_eq, shownOf, List.filter_map, List.map_map, List.map_map]
  rfl

/-- The frames that are shown are all there is in a trace. -/
theorem mem_shownOf_iff {frames : List Json} :
    (index, text) ∈ shownOf frames ↔
      ∃ frame, frames[index]? = some frame ∧ Shows index frame text := by
  simp only [shownOf, List.mem_map, List.mem_filter, List.mem_zipIdx_iff_getElem?, shows_iff]
  constructor
  · intro ⟨⟨frame, place⟩, ⟨there, visible⟩, same⟩
    cases same
    exact ⟨frame, there, visible, rfl⟩
  · intro ⟨frame, there, visible, described⟩
    exact ⟨(frame, index), ⟨there, visible⟩, Prod.ext rfl described⟩

theorem pairwise_shownOf (frames : List Json) :
    (shownOf frames).Pairwise fun a b => a.1 < b.1 := by
  have places : frames.zipIdx.Pairwise fun a b => a.2 < b.2 := by
    rw [← List.pairwise_map, List.zipIdx_map_snd]
    exact List.pairwise_lt_range'
  exact List.pairwise_map.mpr (places.filter _)

/-- The arguments of a request for all frames of a thread. -/
def threadArguments (thread : ThreadId) : Json :=
  .object [("threadId", .int thread.number)]

variable {others : (r : Host.Request) → Host.Answer r} {c : Client} {r : Response} {seq : Nat}

theorem frames_eq (thread : ThreadId) :
    frames thread = (requestBody "stackTrace" (threadArguments thread)).bind fun body =>
      .done ((fun body => framesOf 0 (stackOf body)) <$> body) := by
  refine congrArg (Program.bind _) (funext fun body => ?_)
  cases body <;> rfl

/-- To the connection, a trace is made of the frames that the client is told. -/
theorem served_mainTrace (session : Session) (c : Client) :
    served others session.mainTrace.run c =
      (frames session.mainThread).bind fun result => .done (Frame.visible <$> result, c) := by
  have steps : session.mainTrace.run = (Act.debugger (.frames session.mainThread)).bind
      fun result => .done (Frame.visible <$> result) := by
    refine congrArg (Program.bind _) (funext fun result => ?_)
    cases result <;> rfl
  rw [steps, served_bind, served_debugger]
  exact Program.bind_assoc _ _ _

/-- Whatever a debugger tells of the main thread, there is one trace. It has the texts of the frames
that are shown, each under its index in the whole stack, and these indices go up. -/
theorem mainTrace_shown (others : (r : Host.Request) → Host.Answer r) (session : Session)
    (c : Client) (seq : Nat) (success : r.success = true) :
    ∃ shown : List (Nat × String),
      (∀ result, (served others session.mainTrace.run c).Gives
        (asked "stackTrace" (threadArguments session.mainThread) seq (some r)) result ↔
          result = (.ok (shown.map Prod.snd), c)) ∧
      shown.Pairwise (fun a b => a.1 < b.1) ∧
      ∀ index text, (index, text) ∈ shown ↔
        ∃ frame, (stackOf r.body)[index]? = some frame ∧ Shows index frame text := by
  refine ⟨shownOf (stackOf r.body), ?_, pairwise_shownOf _, fun _ _ => mem_shownOf_iff⟩
  have told : bodyOf "stackTrace" r = .ok r.body := if_pos success
  have whole : (served others session.mainTrace.run c).Gives
      (asked "stackTrace" (threadArguments session.mainThread) seq (some r))
      (.ok ((shownOf (stackOf r.body)).map Prod.snd), c) := by
    rw [served_mainTrace, frames_eq, Program.bind_assoc]
    refine Program.gives_convert_iff.mpr ⟨bodyOf "stackTrace" r, ?_, ?_⟩
    · exact requestBody_gives_iff.mpr ⟨_, .answered seq r, rfl⟩
    · rw [told, ← visible_framesOf]
      rfl
  intro result
  constructor
  · exact whole.unique
  · intro same
    rw [same]
    exact whole

/-- A response with frames that are not shown: one of the compiler's and one without a line. -/
def mixedStack : Response where
  requestSeq := 1
  success := true
  command := ""
  message := none
  body := .obj [("stackFrames", .arr [
    .obj [("source", .obj [("path", .str "<compiler-generated>/.")]), ("line", .int 3)],
    .obj [("name", .str "crash()"), ("source", .obj [("name", .str "<Cell 2>")]),
      ("line", .int 4), ("column", .int 9)],
    .obj [("name", .str "libc"), ("source", .obj [("path", .str "/lib/libc.so")]),
      ("line", .int 0)],
    .obj [("source", .obj [("path", .str "/src/main.swift")]), ("line", .int 1)]])]

/-- The trace of a thread, as it comes to the connection. -/
def tracing : LinkAct (Except Error (List String) × Client) :=
  served Host.constant (Session.mainTrace ⟨⟨1⟩, default, none⟩).run Client.fresh

/-- The other two keep their indices. -/
theorem mainTrace_shown_mixed :
    ∃ shown : List (Nat × String),
      shown.map Prod.snd =
        ["frame #1: crash() at <Cell 2>:4:9", "frame #3: ??? at /src/main.swift:1:0"] ∧
      ∀ index text, (index, text) ∈ shown ↔
        ∃ frame, (stackOf mixedStack.body)[index]? = some frame ∧ Shows index frame text := by
  have success : mixedStack.success = true := rfl
  obtain ⟨shown, runs, -, all⟩ :=
    mainTrace_shown Host.constant ⟨⟨1⟩, default, none⟩ Client.fresh 1 success
  have run : tracing.Gives (asked "stackTrace" (threadArguments ⟨1⟩) 1 (some mixedStack))
      (tracing.play (obliging mixedStack.body)).2 := by
    have played := Program.gives_play (obliging mixedStack.body) tracing
    exact played
  have texts : (tracing.play (obliging mixedStack.body)).2.1 = .ok (shown.map Prod.snd) :=
    congrArg Prod.fst ((runs _).mp run)
  have found : (tracing.play (obliging mixedStack.body)).2.1.toOption =
      some ["frame #1: crash() at <Cell 2>:4:9", "frame #3: ??? at /src/main.swift:1:0"] := by
    decide +kernel
  rw [texts] at found
  exact ⟨shown, Option.some.inj found, all⟩

end Dap.Client

end NotebookKernel
