import NotebookKernel.Text.Blank

/-!
What is cut off the ends of a text: the longest end of a kind, and nothing of the rest.
-/

namespace NotebookKernel.Text

variable {p : Char → Bool} {front rest text kept : List Char}

/-- What is cut off at the end of a text follows what is kept. -/
theorem dropWhileEnd_append_cut (p : Char → Bool) (text : List Char) :
    ∃ cut, (∀ c ∈ cut, p c = true) ∧ text = dropWhileEnd p text ++ cut := by
  refine ⟨(text.reverse.takeWhile p).reverse, fun c mem => ?_, ?_⟩
  · exact List.all_eq_true.mp List.all_takeWhile c (List.mem_reverse.mp mem)
  · have parts := congrArg List.reverse
      (List.takeWhile_append_dropWhile (p := p) (l := text.reverse))
    rw [List.reverse_append, List.reverse_reverse] at parts
    exact parts.symm

/-- A cut at the end stops at the first character that is to be kept. -/
theorem dropWhileEnd_append_of_last {c : Char} (kept : p c = false)
    (cut : ∀ d ∈ rest, p d = true) :
    dropWhileEnd p (front ++ c :: rest) = front ++ [c] := by
  have cut' : ∀ d ∈ rest.reverse, p d = true := fun d mem => cut d (List.mem_reverse.mp mem)
  unfold dropWhileEnd
  rw [List.reverse_append, List.reverse_cons, List.append_assoc,
    List.dropWhile_append_of_pos cut', List.singleton_append,
    List.dropWhile_cons_of_neg (by simp [kept])]
  simp

/-- A text all of which is of the kind is cut off. -/
theorem dropWhileEnd_of_all (cut : ∀ c ∈ text, p c = true) : dropWhileEnd p text = [] := by
  have cut' : ∀ c ∈ text.reverse, p c = true := fun c mem => cut c (List.mem_reverse.mp mem)
  unfold dropWhileEnd
  rw [← List.append_nil text.reverse, List.dropWhile_append_of_pos cut']
  rfl

/-- What is kept does not end with a character of the kind. -/
theorem last_of_dropWhileEnd {c : Char} (last : (dropWhileEnd p text).getLast? = some c) :
    p c = false := by
  unfold dropWhileEnd at last
  rw [List.getLast?_reverse] at last
  have first := List.head?_dropWhile_not p text.reverse
  rw [last] at first
  simpa using first

theorem dropWhileEnd_eq_iff :
    dropWhileEnd p text = kept ↔
      (∃ cut, (∀ c ∈ cut, p c = true) ∧ text = kept ++ cut) ∧
        ∀ c, kept.getLast? = some c → p c = false := by
  constructor
  · intro same
    subst same
    exact ⟨dropWhileEnd_append_cut p text, fun c last => last_of_dropWhileEnd last⟩
  · intro ⟨⟨cut, all, parts⟩, solid⟩
    subst parts
    rcases List.eq_nil_or_concat kept with none | ⟨front, c, parts⟩
    · subst none
      exact dropWhileEnd_of_all all
    · subst parts
      have last : p c = false := solid c (by simp)
      rw [List.concat_eq_append, List.append_assoc, List.singleton_append]
      exact dropWhileEnd_append_of_last last all

/-- White space that is trimmed stands at the ends. -/
theorem exists_trim (text : List Char) :
    ∃ before after, (∀ c ∈ before, isBlank c = true) ∧ (∀ c ∈ after, isBlank c = true) ∧
      text = before ++ trim text ++ after := by
  obtain ⟨after, blank, parts⟩ := dropWhileEnd_append_cut isBlank (text.dropWhile isBlank)
  refine ⟨text.takeWhile isBlank, after,
    fun c mem => List.all_eq_true.mp List.all_takeWhile c mem, blank, ?_⟩
  unfold trim
  rw [List.append_assoc, ← parts, List.takeWhile_append_dropWhile]

/-- A text with white space around its core, which has none at its ends. -/
structure Trimmed (text core : List Char) : Prop where
  parts : ∃ before after, (∀ c ∈ before, isBlank c = true) ∧ (∀ c ∈ after, isBlank c = true) ∧
    text = before ++ core ++ after
  first : ∀ c, core.head? = some c → isBlank c = false
  last : ∀ c, core.getLast? = some c → isBlank c = false

/-- The core is what trimming leaves. -/
theorem trim_eq_iff : trim text = kept ↔ Trimmed text kept := by
  constructor
  · intro same
    subst same
    refine ⟨exists_trim text, fun c first => ?_, fun c last => last_of_dropWhileEnd last⟩
    obtain ⟨after, -, parts⟩ := dropWhileEnd_append_cut isBlank (text.dropWhile isBlank)
    have front : (text.dropWhile isBlank).head? = some c := by
      rw [parts]
      exact List.head?_append.trans (congrArg (Option.or · _) first)
    have solid := List.head?_dropWhile_not isBlank text
    rw [front] at solid
    simpa using solid
  · intro ⟨⟨before, after, blank, blank', parts⟩, first, last⟩
    subst parts
    unfold trim
    rw [List.append_assoc, List.dropWhile_append_of_pos blank, dropWhileEnd_eq_iff]
    cases kept with
    | nil =>
      refine ⟨⟨after.dropWhile isBlank, fun c mem => ?_, rfl⟩, last⟩
      exact blank' c ((List.dropWhile_suffix _).subset mem)
    | cons c kept =>
      have solid : isBlank c = false := first c rfl
      refine ⟨⟨after, blank', ?_⟩, last⟩
      exact List.dropWhile_cons_of_neg (by simp [solid])

/-- Trimming stops at what is not white space. -/
theorem trim_of_solid {before after : List Char} (blank : ∀ c ∈ before, isBlank c = true)
    (blank' : ∀ c ∈ after, isBlank c = true) (solid : ∀ c ∈ kept, isBlank c = false) :
    trim (before ++ kept ++ after) = kept :=
  trim_eq_iff.mpr ⟨⟨before, after, blank, blank', rfl⟩,
    fun c first => solid c (List.mem_of_head? first),
    fun c last => solid c (List.mem_of_getLast? last)⟩

end NotebookKernel.Text
