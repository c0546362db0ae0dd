import NotebookKernel.Text.Blank

/-!
The words of a text by their places.

A word stands between white space and the borders of the text, with no white space in it
(`Text.Stands`). The words of a text are what stands in it, in the order of the places
(`Text.words_eq_append_cons_iff`). The first word of a kind is therefore one that stands in the text
with no word of that kind in front of it (`Text.find?_words_eq_some_iff`).
-/

namespace NotebookKernel.Text

/-- The text is at its end or goes on with white space. -/
def Parted (text : List Char) : Prop :=
  ∀ c, text.head? = some c → isBlank c = true

theorem words_blank {c : Char} (blank : isBlank c = true) (text : List Char) :
    words (c :: text) = words text :=
  (words.eq_def (c :: text)).trans (if_pos blank)

/-- A word is what stands between white space. -/
theorem words_append {word rest : List Char} (some_ : word ≠ [])
    (solid : ∀ c ∈ word, isBlank c = false) (parted : Parted rest) :
    words (word ++ rest) = word :: words rest := by
  induction word with
  | nil => exact absurd rfl some_
  | cons c cs ih =>
    obtain ⟨first, others⟩ := List.forall_mem_cons.mp solid
    rw [List.cons_append, words.eq_def]
    dsimp only
    rw [if_neg (by simp [first])]
    cases cs with
    | nil =>
      cases rest with
      | nil => rfl
      | cons d rest => exact if_pos (parted d rfl)
    | cons d cs =>
      have next : isBlank d = false := others d List.mem_cons_self
      rw [ih (List.cons_ne_nil d cs) others]
      exact if_neg (by simp [next])

/-- A text is empty, or it starts with white space, or it starts with a word. -/
theorem words_induction {motive : List Char → Prop} (nil : motive [])
    (blank : ∀ c text, isBlank c = true → motive text → motive (c :: text))
    (word : ∀ word rest, word ≠ [] → (∀ c ∈ word, isBlank c = false) → Parted rest →
      motive rest → motive (word ++ rest))
    (text : List Char) : motive text := by
  induction length : text.length using Nat.strongRecOn generalizing text with
  | ind n ih =>
    subst length
    cases text with
    | nil => exact nil
    | cons c cs =>
      by_cases first : isBlank c = true
      · exact blank c cs first (ih cs.length (Nat.lt_succ_self _) cs rfl)
      · -- the word is cut off as far as it goes, so what is left is shorter
        let solid : Char → Bool := fun c => !isBlank c
        have starts : solid c = true := by simp [solid, first]
        have front : (c :: cs).takeWhile solid = c :: cs.takeWhile solid :=
          List.takeWhile_cons_of_pos starts
        have back : (c :: cs).dropWhile solid = cs.dropWhile solid :=
          List.dropWhile_cons_of_pos starts
        have shorter : (cs.dropWhile solid).length < (c :: cs).length :=
          Nat.lt_succ_of_le (List.dropWhile_suffix solid).length_le
        rw [← List.takeWhile_append_dropWhile (p := solid) (l := c :: cs), front, back]
        refine word _ _ (List.cons_ne_nil _ _) (fun d mem => ?_) (fun d head => ?_)
          (ih _ shorter _ rfl)
        · rw [← front] at mem
          simpa [solid] using List.all_eq_true.mp List.all_takeWhile d mem
        · have stops := List.head?_dropWhile_not solid cs
          rw [head] at stops
          simpa [solid] using stops

/-! ## Places -/

/-- A word in its place: between white space and the borders of the text, with no white space in
it. -/
structure Stands (front word back : List Char) : Prop where
  nonempty : word ≠ []
  solid : ∀ c ∈ word, isBlank c = false
  before : ∀ c, front.getLast? = some c → isBlank c = true
  after : Parted back

theorem Parted.front {front back : List Char} (parted : Parted (front ++ back)) : Parted front := by
  intro c head
  apply parted c
  rw [List.head?_append, head]
  rfl

theorem Parted.append {front : List Char} (parted : Parted front) (some_ : front ≠ [])
    (back : List Char) : Parted (front ++ back) := by
  obtain ⟨d, rest, rfl⟩ := List.exists_cons_of_ne_nil some_
  exact fun c head => parted c head

namespace Stands

variable {ahead front word back : List Char}

/-- Where a word stands, the text does not go on with white space. -/
theorem not_parted (stands : Stands front word back) : ¬Parted (word ++ back) := by
  intro parted
  obtain ⟨c, cs, rfl⟩ := List.exists_cons_of_ne_nil stands.nonempty
  have solid := stands.solid c List.mem_cons_self
  have blank := parted c rfl
  exact Bool.false_ne_true (solid.symm.trans blank)

theorem of_append (stands : Stands (ahead ++ front) word back) : Stands front word back := by
  refine ⟨stands.nonempty, stands.solid, fun c last => stands.before c ?_, stands.after⟩
  rw [List.getLast?_append, last]
  rfl

/-- A word stands where it stands also when more of the text is seen in front. -/
theorem append (stands : Stands front word back)
    (ended : front = [] → ∀ c, ahead.getLast? = some c → isBlank c = true) :
    Stands (ahead ++ front) word back := by
  refine ⟨stands.nonempty, stands.solid, fun c last => ?_, stands.after⟩
  cases front with
  | nil =>
    rw [List.append_nil] at last
    exact ended rfl c last
  | cons d front =>
    rw [List.getLast?_append, List.getLast?_eq_some_getLast (List.cons_ne_nil d front)] at last
    apply stands.before c
    rw [List.getLast?_eq_some_getLast (List.cons_ne_nil d front)]
    exact last

/-- The words of a text are those in front of a place, the word that stands there, and those
behind it. -/
theorem words_eq (stands : Stands front word back) :
    words (front ++ (word ++ back)) = words front ++ word :: words back := by
  induction front using words_induction with
  | nil => exact words_append stands.nonempty stands.solid stands.after
  | blank c front blank ih =>
    rw [List.cons_append, words_blank blank, words_blank blank]
    have inner : Stands ([c] ++ front) word back := stands
    exact ih inner.of_append
  | word first rest some_ solid parted ih =>
    have rest_ : rest ≠ [] := by
      rintro rfl
      rw [List.append_nil] at stands
      have last := List.getLast?_eq_some_getLast some_
      have blank := stands.before _ last
      exact Bool.false_ne_true ((solid _ (List.getLast_mem some_)).symm.trans blank)
    rw [List.append_assoc, words_append some_ solid (parted.append rest_ _),
      words_append some_ solid parted, ih stands.of_append, List.cons_append]

end Stands

/-- The words of a text are what stands in it, in the order of the places. -/
theorem words_eq_append_cons_iff {text word : List Char} {ws vs : List (List Char)} :
    words text = ws ++ word :: vs ↔
      ∃ front back, text = front ++ (word ++ back) ∧ Stands front word back ∧
        words front = ws ∧ words back = vs := by
  constructor
  · intro eq
    induction text using words_induction generalizing ws with
    | nil => exact absurd eq.symm (List.append_ne_nil_of_right_ne_nil ws (List.cons_ne_nil word vs))
    | blank c text blank ih =>
      rw [words_blank blank] at eq
      obtain ⟨front, back, rfl, stands, rfl, rfl⟩ := ih eq
      have start : ∀ d, [c].getLast? = some d → isBlank d = true := by
        rintro d last
        rwa [← Option.some.inj last]
      exact ⟨c :: front, back, rfl, stands.append fun _ => start, words_blank blank front, rfl⟩
    | word first rest some_ solid parted ih =>
      rw [words_append some_ solid parted] at eq
      cases ws with
      | nil =>
        obtain ⟨rfl, rfl⟩ := List.cons.inj eq
        exact ⟨[], rest, rfl, ⟨some_, solid, nofun, parted⟩, rfl, rfl⟩
      | cons w ws =>
        obtain ⟨rfl, others⟩ := List.cons.inj eq
        obtain ⟨front, back, rfl, stands, rfl, rfl⟩ := ih others
        have apart : front ≠ [] := by
          rintro rfl
          exact stands.not_parted parted
        exact ⟨first ++ front, back, (List.append_assoc ..).symm,
          stands.append fun empty => absurd empty apart,
          words_append some_ solid parted.front, rfl⟩
  · rintro ⟨front, back, rfl, stands, rfl, rfl⟩
    exact stands.words_eq

theorem mem_words_iff {text word : List Char} :
    word ∈ words text ↔
      ∃ front back, text = front ++ (word ++ back) ∧ Stands front word back := by
  rw [List.mem_iff_append]
  constructor
  · rintro ⟨ws, vs, eq⟩
    obtain ⟨front, back, parts, stands, -, -⟩ := words_eq_append_cons_iff.mp eq
    exact ⟨front, back, parts, stands⟩
  · rintro ⟨front, back, rfl, stands⟩
    exact ⟨words front, words back, stands.words_eq⟩

/-! ## The first word of a kind -/

/-- The word is the first of its kind in the text: it stands there, and no word of the kind stands
in front of it. -/
def FirstWord (kind : List Char → Prop) (text word : List Char) : Prop :=
  ∃ front back, text = front ++ (word ++ back) ∧ Stands front word back ∧ kind word ∧
    ∀ front' word' back', front = front' ++ (word' ++ back') → Stands front' word' back' →
      ¬kind word'

theorem find?_words_eq_some_iff {kind : List Char → Bool} {text word : List Char} :
    (words text).find? kind = some word ↔ FirstWord (fun word => kind word = true) text word := by
  have none_ahead : ∀ front : List Char, (∀ w ∈ words front, (!kind w) = true) ↔
      ∀ front' word' back', front = front' ++ (word' ++ back') → Stands front' word' back' →
        ¬kind word' = true := by
    intro front
    constructor
    · intro none_ front' word' back' parts stands
      simpa using none_ word' (mem_words_iff.mpr ⟨front', back', parts, stands⟩)
    · intro none_ w mem
      obtain ⟨front', back', parts, stands⟩ := mem_words_iff.mp mem
      simpa using none_ front' w back' parts stands
  rw [List.find?_eq_some_iff_append]
  constructor
  · rintro ⟨found, ws, vs, eq, others⟩
    obtain ⟨front, back, parts, stands, rfl, -⟩ := words_eq_append_cons_iff.mp eq
    exact ⟨front, back, parts, stands, found, (none_ahead front).mp others⟩
  · rintro ⟨front, back, rfl, stands, found, others⟩
    exact ⟨found, words front, words back, stands.words_eq, (none_ahead front).mpr others⟩

end NotebookKernel.Text
