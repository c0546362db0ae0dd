/-!
White space, and what is cut along it: trimming, words and lines.
-/

namespace NotebookKernel.Text

/-- The characters with the Unicode property White_Space. -/
def isBlank (c : Char) : Bool :=
  let n := c.toNat
  (0x09 ≤ n && n ≤ 0x0D) || n = 0x20 || n = 0x85 || n = 0xA0 || n = 0x1680 ||
    (0x2000 ≤ n && n ≤ 0x200A) || n = 0x2028 || n = 0x2029 || n = 0x202F || n = 0x205F ||
    n = 0x3000

/-- Without the characters at the end that satisfy `p`. -/
def dropWhileEnd (p : Char → Bool) (text : List Char) : List Char :=
  (text.reverse.dropWhile p).reverse

/-- Without white space at either end. -/
def trim (text : List Char) : List Char :=
  dropWhileEnd isBlank (text.dropWhile isBlank)

/-- The words of a text: its longest runs of characters that are not white space. -/
def words : List Char → List (List Char)
  | [] => []
  | c :: cs =>
    if isBlank c then words cs
    else
      match cs with
      | [] => [[c]]
      | d :: _ =>
        if isBlank d then [c] :: words cs
        else
          match words cs with
          | [] => [[c]]
          | w :: ws => (c :: w) :: ws

/-- The lines of a text: the pieces between line feeds. There is always at least one. -/
def lines : List Char → List (List Char)
  | [] => [[]]
  | c :: cs =>
    if c = '\n' then [] :: lines cs
    else
      match lines cs with
      | [] => [[c]]
      | l :: ls => (c :: l) :: ls

/-- Lines joined by line feeds. -/
def unlines : List (List Char) → List Char
  | [] => []
  | [l] => l
  | l :: ls => l ++ '\n' :: unlines ls

/-- What follows `lead` in a text that starts with it. -/
def dropLead? (lead text : List Char) : Option (List Char) :=
  match lead, text with
  | [], text => some text
  | _ :: _, [] => none
  | a :: lead, b :: text => if a = b then dropLead? lead text else none

theorem lines_ne_nil (text : List Char) : lines text ≠ [] := by
  cases text with
  | nil => simp [lines]
  | cons c cs =>
    rw [lines]
    split
    · simp
    · split <;> simp

theorem unlines_lines (text : List Char) : unlines (lines text) = text := by
  induction text with
  | nil => rfl
  | cons c cs ih =>
    rw [lines]
    split
    · next h =>
      cases hl : lines cs with
      | nil => exact absurd hl (lines_ne_nil cs)
      | cons l ls =>
        rw [hl] at ih
        simp [unlines, ih, h]
    · split
      · next hl => exact absurd hl (lines_ne_nil cs)
      · next l ls hl =>
        rw [hl] at ih
        cases ls with
        | nil => simpa [unlines] using ih
        | cons m ms => simpa [unlines] using ih

theorem unlines_cons_cons (l m : List Char) (ls : List (List Char)) :
    unlines (l :: m :: ls) = l ++ '\n' :: unlines (m :: ls) :=
  rfl

theorem dropLead?_eq_some_iff {lead text rest : List Char} :
    dropLead? lead text = some rest ↔ text = lead ++ rest := by
  induction lead generalizing text with
  | nil => simp [dropLead?]
  | cons a lead ih =>
    cases text with
    | nil => simp [dropLead?]
    | cons b text =>
      by_cases h : a = b
      · simp [dropLead?, h, ih]
      · simp [dropLead?, h, Ne.symm h]

theorem dropLead?_append (lead rest : List Char) : dropLead? lead (lead ++ rest) = some rest :=
  dropLead?_eq_some_iff.mpr rfl

/-- A line feed separates the lines before it from those after it. -/
theorem lines_append_lineFeed (left right : List Char) :
    lines (left ++ '\n' :: right) = lines left ++ lines right := by
  induction left with
  | nil => simp [lines]
  | cons c cs ih =>
    rw [List.cons_append, lines, lines, ih]
    by_cases h : c = '\n'
    · simp [h]
    · cases hl : lines cs with
      | nil => exact absurd hl (lines_ne_nil cs)
      | cons l ls => simp [h]

/-- A text without line feeds is one line. -/
theorem lines_of_not_mem {text : List Char} (h : '\n' ∉ text) : lines text = [text] := by
  induction text with
  | nil => rfl
  | cons c cs ih =>
    have hc : c ≠ '\n' := fun e => h (e ▸ List.mem_cons_self)
    have hcs : '\n' ∉ cs := fun m => h (List.mem_cons_of_mem _ m)
    rw [lines, if_neg hc, ih hcs]

theorem not_mem_of_mem_lines {text line : List Char} (h : line ∈ lines text) : '\n' ∉ line := by
  induction text generalizing line with
  | nil =>
    rw [lines, List.mem_singleton] at h
    simp [h]
  | cons c cs ih =>
    rw [lines] at h
    by_cases hc : c = '\n'
    · rw [if_pos hc] at h
      rcases List.mem_cons.mp h with rfl | h
      · simp
      · exact ih h
    · rw [if_neg hc] at h
      cases hl : lines cs with
      | nil => exact absurd hl (lines_ne_nil cs)
      | cons l ls =>
        simp only [hl] at h
        rcases List.mem_cons.mp h with rfl | h
        · exact List.not_mem_cons_of_ne_of_not_mem (Ne.symm hc) (ih (by simp [hl]))
        · exact ih (by simp [hl, h])

/-- Pieces joined by line feeds have the lines of the pieces, in order. -/
theorem lines_unlines {pieces : List (List Char)} (h : pieces ≠ []) :
    lines (unlines pieces) = pieces.flatMap lines := by
  induction pieces with
  | nil => exact absurd rfl h
  | cons piece rest ih =>
    cases rest with
    | nil => simp [unlines]
    | cons next rest =>
      rw [unlines_cons_cons, lines_append_lineFeed, ih (by simp)]
      rfl

theorem toList_intercalate_lineFeed (pieces : List String) :
    ("\n".intercalate pieces).toList = unlines (pieces.map String.toList) := by
  rw [String.toList_intercalate]
  induction pieces with
  | nil => rfl
  | cons piece rest ih =>
    cases rest with
    | nil => simp [unlines]
    | cons next rest =>
      simp only [List.map_cons] at ih ⊢
      rw [List.intercalate_cons_cons, ih, unlines_cons_cons]
      simp

end NotebookKernel.Text
