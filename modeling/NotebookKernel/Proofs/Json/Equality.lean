import NotebookKernel.Json

/-!
Equality of JSON values can be computed.
-/

namespace NotebookKernel.Json

mutual

/-- Two values are the same. -/
def agree : Json → Json → Bool
  | null, null => true
  | bool a, bool b => a = b
  | int a, int b => a = b
  | float a, float b => a = b
  | str a, str b => a = b
  | arr a, arr b => agreeItems a b
  | obj a, obj b => agreeFields a b
  | _, _ => false

/-- Two lists of values are the same. -/
def agreeItems : List Json → List Json → Bool
  | [], [] => true
  | a :: as, b :: bs => agree a b && agreeItems as bs
  | _, _ => false

/-- Two lists of fields are the same. -/
def agreeFields : List (String × Json) → List (String × Json) → Bool
  | [], [] => true
  | (k, a) :: as, (l, b) :: bs => k = l && agree a b && agreeFields as bs
  | _, _ => false

end

mutual

theorem agree_iff (a b : Json) : agree a b = true ↔ a = b := by
  cases a with
  | arr as => cases b <;> simp [agree, agreeItems_iff as]
  | obj as => cases b <;> simp [agree, agreeFields_iff as]
  | _ => cases b <;> simp [agree]

theorem agreeItems_iff (as bs : List Json) : agreeItems as bs = true ↔ as = bs := by
  cases as with
  | nil => cases bs <;> simp [agreeItems]
  | cons a as => cases bs <;> simp [agreeItems, agree_iff a, agreeItems_iff as]

theorem agreeFields_iff (as bs : List (String × Json)) : agreeFields as bs = true ↔ as = bs := by
  cases as with
  | nil => cases bs <;> simp [agreeFields]
  | cons a as =>
    rcases a with ⟨k, a⟩
    cases bs with
    | nil => simp [agreeFields]
    | cons b bs =>
      rcases b with ⟨l, b⟩
      simp [agreeFields, agree_iff a, agreeFields_iff as]

end

instance : DecidableEq Json := fun a b => decidable_of_iff _ (agree_iff a b)

end NotebookKernel.Json
