import NotebookKernel.Json

/-!
The fields of an object.

The fields of an object stand in the order of their keys, and of two fields with one name the later
counts. `Json.get_object` says what can be read from such an object, so no one else has to look at
the order. A value that has this form already keeps it (`Json.canonical_eq_self`).
-/

namespace NotebookKernel.Json

theorem lookup_cons_ite (key name : String) (value : Json) (fields : List (String × Json)) :
    ((name, value) :: fields).lookup key =
      if key = name then some value else fields.lookup key := by
  rw [List.lookup_cons]
  by_cases same : key = name
  · rw [if_pos same, beq_iff_eq.mpr same]
  · rw [if_neg same, beq_eq_false_iff_ne.mpr same]

/-- A field that is set has its value, and no other field is touched. -/
theorem lookup_insertField (key name : String) (value : Json) (fields : List (String × Json)) :
    (insertField name value fields).lookup key =
      if key = name then some value else fields.lookup key := by
  induction fields with
  | nil => exact lookup_cons_ite key name value []
  | cons field rest ih =>
    obtain ⟨other, old⟩ := field
    rw [insertField]
    split
    · exact lookup_cons_ite key name value _
    split
    · next same =>
      subst same
      rw [lookup_cons_ite, lookup_cons_ite]
      split <;> rfl
    · next distinct =>
      rw [lookup_cons_ite, lookup_cons_ite, ih]
      by_cases here : key = name
      · have beside : key ≠ other := fun there => distinct (here.symm.trans there)
        rw [if_neg beside, if_pos here, if_pos here]
      · rw [if_neg here, if_neg here]

/-- From an object the last of the fields with a name is read. -/
theorem get_object (key : String) (fields : List (String × Json)) :
    (object fields).get key = (fields.reverse.lookup key).getD null := by
  -- the fields are set one after the other, so the induction is on those that are set already
  have set : ∀ sorted : List (String × Json),
      (fields.foldl (fun sorted field => insertField field.1 field.2 sorted) sorted).lookup key =
        (fields.reverse ++ sorted).lookup key := by
    induction fields with
    | nil => exact fun _ => rfl
    | cons field rest ih =>
      intro sorted
      rw [List.foldl_cons, ih, List.reverse_cons, List.append_assoc, List.lookup_append,
        List.lookup_append, lookup_insertField, List.singleton_append, lookup_cons_ite]
  have sorted := set []
  rw [List.append_nil] at sorted
  rw [object, get, sortFields, sorted]

/-- The canonical form of an object is read field by field. -/
theorem get_canonical (key : String) (fields : List (String × Json)) :
    (canonical (obj fields)).get key = ((canonicalFields fields).reverse.lookup key).getD null :=
  get_object key (canonicalFields fields)

/-! ## Values that are sorted already -/

mutual

/-- The keys of every object are sorted and distinct. -/
def Sorted : Json → Prop
  | arr items => SortedItems items
  | obj fields => fields.Pairwise (·.1 < ·.1) ∧ SortedFields fields
  | _ => True

/-- Every item is sorted. -/
def SortedItems : List Json → Prop
  | [] => True
  | j :: rest => Sorted j ∧ SortedItems rest

/-- Every field's value is sorted. -/
def SortedFields : List (String × Json) → Prop
  | [] => True
  | (_, j) :: rest => Sorted j ∧ SortedFields rest

end

theorem sortedItems_map {α : Type} {f : α → Json} (all : ∀ a, (f a).Sorted) (l : List α) :
    SortedItems (l.map f) := by
  induction l with
  | nil => exact True.intro
  | cons a l ih => exact ⟨all a, ih⟩

theorem sortedFields_map {α : Type} {f : α → String × Json} (all : ∀ a, (f a).2.Sorted) (l : List α) :
    SortedFields (l.map f) := by
  induction l with
  | nil => exact True.intro
  | cons a l ih => exact ⟨all a, ih⟩

/-- A field behind all others in the order is set at the end. -/
theorem insertField_last {key : String} {value : Json} {fields : List (String × Json)}
    (last : ∀ f ∈ fields, f.1 < key) :
    insertField key value fields = fields ++ [(key, value)] := by
  induction fields with
  | nil => rfl
  | cons field rest ih =>
    obtain ⟨name, old⟩ := field
    rw [List.forall_mem_cons] at last
    have notBefore : ¬ key < name := String.lt_asymm last.1
    have other : key ≠ name := fun same => String.lt_irrefl name (same ▸ last.1)
    rw [insertField, if_neg notBefore, if_neg other, ih last.2, List.cons_append]

theorem sortFields_eq_self {fields : List (String × Json)}
    (sorted : fields.Pairwise (·.1 < ·.1)) : sortFields fields = fields := by
  have set : ∀ front : List (String × Json), (front ++ fields).Pairwise (·.1 < ·.1) →
      fields.foldl (fun sorted f => insertField f.1 f.2 sorted) front = front ++ fields := by
    clear sorted
    induction fields with
    | nil => exact fun front _ => (List.append_nil front).symm
    | cons field rest ih =>
      intro front sorted
      have last : ∀ f ∈ front, f.1 < field.1 := fun f mem =>
        (List.pairwise_append.mp sorted).2.2 f mem field List.mem_cons_self
      have order : front ++ [field] ++ rest = front ++ field :: rest :=
        (List.append_cons front field rest).symm
      rw [List.foldl_cons, insertField_last last, ← order]
      exact ih (front ++ [field]) (order ▸ sorted)
  exact set [] sorted

mutual

/-- A sorted value is in canonical form. -/
theorem canonical_eq_self (j : Json) (sorted : j.Sorted) : canonical j = j := by
  cases j with
  | arr items => exact congrArg arr (canonicalItems_eq_self items sorted)
  | obj fields =>
    rw [canonical, canonicalFields_eq_self fields sorted.2, sortFields_eq_self sorted.1]
  | _ => rfl

theorem canonicalItems_eq_self (items : List Json) (sorted : SortedItems items) :
    canonicalItems items = items := by
  cases items with
  | nil => rfl
  | cons j rest =>
    rw [canonicalItems, canonical_eq_self j sorted.1, canonicalItems_eq_self rest sorted.2]

theorem canonicalFields_eq_self (fields : List (String × Json)) (sorted : SortedFields fields) :
    canonicalFields fields = fields := by
  cases fields with
  | nil => rfl
  | cons field rest =>
    obtain ⟨key, j⟩ := field
    rw [canonicalFields, canonical_eq_self j sorted.1, canonicalFields_eq_self rest sorted.2]

end

end NotebookKernel.Json
