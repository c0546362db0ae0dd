import NotebookKernel.Json

/-!
Records in JSON: values with a fixed list of named fields.

A record is written as an object with its fields by name, or as an array with its fields in order.
A tagged record names its kind in one more field, or in the first item. Fields that a record does
not have are ignored in an object; a field of the record that stands there twice spoils it, and so
does an item too many.
-/

namespace NotebookKernel.Json

/-- The value of a field that may stand there once at most. -/
def field? (name : String) (fields : List (String × Json)) : Option (Option Json) :=
  match fields.filter (·.1 = name) with
  | [] => some none
  | [f] => some (some f.2)
  | _ => none

/-- The values of a record's fields, `none` for each that is missing. -/
def recordFields? (names : List String) : Json → Option (List (Option Json))
  | obj fields => names.mapM fun name => field? name fields
  | arr items =>
    if items.length ≤ names.length then
      some (items.map some ++ List.replicate (names.length - items.length) none)
    else none
  | _ => none

/-- The kind of a tagged record, and the record without its tag. -/
def untag? (tag : String) : Json → Option (String × Json)
  | obj fields =>
    match field? tag fields with
    | some (some (str kind)) => some (kind, obj (fields.filter (·.1 ≠ tag)))
    | _ => none
  | arr (str kind :: items) => some (kind, arr items)
  | _ => none

end NotebookKernel.Json
