import Colloquy.Json.Basic

/-!
# Fields of a record — reading structured values from JSON

A record is given as an object, or as a list of its fields in order. In an object unknown members
are skipped and a known one must not repeat; a list may stop early but must not be too long. A field
that is absent is an error, or has a default, or is optional; only an optional field may be `null`.
Keyed collections are not records: there the last of several members under one key stays.
-/

namespace Colloquy

namespace Json

variable {α : Type}

/-! ## Plain values -/

/-- A text. -/
def asString? : Json → Option String
  | .text s => s
  | _ => none

/-- A truth value. -/
def asBool? : Json → Option Bool
  | .bool b => some b
  | _ => none

/-- A list of values. -/
def asList? (read : Json → Option α) : Json → Option (List α)
  | .list items => items.mapM read
  | _ => none

/-- The keys of an object with their values, if all keys are proper. -/
def asMembers? : Json → Option (List (String × Json))
  | .object members => members.mapM fun (key, value) => key.map fun key => (key, value)
  | _ => none

/-- A table of values, the last of several under one key staying. -/
def asTable? (read : Json → Option α) (j : Json) : Option (TextMap α) := do
  let members ← j.asMembers?
  let entries ← members.mapM fun (key, value) => (read value).map fun value => (key, value)
  return .ofList entries

/-! ## Records -/

/-- The values of the named fields in an object, if none of them repeats. -/
def pick? (names : List String) (members : List (String × Json)) : Option (List (Option Json)) :=
  names.mapM fun name =>
    match members.filter fun member => member.1 = name with
    | [] => some none
    | [(_, value)] => some (some value)
    | _ => none

/-- The values of the named fields in a record, in the order of the names. -/
def fields? (names : List String) : Json → Option (List (Option Json))
  | .list items =>
    if items.length ≤ names.length then
      some (items.map some ++ List.replicate (names.length - items.length) none)
    else none
  | j => j.asMembers?.bind (pick? names)

/-- The field at a position, which must be there. -/
def required (fields : List (Option Json)) (i : Nat) (read : Json → Option α) : Option α :=
  (fields[i]?.join).bind read

/-- The field at a position, or a default where it is absent. -/
def withDefault (fields : List (Option Json)) (i : Nat) (default : α) (read : Json → Option α) :
    Option α :=
  match fields[i]?.join with
  | none => some default
  | some j => read j

/-- The field at a position, where absence and `null` mean that there is no value. -/
def optional (fields : List (Option Json)) (i : Nat) (read : Json → Option α) :
    Option (Option α) :=
  match fields[i]?.join with
  | none | some .null => some none
  | some j => (read j).map some

end Json

end Colloquy
