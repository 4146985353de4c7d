import AccessGrants.Document.Scalar

/-!
# Document values

A value is a scalar, a list of values, or a mapping from scalars to values that keeps the order of
its entries.

* `Value` has the values.
* `Value.isTruthy` extends `Scalar.isTruthy`: an empty list or mapping is false.
* `Value.ofEntries` builds a mapping in which each key stands once; the last value of a repeated key
  is kept in the place of its first.
-/

namespace AccessGrants

/-- A value with parts or without. -/
inductive Value
  | scalar (s : Scalar)
  | list (items : List Value)
  | mapping (entries : List (Scalar × Value))

namespace Value

/-- The value that is nothing. -/
abbrev null : Value := .scalar .null

instance : Inhabited Value := ⟨null⟩

/-- A text as a value. -/
abbrev text (t : Text) : Value := .scalar (.text t)

/-- Nothing, zero and what is empty are false, all else is true. -/
def isTruthy : Value → Bool
  | .scalar s => s.isTruthy
  | .list items => !items.isEmpty
  | .mapping entries => !entries.isEmpty

/-- The text that a value is. -/
def text? : Value → Option Text
  | .scalar (.text t) => some t
  | _ => none

@[simp] theorem text?_text (t : Text) : text? (text t) = some t := rfl

/-! ## Entries of a mapping -/

/-- The value under a text key. -/
def get? (key : Text) : List (Scalar × Value) → Option Value
  | [] => none
  | (k, v) :: rest => if k = .text key then some v else get? key rest

/-- Gives a key a value: in its place if the mapping has the key, else at the end. -/
def put (key : Scalar) (v : Value) : List (Scalar × Value) → List (Scalar × Value)
  | [] => [(key, v)]
  | (k, w) :: rest => if k.sameKey key then (k, v) :: rest else (k, w) :: put key v rest

/-- The mapping of a list of entries; the last value of a repeated key counts. -/
def ofEntries (entries : List (Scalar × Value)) : Value :=
  .mapping (entries.foldl (fun acc entry => put entry.1 entry.2 acc) [])

end Value

end AccessGrants
