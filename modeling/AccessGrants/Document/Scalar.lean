import AccessGrants.Document.Moment
import AccessGrants.Number.Binary64

/-!
# Scalars

A scalar is a value without parts, as a document, a catalog row or a caller gives it.

* `Scalar` has the scalars, `Scalar.display` is their wording in a message.
* `Scalar.ofCodes` is a text by its codes. The codes of a document may include halves of a character,
  which make up no text.
* `Scalar.isTruthy` counts nothing, zero and the empty text as false.
* `Scalar.sameKey` says when two scalars are one key of a mapping: numbers by their value.
-/

namespace AccessGrants

/-- A value without parts. -/
inductive Scalar
  | null
  | bool (b : Bool)
  | int (n : Int)
  | real (x : Binary64)
  | day (d : Day)
  | moment (m : Moment)
  | text (t : Text)
  /-- Codes of which some are halves of a character. -/
  | brokenText (codes : List Nat)
  deriving DecidableEq

namespace Scalar

/-- The character of a code. -/
def charOfCode? (code : Nat) : Option Char :=
  if h : code.isValidChar then some (Char.ofNatAux code h) else none

/-- The text of some codes. -/
def ofCodes (codes : List Nat) : Scalar :=
  match codes.mapM charOfCode? with
  | some t => .text t
  | none => .brokenText codes

/-- A scalar in a message. -/
def display : Scalar → Text
  | .null => "None".toList
  | .bool true => "True".toList
  | .bool false => "False".toList
  | .int n => (toString n).toList
  | .real x => x.display
  | .day d => d.display
  | .moment m => m.display
  | .text t => t
  | .brokenText codes => codes.map fun code => (charOfCode? code).getD '\uFFFD'

/-- Nothing, zero and the empty text are false, all else is true. -/
def isTruthy : Scalar → Bool
  | .null => false
  | .bool b => b
  | .int n => n != 0
  | .real x => x.isTruthy
  | .text t => t != []
  | _ => true

/-- The whole number that a scalar counts as; a truth value is 0 or 1. -/
def toInt? : Scalar → Option Int
  | .bool b => some (if b then 1 else 0)
  | .int n => some n
  | .real x => x.toInt?
  | _ => none

/-- Two scalars are the same key of a mapping. -/
def sameKey (a b : Scalar) : Bool :=
  match a, b with
  | .moment m, .moment n => m.isSame n
  | a, b =>
    match a.toInt?, b.toInt? with
    | some m, some n => m == n
    | none, none => a == b
    | _, _ => false

end Scalar

end AccessGrants
