import AccessGrants.Document.Date
import AccessGrants.Document.Numeral
import AccessGrants.Document.Scalar
import AccessGrants.Document.Token

/-!
# The meaning of scalars

What stands between quotes is a text. A plain scalar is a truth value, a number, a date or nothing if
it is written like one, and else a text. Two marks have a meaning as keys only.

* `Scalar.ofWritten` resolves a scalar.
* `Written.isMerge` finds the key of entries to be merged; `Scalar.ofKey` resolves every other key.
-/

namespace AccessGrants

namespace Written

/-! ## Words -/

/-- The words for true. -/
def trueWords : List Text :=
  ["yes".toList, "Yes".toList, "YES".toList, "true".toList, "True".toList, "TRUE".toList,
    "on".toList, "On".toList, "ON".toList]

/-- The words for false. -/
def falseWords : List Text :=
  ["no".toList, "No".toList, "NO".toList, "false".toList, "False".toList, "FALSE".toList,
    "off".toList, "Off".toList, "OFF".toList]

/-- The words for nothing. -/
def nullWords : List Text :=
  [[], "~".toList, "null".toList, "Null".toList, "NULL".toList]

/-- The mark of entries to be merged. -/
def mergeMark : Text := "<<".toList

/-- The mark of a default value. -/
def defaultMark : Text := "=".toList

/-- A key under which entries to be merged stand. -/
def isMerge (written : Written) : Bool :=
  written == .plain mergeMark

end Written

namespace Scalar

/-- What a scalar means if it is written like a value other than a text. -/
def ofValue? (t : Text) : Option (Except ValueFault Scalar) :=
  if t ∈ Written.nullWords then some (.ok .null)
  else if t ∈ Written.trueWords then some (.ok (.bool true))
  else if t ∈ Written.falseWords then some (.ok (.bool false))
  else
    ((Numeral.real? t).map fun x => x.map .real).or
      (((Numeral.int? t).map fun n => n.map .int).or
        (((Date.day? t).map fun d => d.map .day).or
          ((Date.moment? t).map fun m => m.map .moment)))

/-- The meaning of a scalar. The two marks have none. -/
def ofWritten : Written → Except DocumentFault Scalar
  | .quoted codes => .ok (ofCodes codes)
  | .plain t =>
    match ofValue? t with
    | some s => s.mapError .value
    | none =>
      if t = Written.mergeMark ∨ t = Written.defaultMark then .error (.unresolvedScalar t)
      else .ok (.text t)

/-- The meaning of a key; the mark of a default value is a text there. -/
def ofKey (written : Written) : Except DocumentFault Scalar :=
  if written = .plain Written.defaultMark then .ok (.text Written.defaultMark)
  else ofWritten written

end Scalar

end AccessGrants
