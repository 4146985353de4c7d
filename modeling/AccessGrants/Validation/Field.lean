import AccessGrants.Document.Value
import AccessGrants.Text.Blank
import AccessGrants.Validation.Issue

/-!
# Checks of fields

A check reads a value and gives either what it means or all its issues.

* `Check.text`, `Check.flag`, `Check.choice`, `Check.list` and `Check.names` read one value. Texts
  are trimmed by white space before anything else is asked of them.
* `Check.required` and `Check.optional` read the field of a record.
* `Check.both` puts two checks together and keeps the issues of both.
-/

namespace AccessGrants

/-- What a value means, or all its issues. -/
abbrev Check (α : Type) := Except (List Issue) α

namespace Check

/-! ## Putting checks together -/

/-- A check that fails at the place itself. -/
def fail {α : Type} (fault : Fault) : Check α := .error [⟨[], fault⟩]

/-- Moves the issues of a check one step inwards. -/
def under {α : Type} (step : Step) (check : Check α) : Check α :=
  check.mapError fun issues => issues.map fun issue => ⟨step :: issue.place, issue.fault⟩

/-- Two checks; the issues of the first come before those of the second. -/
def both {α β : Type} : Check α → Check β → Check (α × β)
  | .ok a, .ok b => .ok (a, b)
  | .ok _, .error issues => .error issues
  | .error issues, .ok _ => .error issues
  | .error issues, .error more => .error (issues ++ more)

/-! ## Single values -/

/-- A text, trimmed. -/
def text : Value → Check Text
  | .scalar (.text t) => .ok (Text.stripWhiteSpace t)
  | .scalar (.brokenText _) => fail .brokenText
  | _ => fail .notText

/-- A text that is not empty once it is trimmed. -/
def nonempty (v : Value) : Check Text :=
  match text v with
  | .ok [] => fail .emptyText
  | checked => checked

/-- A text or nothing. -/
def textOrNull : Value → Check (Option Text)
  | .scalar .null => .ok none
  | v => return some (← text v)

/-- The words for true. -/
def trueWords : List Text :=
  ["true".toList, "t".toList, "yes".toList, "y".toList, "on".toList, "1".toList]

/-- The words for false. -/
def falseWords : List Text :=
  ["false".toList, "f".toList, "no".toList, "n".toList, "off".toList, "0".toList]

/-- A whole number as a flag; of more than 64 bits it is no candidate at all. -/
def flagOfInt (n : Int) : Check Bool :=
  if n = 0 then .ok false
  else if n = 1 then .ok true
  else if Int64.minValue.toInt ≤ n ∧ n ≤ Int64.maxValue.toInt then fail .unreadableFlag
  else fail .notFlag

/-- A flag: a truth value, one of the numbers 0 and 1, or one of the words in any letter case. -/
def flag : Value → Check Bool
  | .scalar (.bool b) => .ok b
  | .scalar (.int n) => flagOfInt n
  | .scalar (.real x) =>
    match x.toInt? with
    | some n => if n = Int64.minValue.toInt then fail .notFlag else flagOfInt n
    | none => fail .notFlag
  | .scalar (.text t) =>
    let word := t.map Char.toLower
    if word ∈ trueWords then .ok true
    else if word ∈ falseWords then .ok false
    else fail .unreadableFlag
  | .scalar (.brokenText _) => fail .brokenText
  | _ => fail .notFlag

/-- One of some words, exactly as written. -/
def choice {α : Type} (ofWord? : Text → Option α) (allowed : List Text) : Value → Check α
  | .scalar (.brokenText _) => fail .brokenText
  | v =>
    match v.text?.bind ofWord? with
    | some a => .ok a
    | none => fail (.notAmong allowed)

/-! ## Lists -/

/-- The items of a list from index `n` on that pass a check, and the issues of the others. -/
def items {α : Type} (check : Value → Check α) (n : Nat) : List Value → List α × List Issue
  | [] => ([], [])
  | v :: rest =>
    let after := items check (n + 1) rest
    match under (.index n) (check v) with
    | .ok a => (a :: after.1, after.2)
    | .error issues => (after.1, issues ++ after.2)

/-- A list in which each item passes a check. -/
def list {α : Type} (check : Value → Check α) : Value → Check (List α)
  | .list values =>
    match items check 0 values with
    | (checked, []) => .ok checked
    | (_, issues) => .error issues
  | _ => fail .notList

/-- A list of texts of which at least one is valid. -/
def names : Value → Check (List Text)
  | .list values =>
    match items text 0 values with
    | ([], issues) => .error (issues ++ [⟨[], .noItems⟩])
    | (checked, []) => .ok checked
    | (_, issues) => .error issues
  | _ => fail .notTuple

/-! ## Fields of a record -/

/-- A field that has to be there. -/
def required {α : Type} (key : Text) (check : Value → Check α) (entries : List (Scalar × Value)) :
    Check α :=
  under (.key key) (match Value.get? key entries with
    | some v => check v
    | none => fail .missing)

/-- A field with a default. -/
def optional {α : Type} (key : Text) (default : α) (check : Value → Check α)
    (entries : List (Scalar × Value)) : Check α :=
  match Value.get? key entries with
  | some v => under (.key key) (check v)
  | none => .ok default

/-- A value that is a record with fields; all issues of a refused one. -/
def record {α : Type} (name : Text) (check : List (Scalar × Value) → Check α) (v : Value) :
    Except Invalid α :=
  match v with
  | .mapping entries => (check entries).mapError fun issues => ⟨name, issues⟩
  | _ => .error ⟨name, [⟨[], .notRecord name⟩]⟩

end Check

end AccessGrants
