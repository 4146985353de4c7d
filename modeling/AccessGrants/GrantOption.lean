import AccessGrants.Text.Letter

/-!
# Grant options

A grant string may end with an option that lets the grantee pass the grant on.

* `GrantOption` has the two options, `GrantOption.suffix` is their wording.
* `GrantOption.split` takes the option off a text that is laid out in normal form. The option word
  is read in any letter case, but its stored form has to be one of the two.
-/

namespace AccessGrants

/-- The right to pass a grant on: `admin` for system privileges and roles, `grant` for all other
privileges. -/
inductive GrantOption
  | admin
  | grant
  deriving DecidableEq

namespace GrantOption

/-- The word of an option. -/
def word : GrantOption → Text
  | .admin => "ADMIN".toList
  | .grant => "GRANT".toList

/-- The text that an option adds to a grant. -/
def suffix (o : GrantOption) : Text :=
  "WITH ".toList ++ o.word ++ " OPTION".toList

/-- The option of a word. -/
def ofWord? (w : Text) : Option GrantOption :=
  if w = word .admin then some .admin
  else if w = word .grant then some .grant
  else none

@[simp] theorem ofWord?_word (o : GrantOption) : ofWord? o.word = some o := by
  cases o <;> rfl

/-! ## Reading the option off a grant string -/

/-- The option word of a text that is an option suffix in any letter case, as it is written. -/
def suffixWord? (t : Text) : Option Text :=
  match Text.dropPhrase "WITH ".toList t with
  | none => none
  | some rest =>
    let w := rest.take 5
    if (Text.isPhrase (word .admin) w || Text.isPhrase (word .grant) w) &&
        Text.isPhrase " OPTION".toList (rest.drop 5) then some w
    else none

/-- The text before the option suffix, and the option word as it is written. -/
def cutSuffix : Text → Option (Text × Text)
  | [] => none
  | c :: r =>
    match suffixWord? (c :: r) with
    | some w => some ([], w)
    | none => (cutSuffix r).map fun parts => (c :: parts.1, parts.2)

/-- The body before an option suffix: nothing, or one line that a space ends. -/
def body? (before : Text) : Option Text :=
  if before = [] then some []
  else if before.getLast? = some ' ' ∧ '\n' ∉ before then some before.dropLast
  else none

/-- A grant string without its option, and the option word as it is written. -/
def cut (t : Text) : Text × Option Text :=
  match cutSuffix (Text.dropFinalNewline t) with
  | none => (t, none)
  | some (before, w) =>
    match body? before with
    | none => (t, none)
    | some body => (body, some w)

/-- Splits a grant string into its body and its option. Fails with the option word in upper case
when that word is no option. -/
def split (t : Text) : Except Text (Text × Option GrantOption) :=
  match cut t with
  | (body, none) => .ok (body, none)
  | (body, some w) =>
    match ofWord? (Text.upper w) with
    | some o => .ok (body, some o)
    | none => .error (Text.upper w)

end GrantOption

end AccessGrants
