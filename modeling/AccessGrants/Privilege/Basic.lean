import AccessGrants.Text.Blank
import AccessGrants.GrantOption

/-!
# Privileges

A privilege has a kind, a name (its verb), a target that it is granted on, and may be grantable.

* `PrivilegeKind` has the seven kinds; a kind decides the clause, the option and whether there is a
  target.
* `PrivilegeKind.clause` is the body of a grant of one or several names.
* `Privilege.render` is the canonical grant string of a privilege.
-/

namespace AccessGrants

/-! ## Kinds -/

/-- The kinds of privileges, by the clause that they are granted with. -/
inductive PrivilegeKind
  | system
  | source
  | schema
  | object
  | usergroup
  | columnKey
  | structured
  deriving DecidableEq

namespace PrivilegeKind

/-- All kinds, in the order in which they are listed. -/
def all : List PrivilegeKind :=
  [.system, .source, .schema, .object, .usergroup, .columnKey, .structured]

/-- The word for a kind. -/
def word : PrivilegeKind → Text
  | .system => "system".toList
  | .source => "source".toList
  | .schema => "schema".toList
  | .object => "object".toList
  | .usergroup => "usergroup".toList
  | .columnKey => "column".toList
  | .structured => "structured".toList

/-- The kind of a word. -/
def ofWord? (w : Text) : Option PrivilegeKind :=
  all.find? fun kind => kind.word = w

@[simp] theorem ofWord?_word (kind : PrivilegeKind) : ofWord? kind.word = some kind := by
  cases kind <;> rfl

/-- The only option that a kind accepts. -/
def grantOption : PrivilegeKind → GrantOption
  | .system => .admin
  | _ => .grant

/-- Privileges of a kind are granted on something. -/
def hasTarget : PrivilegeKind → Bool
  | .system => false
  | _ => true

/-- The text between the names and the target in a grant of a kind that has a target. -/
def preposition : PrivilegeKind → Text
  | .system => []
  | .source => " ON REMOTE SOURCE ".toList
  | .schema => " ON SCHEMA ".toList
  | .object => " ON ".toList
  | .usergroup => " ON USERGROUP ".toList
  | .columnKey => " ON CLIENTSIDE ENCRYPTION COLUMN KEY ".toList
  | .structured => " ".toList

/-- The body of a grant: the names, and on what they are granted. -/
def clause (kind : PrivilegeKind) (names target : Text) : Text :=
  match kind with
  | .system => names
  | kind => names ++ kind.preposition ++ target

@[simp] theorem clause_system (names target : Text) : clause .system names target = names := rfl

end PrivilegeKind

/-! ## Privileges -/

/-- A privilege that a grantee holds or should hold. -/
structure Privilege where
  kind : PrivilegeKind
  name : Text
  target : Text
  grantable : Bool
  deriving DecidableEq

namespace Privilege

/-- The privilege with these parts, white space at the ends of name and target left out. -/
def trimmed (kind : PrivilegeKind) (name target : Text) (grantable : Bool) : Privilege :=
  ⟨kind, Text.stripWhiteSpace name, Text.stripWhiteSpace target, grantable⟩

/-- The target, with an object that has no schema placed in the default schema. -/
def qualifiedTarget (p : Privilege) (defaultSchema : Text) : Text :=
  if p.kind = .object ∧ defaultSchema ≠ [] ∧ '.' ∉ p.target then
    defaultSchema ++ '.' :: p.target
  else p.target

/-- The canonical grant string, with unqualified objects placed in the default schema. -/
def render (p : Privilege) (defaultSchema : Text) : Text :=
  let body := p.kind.clause p.name (p.qualifiedTarget defaultSchema)
  if p.grantable then body ++ ' ' :: p.kind.grantOption.suffix else body

/-- The canonical grant string, with the target as it is. -/
def display (p : Privilege) : Text :=
  p.render []

end Privilege

end AccessGrants
