import AccessGrants.Text.Blank
import AccessGrants.GrantOption

/-!
# Roles

A role has a name, perhaps with a schema in front, and may be grantable with the admin option.

* `Role.render` is the canonical grant string of a role.
-/

namespace AccessGrants

/-- A role that a grantee holds or should hold. -/
structure Role where
  name : Text
  grantable : Bool
  deriving DecidableEq

namespace Role

/-- The role with this name, white space at its ends left out. -/
def trimmed (name : Text) (grantable : Bool) : Role :=
  ⟨Text.stripWhiteSpace name, grantable⟩

/-- The canonical grant string of a role. -/
def render (r : Role) : Text :=
  if r.grantable then r.name ++ ' ' :: GrantOption.admin.suffix else r.name

@[simp] theorem render_mk_false (name : Text) : render ⟨name, false⟩ = name := rfl

end Role

end AccessGrants
