import AccessGrants.Batch
import AccessGrants.Validation.Field

/-!
# Privileges and roles from records

A privilege, a role or a batch may be given as a record. Unknown keys are overlooked.

* `Privilege.check` asks for a target where the kind has one, and for none where it has none.
* `Privilege.ofValue`, `Role.ofValue`, `PrivilegeBatch.ofValue` and `RoleBatch.ofValue` read a
  record.
-/

namespace AccessGrants

/-- The word of a privilege kind, as a field. -/
def Check.privilegeKind (v : Value) : Check PrivilegeKind :=
  Check.choice PrivilegeKind.ofWord? (PrivilegeKind.all.map PrivilegeKind.word) v

namespace Privilege

/-- The name of the record. -/
def recordName : Text := "Privilege".toList

/-- Why the target of a privilege does not go with its kind. -/
def targetIssue (p : Privilege) : Option Text :=
  if p.kind.hasTarget ∧ p.target = [] then
    some (p.kind.word ++ " privilege '".toList ++ p.name ++ "' requires a target".toList)
  else if ¬ p.kind.hasTarget ∧ p.target ≠ [] then
    some ("system privilege '".toList ++ p.name ++ "' cannot have target '".toList ++ p.target ++
      ['\''])
  else none

/-- A privilege has a target exactly if its kind has one. -/
def checkTarget (p : Privilege) : Check Privilege :=
  match p.targetIssue with
  | some reason => Check.fail (.refused reason)
  | none => .ok p

/-- The privilege with these parts, the name still to be checked. -/
def check (kind : PrivilegeKind) (name : Value) (target : Text) (grantable : Bool) :
    Except Invalid Privilege :=
  let checked : Check Privilege := do
    let name ← Check.under (.key "name".toList) (Check.nonempty name)
    checkTarget (trimmed kind name target grantable)
  checked.mapError fun issues => ⟨recordName, issues⟩

/-- The fields of a privilege. -/
def checkFields (entries : List (Scalar × Value)) : Check Privilege := do
  let (kind, name, target, grantable) ←
    Check.both (Check.required "kind".toList Check.privilegeKind entries)
      (Check.both (Check.required "name".toList Check.nonempty entries)
        (Check.both (Check.optional "target".toList [] Check.text entries)
          (Check.optional "grantable".toList false Check.flag entries)))
  checkTarget ⟨kind, name, target, grantable⟩

/-- Reads a privilege from a record. -/
def ofValue (v : Value) : Except Invalid Privilege :=
  Check.record recordName checkFields v

end Privilege

namespace Role

/-- The name of the record. -/
def recordName : Text := "Role".toList

/-- The fields of a role. -/
def checkFields (entries : List (Scalar × Value)) : Check Role := do
  let (name, grantable) ←
    Check.both (Check.required "name".toList Check.nonempty entries)
      (Check.optional "grantable".toList false Check.flag entries)
  return ⟨name, grantable⟩

/-- Reads a role from a record. -/
def ofValue (v : Value) : Except Invalid Role :=
  Check.record recordName checkFields v

end Role

namespace PrivilegeBatch

/-- The fields of a batch of privileges. -/
def checkFields (entries : List (Scalar × Value)) : Check PrivilegeBatch := do
  let (kind, target, grantable, names) ←
    Check.both (Check.required "kind".toList Check.privilegeKind entries)
      (Check.both (Check.optional "target".toList [] Check.text entries)
        (Check.both (Check.optional "grantable".toList false Check.flag entries)
          (Check.required "names".toList Check.names entries)))
  return ⟨kind, target, grantable, names⟩

/-- Reads a batch of privileges from a record. -/
def ofValue (v : Value) : Except Invalid PrivilegeBatch :=
  Check.record "PrivilegeGroup".toList checkFields v

end PrivilegeBatch

namespace RoleBatch

/-- The fields of a batch of roles. -/
def checkFields (entries : List (Scalar × Value)) : Check RoleBatch := do
  let (grantable, names) ←
    Check.both (Check.optional "grantable".toList false Check.flag entries)
      (Check.required "names".toList Check.names entries)
  return ⟨grantable, names⟩

/-- Reads a batch of roles from a record. -/
def ofValue (v : Value) : Except Invalid RoleBatch :=
  Check.record "RoleGroup".toList checkFields v

end RoleBatch

end AccessGrants
