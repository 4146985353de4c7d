import AccessGrants.Policy
import AccessGrants.Validation.Field

/-!
# Grantee specifications

A specification names a grantee and the privileges and roles that it should hold.

* `GranteeType` tells users from roles.
* `Spec` is a specification; `Spec.ownSchema` is the schema that stands in for a missing default.
* `Spec.ofValue` reads a specification from a record, in which every key has to be known.
-/

namespace AccessGrants

/-! ## Grantees -/

/-- Who holds a grant: a user or a role. -/
inductive GranteeType
  | user
  | role
  deriving DecidableEq

namespace GranteeType

/-- The word for a type of grantee. -/
def word : GranteeType → Text
  | .user => "USER".toList
  | .role => "ROLE".toList

/-- The type of grantee of a word. -/
def ofWord? (w : Text) : Option GranteeType :=
  if w = word .user then some .user
  else if w = word .role then some .role
  else none

@[simp] theorem ofWord?_word (type : GranteeType) : ofWord? type.word = some type := by
  cases type <;> rfl

end GranteeType

/-! ## Specifications -/

/-- The grants that one grantee should hold. -/
structure Spec where
  grantee : Text
  granteeType : GranteeType
  defaultSchema : Text
  policy : ManagementPolicy
  privileges : List Text
  roles : List Text
  restricted : Bool
  deriving DecidableEq

namespace Spec

/-- The name of the record. -/
def recordName : Text := "GrantSpec".toList

/-- The schema that a grantee owns: what stands before its first dot, else its whole name. -/
def ownSchema (grantee : Text) : Text :=
  match Text.splitAtFirst '.' grantee with
  | some (schema, _) => schema
  | none => grantee

/-- The given default schema, or the schema of the grantee if it is missing or empty. -/
def resolveSchema (grantee : Text) : Option Text → Text
  | some (c :: rest) => c :: rest
  | _ => ownSchema grantee

/-- The key under which the policy is given; the short one comes first. -/
def policyKey (entries : List (Scalar × Value)) : Text :=
  if (Value.get? "policy".toList entries).isSome then "policy".toList
  else "privilege_management_policy".toList

/-- The keys of a specification. -/
def keys (policyKey : Text) : List Text :=
  ["grantee".toList, "grantee_type".toList, "default_schema".toList, policyKey,
    "privileges".toList, "roles".toList, "restricted".toList]

/-- The issue of an entry under a key that a specification does not have. -/
def extraIssue (known : List Text) : Scalar × Value → Option Issue
  | (.text key, _) => if key ∈ known then none else some ⟨[.key key], .extraKey⟩
  | (key, _) => some ⟨[Step.ofKey key], .keyNotText⟩

/-- The issues of all unknown keys. -/
def checkKeys (known : List Text) (entries : List (Scalar × Value)) : Check Unit :=
  match Issue.sortByPlace (entries.filterMap (extraIssue known)) with
  | [] => .ok ()
  | issues => .error issues

/-- No key is a text with halves of characters; one that is hides all other issues. -/
def checkTexts (entries : List (Scalar × Value)) : Check Unit :=
  if entries.any fun entry => entry.1 matches .brokenText _ then Check.fail .brokenText else .ok ()

/-- The fields of a specification, in order, then its unknown keys. -/
def checkFields (defaultPolicy : ManagementPolicy) (entries : List (Scalar × Value)) :
    Check Spec := do
  checkTexts entries
  let policyKey := policyKey entries
  let granteeType := Check.choice GranteeType.ofWord? [GranteeType.user.word, GranteeType.role.word]
  let policy := Check.choice ManagementPolicy.ofWord?
    [ManagementPolicy.strict.word, ManagementPolicy.lax.word]
  let (grantee, granteeType, defaultSchema, policy, privileges, roles, restricted, _) ←
    Check.both (Check.required "grantee".toList Check.nonempty entries)
      (Check.both (Check.optional "grantee_type".toList .user granteeType entries)
        (Check.both (Check.optional "default_schema".toList none Check.textOrNull entries)
          (Check.both (Check.optional policyKey defaultPolicy policy entries)
            (Check.both (Check.optional "privileges".toList [] (Check.list Check.text) entries)
              (Check.both (Check.optional "roles".toList [] (Check.list Check.text) entries)
                (Check.both (Check.optional "restricted".toList false Check.flag entries)
                  (checkKeys (keys policyKey) entries)))))))
  return ⟨grantee, granteeType, resolveSchema grantee defaultSchema, policy, privileges, roles,
    restricted⟩

/-- Reads a specification from a record; a missing policy is the default one. -/
def ofValue (defaultPolicy : ManagementPolicy) (v : Value) : Except Invalid Spec :=
  Check.record recordName (checkFields defaultPolicy) v

end Spec

end AccessGrants
