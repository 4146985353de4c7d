import AccessGrants.GrantError
import AccessGrants.Identifier

/-!
# Management policies

A policy says which of the observed privileges a pass owns. Under the strict policy it owns them
all. Under the lax policy it owns those that are desired now or were managed before, but never the
baseline: the privilege that a user holds on its own schema anyway.

* `ManagementPolicy.resolve` reads a policy name, `ManagementPolicy.ofSetting` the default setting.
* `Baseline` has the implicit grants and their two spellings.
* `ManagementPolicy.owned` is the ownership filter; `filterManaged` reads its input first.
* `ManagementPolicy.withDefaults` adds the implicit grants; `applyDefaults` reads the policy first.
-/

namespace AccessGrants

/-- How much of the privileges of a grantee a pass may change. -/
inductive ManagementPolicy
  | strict
  | lax
  deriving DecidableEq

/-! ## The implicit grants -/

namespace Baseline

/-- The privilege to create anything in a schema, grantable, with the schema spelled as given. -/
def onSchema (identifier : Text) : Text :=
  "CREATE ANY ON SCHEMA ".toList ++ identifier ++ " WITH GRANT OPTION".toList

/-- The privilege that a user holds on its own schema, with the schema name always quoted. -/
def privilege (defaultSchema : Text) : Text :=
  onSchema (Identifier.enquote defaultSchema)

/-- The same privilege as the catalog spells it: with quotes only if the name needs them. -/
def catalogPrivilege (defaultSchema : Text) : Text :=
  onSchema (Identifier.quote defaultSchema)

/-- A grant string is the baseline in one of its two spellings. -/
def isSpelling (defaultSchema grant : Text) : Bool :=
  grant == privilege defaultSchema || grant == catalogPrivilege defaultSchema

/-- The role that every user has. -/
def publicRole : Text := "PUBLIC".toList

end Baseline

namespace ManagementPolicy

/-! ## Names of policies -/

/-- The name of a policy. -/
def word : ManagementPolicy → Text
  | .strict => "strict".toList
  | .lax => "lax".toList

/-- The policy of a name. -/
def ofWord? (w : Text) : Option ManagementPolicy :=
  if w = word .strict then some .strict
  else if w = word .lax then some .lax
  else none

@[simp] theorem ofWord?_word (policy : ManagementPolicy) : ofWord? policy.word = some policy := by
  cases policy <;> rfl

/-- The policy that a value names. -/
def resolve (given : Scalar) : Except PolicyError ManagementPolicy :=
  match given with
  | .text w =>
    match ofWord? w with
    | some policy => .ok policy
    | none => .error (.unknownPolicy given none)
  | _ => .error (.unknownPolicy given none)

@[simp] theorem resolve_word (policy : ManagementPolicy) :
    resolve (.text policy.word) = .ok policy := by
  rw [resolve, ofWord?_word]

/-- The default policy of a setting, read in any letter case: strict if the setting is missing or
names no policy. -/
def ofSetting (setting : Option Text) : ManagementPolicy :=
  match setting with
  | none => .strict
  | some w => (ofWord? (Text.lower w)).getD .strict

/-! ## Ownership -/

/-- The observed privileges that a pass owns. -/
def owned (policy : ManagementPolicy) (observed desired previouslyManaged : List Text)
    (defaultSchema : Text) : List Text :=
  match policy with
  | .strict => observed
  | .lax => observed.filter fun grant =>
      !Baseline.isSpelling defaultSchema grant &&
        (grant ∈ desired || grant ∈ previouslyManaged)

/-- The owned privileges for a policy that is given by name. Without an observation there is
nothing to filter; an unknown policy hands the observation back. -/
def filterManaged (observed : Option (List Text)) (desired previouslyManaged : List Text)
    (given : Scalar) (defaultSchema : Text) : Except PolicyError (List Text) :=
  match observed with
  | none => .error .observationMissing
  | some observed =>
    match resolve given with
    | .error _ => .error (.unknownPolicy given (some observed))
    | .ok policy => .ok (owned policy observed desired previouslyManaged defaultSchema)

/-! ## Defaults -/

/-- Appends an element that is missing. -/
def insertMissing (x : Text) (xs : List Text) : List Text :=
  if x ∈ xs then xs else xs ++ [x]

/-- The grants of an unrestricted user: the baseline, if all privileges are owned, and the public
role. -/
def withDefaults (policy : ManagementPolicy) (privileges roles : List Text)
    (defaultSchema : Text) : List Text × List Text :=
  let privileges :=
    match policy with
    | .strict => insertMissing (Baseline.privilege defaultSchema) privileges
    | .lax => privileges
  (privileges, insertMissing Baseline.publicRole roles)

/-- The grants with defaults for a policy that is given by name; restricted grantees get none. -/
def applyDefaults (privileges roles : List Text) (given : Scalar) (defaultSchema : Text)
    (restricted : Bool) : Except PolicyError (List Text × List Text) := do
  if restricted then return (privileges, roles)
  else
    return withDefaults (← resolve given) privileges roles defaultSchema

end ManagementPolicy

end AccessGrants
