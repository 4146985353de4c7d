import AccessGrants.Document.Scalar
import AccessGrants.GrantOption
import AccessGrants.Text.LowerCase

/-!
# Errors of grant strings and policies

These errors come from what was written, so that trying again cannot help.

* `GrammarError` refuses a grant string and carries it unchanged.
* `PolicyError` refuses the input of the ownership filter.
* `GrantError.message` is the wording of each.
-/

namespace AccessGrants

/-- A grant string that cannot be read. -/
inductive GrammarError
  | other (raw message : Text)
  | unknownPrivilege (raw : Text) (reason : Option Text)
  | unknownRole (raw : Text)
  | invalidOption (raw used expected subject : Text)
  | invalidGrantOption (raw subject : Text)
  | invalidAdminOption (raw subject : Text)
  deriving DecidableEq

namespace GrammarError

/-- The grant string that was refused. -/
def raw : GrammarError → Text
  | .other raw _ => raw
  | .unknownPrivilege raw _ => raw
  | .unknownRole raw => raw
  | .invalidOption raw _ _ _ => raw
  | .invalidGrantOption raw _ => raw
  | .invalidAdminOption raw _ => raw

/-- The option words that were used and expected, for an option that is not accepted. -/
def options? : GrammarError → Option (Text × Text)
  | .invalidOption _ used expected _ => some (used, expected)
  | .invalidGrantOption _ _ => some (GrantOption.grant.word, GrantOption.admin.word)
  | .invalidAdminOption _ _ => some (GrantOption.admin.word, GrantOption.grant.word)
  | _ => none

/-- The wording for an option that is not accepted. -/
def optionMessage (raw used expected subject : Text) : Text :=
  "failed to parse ".toList ++ subject ++ " with ".toList ++ Text.lower used ++
    " option: ".toList ++ raw ++ " (only WITH ".toList ++ expected ++ " OPTION is allowed)".toList

/-- The wording of an error. -/
def message : GrammarError → Text
  | .other _ message => message
  | .unknownPrivilege raw none => "unknown type of privilege: ".toList ++ raw
  | .unknownPrivilege raw (some reason) =>
    "unknown type of privilege: ".toList ++ raw ++
      (if reason = [] then [] else " (".toList ++ reason ++ ")".toList)
  | .unknownRole raw => "failed to parse role: ".toList ++ raw
  | .invalidOption raw used expected subject => optionMessage raw used expected subject
  | .invalidGrantOption raw subject =>
    optionMessage raw GrantOption.grant.word GrantOption.admin.word subject
  | .invalidAdminOption raw subject =>
    optionMessage raw GrantOption.admin.word GrantOption.grant.word subject

end GrammarError

/-- Input of the ownership filter that it cannot work with. -/
inductive PolicyError
  | other (message : Text)
  | unknownPolicy (given : Scalar) (observed : Option (List Text))
  | observationMissing
  deriving DecidableEq

namespace PolicyError

/-- The wording of an error. -/
def message : PolicyError → Text
  | .other message => message
  | .unknownPolicy given _ => "unknown privilege management policy: ".toList ++ given.display
  | .observationMissing => "observed privileges cannot be None".toList

end PolicyError

/-- An error that comes from what was written. -/
inductive GrantError
  | other (message : Text)
  | grammar (e : GrammarError)
  | policy (e : PolicyError)
  deriving DecidableEq

namespace GrantError

/-- The wording of an error. -/
def message : GrantError → Text
  | .other message => message
  | .grammar e => e.message
  | .policy e => e.message

end GrantError

end AccessGrants
