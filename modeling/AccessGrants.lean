import AccessGrants.Pass
import AccessGrants.Spec.File
import AccessGrants.Proofs.AddedOptions
import AccessGrants.Proofs.AppendedDefaults
import AccessGrants.Proofs.CanonicalLayout
import AccessGrants.Proofs.CatalogSpellings
import AccessGrants.Proofs.Derivations
import AccessGrants.Proofs.Differing
import AccessGrants.Proofs.FormOrder
import AccessGrants.Proofs.IdentifierLanguage
import AccessGrants.Proofs.LateSchema
import AccessGrants.Proofs.LaxRuns
import AccessGrants.Proofs.LetterCase
import AccessGrants.Proofs.Principals
import AccessGrants.Proofs.Recording
import AccessGrants.Proofs.Refusals
import AccessGrants.Proofs.Rereading
import AccessGrants.Proofs.Revoking
import AccessGrants.Proofs.RoleRows
import AccessGrants.Proofs.RowOrder
import AccessGrants.Proofs.Settled
import AccessGrants.Proofs.SpecFiles
import AccessGrants.Proofs.StatementTexts
import AccessGrants.Proofs.UnownedBaseline
import AccessGrants.Proofs.UsableSchemas
