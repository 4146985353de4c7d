import AccessGrants.Document.Draft
import AccessGrants.Spec
import AccessGrants.Text.Quoted

/-!
# Specification files

A file holds one specification, or a list of them under the key `grantees`.

* `Entry` is what a path leads to.
* `Spec.entriesOf` finds the records of a document, `Spec.ofEntries` reads them in order.
* `Spec.load` reads a file, `Spec.loadOne` a file that has to name one grantee.
-/

namespace AccessGrants

/-! ## Paths -/

/-- What a path leads to. -/
inductive Entry
  | missing
  | tooLong
  | directory
  | file (text : Text)

/-- The steps of a path, without those that are empty or stay in place. -/
def pathSteps (path : Text) : List Text :=
  (Text.splitBy '/' path).filter fun step => step ≠ [] ∧ step ≠ ['.']

/-- The root that a path starts from: two slashes at its start are a root of their own, but three or
more count as one. -/
def pathRoot : Text → Text
  | '/' :: '/' :: '/' :: _ => ['/']
  | '/' :: '/' :: _ => ['/', '/']
  | '/' :: _ => ['/']
  | _ => []

/-- A path by its root and its steps; a path with neither is the place itself. -/
def normalizePath (path : Text) : Text :=
  match pathRoot path ++ Text.join ['/'] (pathSteps path) with
  | [] => ['.']
  | path => path

/-! ## Loading -/

/-- Why a file gives no specifications. -/
inductive LoadError
  | missingFile (path : Text)
  | pathTooLong (path : Text)
  | isDirectory
  | document (e : DocumentFault)
  | notIterable
  | invalid (e : Invalid)
  | grantees (path : Text) (found : Nat)
  deriving DecidableEq

namespace LoadError

/-- The wording of the errors that speak of a path or of a value of the document. -/
def message? : LoadError → Option Text
  | .document (.value e) => some e.message
  | .missingFile path => some ("Grant specification not found: ".toList ++ path)
  | .pathTooLong path => some ("[Errno 36] File name too long: ".toList ++ Text.quoted path)
  | .grantees path found =>
    some ("Expected one grantee in ".toList ++ path ++ ", found ".toList ++
      (toString found).toList)
  | _ => none

end LoadError

namespace Spec

/-- The values in a value that is gone through: the items of a list, the keys of a mapping, the
characters of a text. -/
def iterate : Value → Option (List Value)
  | .list items => some items
  | .mapping entries => some (entries.map fun entry => .scalar entry.1)
  | .scalar (.text t) => some (t.map fun c => .text [c])
  | .scalar (.brokenText codes) => some (codes.map fun code => .scalar (.ofCodes [code]))
  | .scalar _ => none

/-- The records of a document: what it has under `grantees`, or else the document itself. -/
def entriesOf (v : Value) : Except LoadError (List Value) :=
  match v with
  | .mapping entries =>
    match Value.get? "grantees".toList entries with
    | none => .ok [v]
    | some grantees =>
      if grantees.isTruthy then
        match iterate grantees with
        | some values => .ok values
        | none => .error .notIterable
      else .ok []
  | v => .ok [v]

/-- Reads records in order, up to the first that is refused. -/
def ofEntries (defaultPolicy : ManagementPolicy) (entries : List Value) :
    Except LoadError (List Spec) :=
  entries.mapM fun v => (ofValue defaultPolicy v).mapError .invalid

/-- The specifications of a document. -/
def ofDocumentValue (defaultPolicy : ManagementPolicy) (v : Value) :
    Except LoadError (List Spec) := do
  ofEntries defaultPolicy (← entriesOf v)

/-- The specifications of the file that a path leads to. -/
def load (files : Text → Entry) (defaultPolicy : ManagementPolicy) (path : Text) :
    Except LoadError (List Spec) :=
  let path := normalizePath path
  match files path with
  | .missing => .error (.missingFile path)
  | .tooLong => .error (.pathTooLong path)
  | .directory => .error .isDirectory
  | .file text => do
    ofDocumentValue defaultPolicy (← (Value.ofDocument text).mapError .document)

/-- The specification of a file that has exactly one. -/
def loadOne (files : Text → Entry) (defaultPolicy : ManagementPolicy) (path : Text) :
    Except LoadError Spec := do
  match ← load files defaultPolicy path with
  | [spec] => return spec
  | specs => .error (.grantees path specs.length)

end Spec

end AccessGrants
