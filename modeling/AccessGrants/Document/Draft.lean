import AccessGrants.Document.Node
import AccessGrants.Document.Resolution
import AccessGrants.Document.Token.Lexer
import AccessGrants.Document.Value

/-!
# From nodes to values

The scalars of a document are resolved level by level: those of the outermost node first, then those
of the nodes in it, and so on. The first fault in this order is the fault of the document.

* `Draft` is a value in which faults still stand in their places, `Draft.ofNode` that of a node. The
  entries to be merged stand before the entries of the mapping itself, which therefore count.
* `Draft.value` is the value of a draft, or its first fault and the level of it.
* `Value.ofDocument` reads a document.
-/

namespace AccessGrants

/-- What a node stands for. -/
inductive Draft
  | scalar (s : Except DocumentFault Scalar)
  | list (items : List Draft)
  | mapping (entries : List (Except DocumentFault Scalar × Draft))
  /-- A mapping with something to be merged that has no entries. -/
  | unmergeable

namespace Draft

/-! ## From nodes to drafts -/

/-- The entries of a mapping. -/
abbrev Entries := List (Except DocumentFault Scalar × Draft)

/-- The entries of a mapping, if a draft is one. -/
def entries? : Draft → Option Entries
  | .mapping entries => some entries
  | _ => none

/-- The entries that a draft has for a merge: those of a mapping, or those of all mappings in a list,
in which the first ones come last and so count. -/
def merged? : Draft → Option Entries
  | .list items => (items.mapM entries?).map fun parts => parts.reverse.flatten
  | draft => draft.entries?

/-- The mapping of some entries, of which those without a key are to be merged. -/
def ofEntries (entries : List (Option (Except DocumentFault Scalar) × Draft)) : Draft :=
  match (entries.filter fun entry => entry.1.isNone).mapM fun entry => entry.2.merged? with
  | some parts =>
    .mapping (parts.flatten ++ entries.filterMap fun entry => entry.1.map fun key => (key, entry.2))
  | none => .unmergeable

/-- The key that a node is; there is none where entries are to be merged. -/
def keyOf : Node → Option (Except DocumentFault Scalar)
  | .scalar written => if written.isMerge then none else some (Scalar.ofKey written)
  | _ => some (.error .compositeKey)

mutual

/-- The draft of a node. -/
def ofNode : Node → Draft
  | .scalar written => .scalar (Scalar.ofWritten written)
  | .sequence items => .list (ofItems items)
  | .mapping entries => ofEntries (ofNodeEntries entries)

/-- The drafts of the items of a sequence. -/
def ofItems : List Node → List Draft
  | [] => []
  | item :: rest => ofNode item :: ofItems rest

/-- The keys and drafts of the entries of a mapping. -/
def ofNodeEntries : List (Node × Node) → List (Option (Except DocumentFault Scalar) × Draft)
  | [] => []
  | (key, node) :: rest => (keyOf key, ofNode node) :: ofNodeEntries rest

end

/-! ## From drafts to values -/

/-- A value, or its first fault and how many levels down it lies. -/
abbrev Leveled (α : Type) := Except (Nat × DocumentFault) α

/-- What lies one level further down. -/
def deeper {α : Type} (x : Leveled α) : Leveled α :=
  x.mapError fun e => (e.1 + 1, e.2)

/-- Two parts. Of two faults the one on the upper level comes first, on one level the one in front. -/
def both {α β : Type} : Leveled α → Leveled β → Leveled (α × β)
  | .ok a, .ok b => .ok (a, b)
  | .ok _, .error e => .error e
  | .error e, .ok _ => .error e
  | .error e, .error f => .error (if f.1 < e.1 then f else e)

mutual

/-- The value of a draft. -/
def value : Draft → Leveled Value
  | .scalar s => (s.map Value.scalar).mapError fun e => (0, e)
  | .list items => (deeper (values items)).map Value.list
  | .mapping entries => (deeper (entryValues entries)).map Value.ofEntries
  | .unmergeable => .error (1, .unmergeable)

/-- The values of the items of a list. -/
def values : List Draft → Leveled (List Value)
  | [] => .ok []
  | item :: rest => (both (value item) (values rest)).map fun p => p.1 :: p.2

/-- The keys and values of the entries of a mapping. -/
def entryValues : List (Except DocumentFault Scalar × Draft) → Leveled (List (Scalar × Value))
  | [] => .ok []
  | (key, draft) :: rest =>
    (both (both (key.mapError fun e => (0, e)) (value draft)) (entryValues rest)).map fun p =>
      p.1 :: p.2

end

end Draft

namespace Value

/-- The value of a node. -/
def ofNode (node : Node) : Except DocumentFault Value :=
  (Draft.ofNode node).value.mapError Prod.snd

/-- Line ends of two characters and of a carriage return, as line feeds. -/
def lineFeeds : Text → Text
  | [] => []
  | '\r' :: '\n' :: r => '\n' :: lineFeeds r
  | c :: r => (if c = '\r' then '\n' else c) :: lineFeeds r

/-- The value of a document. -/
def ofDocument (t : Text) : Except DocumentFault Value := do
  ofNode (← Node.ofTokens (Token.ofText (lineFeeds t)))

end Value

end AccessGrants
