import AccessGrants.Document.Token

/-!
# Nodes of a document

A node is a scalar, a sequence or a mapping as it is written: nothing is resolved yet.

* `Node` has the nodes; `Node.empty` stands where nothing is written.
* `Node.ofTokens` reads the one document of a token stream. The readers are given more fuel than
  tokens can use up.
-/

namespace AccessGrants

/-- A part of a document as it is written. -/
inductive Node
  | scalar (written : Written)
  | sequence (items : List Node)
  | mapping (entries : List (Node × Node))

namespace Node

/-- The node where nothing is written. -/
def empty : Node := .scalar (.plain [])

/-- What follows has one of the given tokens at its head, or is at its end. -/
def stops (tokens : List Token) : List Token → Bool
  | [] => true
  | t :: _ => tokens.contains t

/-- The fault of tokens that do not go on as they have to. -/
def unexpected : List Token → DocumentFault
  | [] => .unexpectedEnd
  | .fault e :: _ => e
  | _ :: _ => .unexpectedToken

/-- The tokens after which a key or a value of a block mapping is empty. -/
def endsBlockEntry : List Token := [.key, .value, .blockEnd]

/-- The tokens after which an item of a sequence without a block of its own is empty. -/
def endsIndentlessItem : List Token := [.blockEntry, .key, .value, .blockEnd]

mutual

/-- Reads a node. `block` says that it may be a block, `indentless` that its items may be indented
like the mapping they stand in. -/
def read (block indentless : Bool) : Nat → List Token → Except DocumentFault (Node × List Token)
  | 0, _ => .error .tooDeep
  | _ + 1, .scalar written :: rest => .ok (.scalar written, rest)
  | fuel + 1, .flowSequenceStart :: rest => do
    let (items, rest) ← readFlowItems true fuel rest
    return (.sequence items, rest)
  | fuel + 1, .flowMappingStart :: rest => do
    let (entries, rest) ← readFlowEntries true fuel rest
    return (.mapping entries, rest)
  | fuel + 1, .blockEntry :: rest => do
    if !indentless then throw .unexpectedToken
    let (items, rest) ← readIndentlessItems fuel (.blockEntry :: rest)
    return (.sequence items, rest)
  | fuel + 1, .blockSequenceStart :: rest => do
    if !block then throw .unexpectedToken
    let (items, rest) ← readBlockItems fuel rest
    return (.sequence items, rest)
  | fuel + 1, .blockMappingStart :: rest => do
    if !block then throw .unexpectedToken
    let (entries, rest) ← readBlockEntries fuel rest
    return (.mapping entries, rest)
  | _ + 1, tokens => .error (unexpected tokens)

/-- Reads a node, or the empty one if one of the given tokens follows. -/
def readUnless (tokens : List Token) (block indentless : Bool) :
    Nat → List Token → Except DocumentFault (Node × List Token)
  | 0, _ => .error .tooDeep
  | fuel + 1, rest =>
    if stops tokens rest then .ok (empty, rest) else read block indentless fuel rest

/-- Reads the items of a block sequence and its end. -/
def readBlockItems : Nat → List Token → Except DocumentFault (List Node × List Token)
  | 0, _ => .error .tooDeep
  | fuel + 1, .blockEntry :: rest => do
    let (item, rest) ← readUnless [.blockEntry, .blockEnd] true false fuel rest
    let (items, rest) ← readBlockItems fuel rest
    return (item :: items, rest)
  | _ + 1, .blockEnd :: rest => .ok ([], rest)
  | _ + 1, tokens => .error (unexpected tokens)

/-- Reads the items of a sequence that is indented like the mapping it stands in. -/
def readIndentlessItems : Nat → List Token → Except DocumentFault (List Node × List Token)
  | 0, _ => .error .tooDeep
  | fuel + 1, .blockEntry :: rest => do
    let (item, rest) ← readUnless endsIndentlessItem true false fuel rest
    let (items, rest) ← readIndentlessItems fuel rest
    return (item :: items, rest)
  | _ + 1, rest => .ok ([], rest)

/-- Reads the entries of a block mapping and its end. -/
def readBlockEntries : Nat → List Token → Except DocumentFault (List (Node × Node) × List Token)
  | 0, _ => .error .tooDeep
  | fuel + 1, .key :: rest => do
    let (key, rest) ← readUnless endsBlockEntry true true fuel rest
    let (value, rest) ← readValue endsBlockEntry true fuel rest
    let (entries, rest) ← readBlockEntries fuel rest
    return ((key, value) :: entries, rest)
  | _ + 1, .blockEnd :: rest => .ok ([], rest)
  | _ + 1, tokens => .error (unexpected tokens)

/-- Reads the value after a key; it is empty if there is no colon, or nothing after it. -/
def readValue (tokens : List Token) (block : Bool) :
    Nat → List Token → Except DocumentFault (Node × List Token)
  | 0, _ => .error .tooDeep
  | fuel + 1, .value :: rest => readUnless tokens block block fuel rest
  | _ + 1, rest => .ok (empty, rest)

/-- Reads the items of a sequence in brackets and the bracket at its end. -/
def readFlowItems (first : Bool) : Nat → List Token → Except DocumentFault (List Node × List Token)
  | 0, _ => .error .tooDeep
  | _ + 1, .flowSequenceEnd :: rest => .ok ([], rest)
  | fuel + 1, .flowEntry :: rest =>
    if first then .error .unexpectedToken
    else readFlowItem fuel rest
  | fuel + 1, rest => if first then readFlowItem fuel rest else .error (unexpected rest)

/-- Reads an item of a sequence in brackets and the items after it. An item may be a single entry
of a mapping. -/
def readFlowItem : Nat → List Token → Except DocumentFault (List Node × List Token)
  | 0, _ => .error .tooDeep
  | _ + 1, .flowSequenceEnd :: rest => .ok ([], rest)
  | fuel + 1, .key :: rest => do
    let (key, rest) ← readUnless [.value, .flowEntry, .flowSequenceEnd] false false fuel rest
    let (value, rest) ← readValue [.flowEntry, .flowSequenceEnd] false fuel rest
    let (items, rest) ← readFlowItems false fuel rest
    return (.mapping [(key, value)] :: items, rest)
  | fuel + 1, rest => do
    let (item, rest) ← read false false fuel rest
    let (items, rest) ← readFlowItems false fuel rest
    return (item :: items, rest)

/-- Reads the entries of a mapping in brackets and the bracket at its end. -/
def readFlowEntries (first : Bool) :
    Nat → List Token → Except DocumentFault (List (Node × Node) × List Token)
  | 0, _ => .error .tooDeep
  | _ + 1, .flowMappingEnd :: rest => .ok ([], rest)
  | fuel + 1, .flowEntry :: rest =>
    if first then .error .unexpectedToken
    else readFlowEntry fuel rest
  | fuel + 1, rest => if first then readFlowEntry fuel rest else .error (unexpected rest)

/-- Reads an entry of a mapping in brackets and the entries after it. A key may stand alone. -/
def readFlowEntry : Nat → List Token → Except DocumentFault (List (Node × Node) × List Token)
  | 0, _ => .error .tooDeep
  | _ + 1, .flowMappingEnd :: rest => .ok ([], rest)
  | fuel + 1, .key :: rest => do
    let (key, rest) ← readUnless [.value, .flowEntry, .flowMappingEnd] false false fuel rest
    let (value, rest) ← readValue [.flowEntry, .flowMappingEnd] false fuel rest
    let (entries, rest) ← readFlowEntries false fuel rest
    return ((key, value) :: entries, rest)
  | fuel + 1, rest => do
    let (key, rest) ← read false false fuel rest
    let (entries, rest) ← readFlowEntries false fuel rest
    return ((key, empty) :: entries, rest)

end

/-- Reads the node of a document that starts here, and what is left after it. -/
def readDocument (tokens : List Token) : Except DocumentFault (Node × List Token) :=
  let fuel := 4 * tokens.length + 4
  match tokens with
  | [] => .ok (empty, [])
  | .documentStart :: rest =>
    if stops [.documentStart, .documentEnd] rest then .ok (empty, rest)
    else read true false fuel rest
  | tokens => read true false fuel tokens

/-- Only markers of a document end are left. -/
def checkEnd : List Token → Except DocumentFault Unit
  | [] => .ok ()
  | .documentEnd :: rest => checkEnd rest
  | .fault e :: _ => .error e
  | _ :: _ => .error .furtherDocument

/-- The node of the one document of a token stream; an empty stream has the empty node. -/
def ofTokens (tokens : List Token) : Except DocumentFault Node := do
  let (node, rest) ← readDocument tokens
  checkEnd rest
  return node

end Node

end AccessGrants
