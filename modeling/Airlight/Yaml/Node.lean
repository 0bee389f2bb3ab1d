import Airlight.Yaml.Token

/-!
# Nodes

The tree that the tokens of a document describe. Absent keys, values and entries are empty plain
scalars. Where the tokens end with a fault, the tree holds what comes before it.
-/

namespace Airlight.Yaml

/-- What is written in front of a node. -/
structure Properties where
  /-- The name under which the node can be referred to. -/
  anchor : Option String
  tag : Option Tag

/-- Nothing in front of a node. -/
def Properties.absent : Properties := ⟨none, none⟩

/-- Takes what is written in front of a node. -/
def Properties.take : List Token → Properties × List Token
  | .anchor name :: .tag tag :: rest => (⟨some name, some tag⟩, rest)
  | .tag tag :: .anchor name :: rest => (⟨some name, some tag⟩, rest)
  | .anchor name :: rest => (⟨some name, none⟩, rest)
  | .tag tag :: rest => (⟨none, some tag⟩, rest)
  | rest => (absent, rest)

/-- Whether nothing is in front of a node. -/
def Properties.isAbsent (about : Properties) : Bool := about.anchor.isNone && about.tag.isNone

/-- A part of a document: a scalar, plain or not, a collection of parts, or another node by its
name. -/
inductive Node where
  | scalar (about : Properties) (isPlain : Bool) (text : Text)
  | sequence (about : Properties) (items : List Node)
  | mapping (about : Properties) (entries : List (Node × Node))
  | reference (name : String)

namespace Node

/-- What stands where nothing is written. -/
def blank : Node := scalar .absent true ""

/-- Whether a block key or value is left out before the next token. -/
def absentInMapping : List Token → Bool
  | .key :: _ | .value :: _ | .blockEnd :: _ => true
  | _ => false

/-- Whether an entry of a block sequence is left out before the next token. -/
def absentInSequence : List Token → Bool
  | .entry :: _ | .blockEnd :: _ => true
  | _ => false

/-- Whether an entry of a sequence that ends with the mapping around it is left out. -/
def absentInIndentless (tokens : List Token) : Bool :=
  absentInMapping tokens || tokens.head? = some .entry

/-- Whether a key in brackets is left out before the next token. -/
def absentInFlow (closing : Token) : List Token → Bool
  | t :: _ => t = .value || t = .comma || t = closing
  | [] => false

/-- Where a node stands, which decides what it may be. -/
inductive Place where
  /-- Between brackets. -/
  | flow
  /-- In a block, but not directly in a mapping. -/
  | block
  /-- In a block mapping, where a sequence needs no indentation of its own. -/
  | inMapping
  deriving DecidableEq

/-- How many levels of nodes there may be. -/
def maxDepth : Nat := 488

mutual

/-- Reads a node, of whose inner nodes there may be a number of levels. Where the tokens end with a
fault, a tag beside a name has been read before. -/
def read? (place : Place) : Nat → Nat → List Token → Option (Node × List Token)
  | 0, _, _ => none
  | fuel + 1, depth, tokens =>
    let (about, tokens) := Properties.take tokens
    if depth = 0 then some (blank, [.fault ⟨.depth, 0⟩])
    else match tokens with
    | .fault _ :: _ =>
      some (if about.anchor.isSome then scalar ⟨none, about.tag⟩ true "" else blank, tokens)
    | .plain text :: rest => some (scalar about true text, rest)
    | .quoted text :: rest => some (scalar about false text, rest)
    | .flowSequence :: rest => do
      let (items, rest) ← readFlowItems? fuel (depth - 1) true rest
      return (.sequence about items, rest)
    | .flowMapping :: rest => do
      let (entries, rest) ← readFlowEntries? fuel (depth - 1) true rest
      return (.mapping about entries, rest)
    | .blockSequence :: rest => do
      if place = .flow then none
      let (items, rest) ← readItems? fuel (depth - 1) rest
      return (.sequence about items, rest)
    | .blockMapping :: rest => do
      if place = .flow then none
      let (entries, rest) ← readEntries? fuel (depth - 1) rest
      return (.mapping about entries, rest)
    | .reference name :: rest =>
      if about.isAbsent then some (.reference name, rest) else some (scalar about true "", tokens)
    | .entry :: _ =>
      if place = .inMapping then do
        let (items, rest) ← readIndentlessItems? fuel (depth - 1) tokens
        return (.sequence about items, rest)
      else if about.isAbsent then none
      else some (scalar about true "", tokens)
    | _ => if about.isAbsent then none else some (scalar about true "", tokens)
termination_by structural fuel => fuel

/-- Reads a node unless it is left out. -/
def readUnless? (place : Place) (absent : Bool) :
    Nat → Nat → List Token → Option (Node × List Token)
  | 0, _, _ => none
  | fuel + 1, depth, tokens =>
    if absent then some (blank, tokens) else read? place fuel depth tokens
termination_by structural fuel => fuel

/-- Reads the items of a block sequence up to its end. -/
def readItems? : Nat → Nat → List Token → Option (List Node × List Token)
  | 0, _, _ => none
  | fuel + 1, depth, tokens =>
    match tokens with
    | .blockEnd :: rest => some ([], rest)
    | .fault _ :: _ => some ([], tokens)
    | .entry :: rest => do
      let (item, rest) ← readUnless? .block (absentInSequence rest) fuel depth rest
      let (items, rest) ← readItems? fuel depth rest
      return (item :: items, rest)
    | _ => none
termination_by structural fuel => fuel

/-- Reads the items of a sequence that ends with the mapping around it. -/
def readIndentlessItems? : Nat → Nat → List Token → Option (List Node × List Token)
  | 0, _, _ => none
  | fuel + 1, depth, tokens =>
    match tokens with
    | .entry :: rest => do
      let (item, rest) ← readUnless? .block (absentInIndentless rest) fuel depth rest
      let (items, rest) ← readIndentlessItems? fuel depth rest
      return (item :: items, rest)
    | rest => some ([], rest)
termination_by structural fuel => fuel

/-- Reads the entries of a block mapping up to its end. -/
def readEntries? : Nat → Nat → List Token → Option (List (Node × Node) × List Token)
  | 0, _, _ => none
  | fuel + 1, depth, tokens =>
    match tokens with
    | .blockEnd :: rest => some ([], rest)
    | .fault _ :: _ => some ([], tokens)
    | .key :: rest => do
      let (key, rest) ← readUnless? .inMapping (absentInMapping rest) fuel depth rest
      let (value, rest) ← readBlockValue? fuel depth rest
      let (entries, rest) ← readEntries? fuel depth rest
      return ((key, value) :: entries, rest)
    | _ => none
termination_by structural fuel => fuel

/-- Reads the value of a block entry, which may be left out. -/
def readBlockValue? : Nat → Nat → List Token → Option (Node × List Token)
  | 0, _, _ => none
  | fuel + 1, depth, tokens =>
    match tokens with
    | .value :: rest => readUnless? .inMapping (absentInMapping rest) fuel depth rest
    | rest => some (blank, rest)
termination_by structural fuel => fuel

/-- Reads the value of an entry in brackets, which may be left out. -/
def readFlowValue? (closing : Token) : Nat → Nat → List Token → Option (Node × List Token)
  | 0, _, _ => none
  | fuel + 1, depth, tokens =>
    match tokens with
    | .value :: rest =>
      readUnless? .flow (rest.head? = some .comma || rest.head? = some closing) fuel depth rest
    | rest => some (blank, rest)
termination_by structural fuel => fuel

/-- Reads the items of a sequence in brackets. A key makes the item a mapping with one entry. -/
def readFlowItems? : Nat → Nat → Bool → List Token → Option (List Node × List Token)
  | 0, _, _, _ => none
  | fuel + 1, depth, first, tokens =>
    match tokens with
    | .flowSequenceEnd :: rest => some ([], rest)
    | .fault _ :: _ => some ([], tokens)
    | .comma :: rest => if first then none else readFlowItem? fuel depth rest
    | _ => if first then readFlowItem? fuel depth tokens else none
termination_by structural fuel => fuel

/-- Reads an item of a sequence in brackets and the items after it. -/
def readFlowItem? : Nat → Nat → List Token → Option (List Node × List Token)
  | 0, _, _ => none
  | fuel + 1, depth, tokens =>
    match tokens with
    | .flowSequenceEnd :: rest => some ([], rest)
    | .key :: rest => do
      let (key, rest) ← readUnless? .flow (absentInFlow .flowSequenceEnd rest) fuel (depth - 1) rest
      let (value, rest) ← readFlowValue? .flowSequenceEnd fuel (depth - 1) rest
      let (items, rest) ← readFlowItems? fuel depth false rest
      return (.mapping .absent [(key, value)] :: items, rest)
    | _ => do
      let (item, rest) ← read? .flow fuel depth tokens
      let (items, rest) ← readFlowItems? fuel depth false rest
      return (item :: items, rest)
termination_by structural fuel => fuel

/-- Reads the entries of a mapping in brackets. -/
def readFlowEntries? : Nat → Nat → Bool → List Token → Option (List (Node × Node) × List Token)
  | 0, _, _, _ => none
  | fuel + 1, depth, first, tokens =>
    match tokens with
    | .flowMappingEnd :: rest => some ([], rest)
    | .fault _ :: _ => some ([], tokens)
    | .comma :: rest => if first then none else readFlowEntry? fuel depth rest
    | _ => if first then readFlowEntry? fuel depth tokens else none
termination_by structural fuel => fuel

/-- Reads an entry of a mapping in brackets and the entries after it. A node that is no key stands
for a key without a value. -/
def readFlowEntry? : Nat → Nat → List Token → Option (List (Node × Node) × List Token)
  | 0, _, _ => none
  | fuel + 1, depth, tokens =>
    match tokens with
    | .flowMappingEnd :: rest => some ([], rest)
    | .key :: rest => do
      let (key, rest) ← readUnless? .flow (absentInFlow .flowMappingEnd rest) fuel depth rest
      let (value, rest) ← readFlowValue? .flowMappingEnd fuel depth rest
      let (entries, rest) ← readFlowEntries? fuel depth false rest
      return ((key, value) :: entries, rest)
    | _ => do
      let (key, rest) ← read? .flow fuel depth tokens
      let (entries, rest) ← readFlowEntries? fuel depth false rest
      return ((key, blank) :: entries, rest)
termination_by structural fuel => fuel

end

end Node

/-- The short forms of tags that directives give. -/
abbrev Handles := List (String × String)

/-- A document before its names and tags are looked up, and the tokens after it. -/
structure Source where
  handles : Handles
  node : Node
  rest : List Token

namespace Source

/-- Reads the directives in front of a document. The flag says whether the version was given. -/
def readDirectives? (versioned : Bool) (handles : Handles) :
    List Token → Option (Handles × List Token)
  | .directive (.version major) :: rest =>
    if versioned || major ≠ 1 then none else readDirectives? true handles rest
  | .directive (.handle name meaning) :: rest =>
    if (handles.lookup name).isSome then none
    else readDirectives? versioned ((name, meaning) :: handles) rest
  | .directive .other :: rest => readDirectives? versioned handles rest
  | rest => some (handles, rest)

/-- Reads the content of a document after its first marker. -/
def readContent? (handles : Handles) (tokens : List Token) : Option Source :=
  match tokens with
  | [] | .directive _ :: _ | .documentStart :: _ | .documentEnd :: _ =>
    some ⟨handles, .blank, tokens⟩
  | _ => (Node.read? .block (4 * tokens.length + 4) Node.maxDepth tokens).map fun (node, rest) =>
    ⟨handles, node, rest⟩

/-- Reads a document. A text without any document counts as a blank one. -/
def ofTokens? (tokens : List Token) : Option Source :=
  match tokens with
  | [] => some ⟨[], .blank, []⟩
  | .documentStart :: rest => readContent? [] rest
  | .directive _ :: _ => do
    let (handles, rest) ← readDirectives? false [] tokens
    match rest with
    | .documentStart :: rest => readContent? handles rest
    | .fault _ :: _ => some ⟨handles, .blank, rest⟩
    | _ => none
  | _ =>
    (Node.read? .block (4 * tokens.length + 4) Node.maxDepth tokens).map fun (node, rest) =>
      ⟨[], node, rest⟩

/-- Removes the markers that end a document. -/
def dropEnds : List Token → List Token
  | .documentEnd :: rest => dropEnds rest
  | rest => rest

/-- Checks that nothing follows a document. -/
def checkEnd (s : Source) : Except Stop Unit :=
  match dropEnds s.rest with
  | [] => .ok ()
  | rest =>
    match readDirectives? false [] rest with
    | some (_, .fault stop :: _) => .error stop
    | _ => .error .malformed

end Source

end Airlight.Yaml
