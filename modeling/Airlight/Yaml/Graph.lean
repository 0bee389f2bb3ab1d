import Airlight.Yaml.Node
import Airlight.Yaml.Plain

/-!
# Graphs

The nodes of a document with their tags and references looked up form a `Graph`. A reference is an
edge to the node of that name, which may still be open: a collection can stand inside itself. Names
that are given twice or to nothing are refused.
-/

namespace Airlight.Yaml

/-- What a node holds. Other nodes are given by their places in the graph. -/
inductive Content where
  | scalar (text : Text)
  | sequence (items : List Nat)
  | mapping (entries : List (Nat × Nat))

/-- A node of a known kind. -/
structure Vertex where
  kind : Kind
  content : Content

/-- The nodes of a document. -/
abbrev Graph := Array Vertex

namespace Graph

/-- The kind of a node. -/
def kindOf (g : Graph) (id : Nat) : Kind :=
  match g[id]? with
  | some v => v.kind
  | none => .unknown

/-- The entries of a node that is a mapping. -/
def entriesOf? (g : Graph) (id : Nat) : Option (List (Nat × Nat)) :=
  match g[id]? with
  | some ⟨_, .mapping entries⟩ => some entries
  | _ => none

/-- The graph with another content of a node. -/
def setContent (g : Graph) (id : Nat) (content : Content) : Graph :=
  g.modify id fun v => { v with content }

/-- The graph with another kind of a node. -/
def setKind (g : Graph) (id : Nat) (kind : Kind) : Graph := g.modify id fun v => { v with kind }

end Graph

/-- A graph that is being put together. -/
structure Composition where
  handles : Handles
  graph : Graph
  /-- The nodes with names. -/
  names : List (String × Nat)
  /-- The collections around the current place, innermost first. -/
  around : List Nat
  /-- All collections that are complete, the last one first. -/
  complete : List Nat
  /-- Whether there is a collection that stands inside itself. -/
  isCyclic : Bool

namespace Composition

/-- Nothing yet. -/
def start (handles : Handles) : Composition := ⟨handles, #[], [], [], [], false⟩

/-- The tag in full, if there is one; it must be one that can be looked up. -/
def tag? (s : Composition) (about : Properties) : Option (Option String) :=
  match about.tag with
  | none => some none
  | some ⟨none, text⟩ => some (some text)
  | some ⟨some handle, text⟩ =>
    ((s.handles ++ [("!", "!"), ("!!", Kind.tagStart)]).lookup handle).map fun meaning =>
      some (meaning ++ text)

/-- Adds a node, whose name must be new. -/
def add? (s : Composition) (about : Properties) (kind : Kind) (content : Content) :
    Option (Nat × Composition) :=
  let id := s.graph.size
  let graph := s.graph.push ⟨kind, content⟩
  match about.anchor with
  | none => some (id, { s with graph })
  | some name =>
    if (s.names.lookup name).isSome then none
    else some (id, { s with graph, names := (name, id) :: s.names })

/-- Goes into a collection. -/
def enter (s : Composition) (id : Nat) : Composition := { s with around := id :: s.around }

/-- Completes a collection. -/
def leave (s : Composition) (id : Nat) (content : Content) : Composition :=
  { s with
    graph := s.graph.setContent id content
    around := s.around.tail
    complete := id :: s.complete }

mutual

/-- Adds a node with everything in it. -/
def ofNode? (s : Composition) : Node → Option (Nat × Composition)
  | .reference name => do
    let id ← s.names.lookup name
    return (id, { s with isCyclic := s.isCyclic || s.around.contains id })
  | .scalar about isPlain content => do
    let kind := Kind.ofScalar (← s.tag? about) isPlain content
    s.add? about kind (.scalar content)
  | .sequence about items => do
    let kind := Kind.ofCollection (← s.tag? about) .sequence
    let (id, s) ← s.add? about kind (.sequence [])
    let (items, s) ← ofNodes? (s.enter id) items
    return (id, s.leave id (.sequence items))
  | .mapping about entries => do
    let kind := Kind.ofCollection (← s.tag? about) .mapping
    let (id, s) ← s.add? about kind (.mapping [])
    let (entries, s) ← ofEntries? (s.enter id) entries
    return (id, s.leave id (.mapping entries))

/-- Adds several nodes. -/
def ofNodes? (s : Composition) : List Node → Option (List Nat × Composition)
  | [] => some ([], s)
  | n :: rest => do
    let (item, s) ← ofNode? s n
    let (items, s) ← ofNodes? s rest
    return (item :: items, s)

/-- Adds the entries of a mapping. -/
def ofEntries? (s : Composition) :
    List (Node × Node) → Option (List (Nat × Nat) × Composition)
  | [] => some ([], s)
  | (k, v) :: rest => do
    let (key, s) ← ofNode? s k
    let (value, s) ← ofNode? s v
    let (entries, s) ← ofEntries? s rest
    return ((key, value) :: entries, s)

end

end Composition

end Airlight.Yaml
