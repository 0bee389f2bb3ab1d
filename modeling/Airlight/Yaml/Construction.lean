import Airlight.Document.Mapping
import Airlight.Yaml.Content
import Airlight.Yaml.Merge

/-!
# Construction

The values of the nodes of a document are made level by level: the value of a scalar at once where
the scalar is met, the content of a collection after all collections that were met before it. So a
fault of an outer collection counts before those of the collections in it. A node that is met again
has been made already.
-/

namespace Airlight.Yaml

/-- What has been made of a node. Other nodes are given by their places in the graph. -/
inductive Made (α : Type) where
  | scalar (value : Value α)
  | list (items : List Nat)
  | pairs (items : List (Nat × Nat))
  | mapping (entries : List (Nat × Nat))
  | set (members : List Nat)

namespace Made

variable {α : Type}

/-- Whether something can be a key. -/
def isKey : Made α → Bool
  | scalar _ => true
  | _ => false

/-- What a collection of a kind is before it has content. -/
def blank (kind : Kind) : Made α :=
  if kind = .mapping then mapping [] else if kind = .set then set [] else list []

/-- The value of something when the values of other nodes are known. -/
def toValue (valueOf : Nat → Value α) : Made α → Value α
  | scalar value => value
  | list items => .list (items.map valueOf)
  | pairs items => .list (items.map fun (a, b) => .pair (valueOf a) (valueOf b))
  | mapping entries => .mapping (entries.map fun (k, v) => (valueOf k, valueOf v))
  | set members => .set (members.map valueOf)

end Made

namespace Graph

/-- How many mappings may stand in each other for the text of a scalar. -/
def maxDefaults : Nat := 975

/-- The text of a node that has one: a scalar, or a mapping with a value that it has as a scalar. -/
def textOf (g : Graph) : Nat → Nat → Except Fault Text
  | 0, _ => .error .depth
  | fuel + 1, id =>
    match g[id]? with
    | some ⟨_, .scalar content⟩ => .ok content
    | some ⟨_, .mapping entries⟩ =>
      match entries.find? fun (k, _) => g.kindOf k = .default with
      | some (_, value) => textOf g fuel value
      | none => .error .malformed
    | _ => .error .malformed

/-- The value of a node whose kind is that of a scalar. -/
def scalarOf {α : Type} [Scalar α] (g : Graph) (id : Nat) : Except Fault (Value α) := do
  let kind := g.kindOf id
  if kind = .merge ∨ kind = .default ∨ kind = .unknown then throw .malformed
  let content ← g.textOf maxDefaults id
  if kind = .time && (g.entriesOf? id).isSome then throw .noText
  kind.value content

/-- Whether a node is an undefined number given by its word, of which there is only one. -/
def isUndefinedWord (g : Graph) (id : Nat) : Bool :=
  g.kindOf id = .real &&
    match g.textOf maxDefaults id with
    | .ok content => Yaml.isUndefinedWord content
    | .error _ => false

end Graph

/-- A document whose values are being made. -/
structure Construction (α : Type) where
  graph : Graph
  made : Array (Option (Made α))
  /-- The collections that have been met, in that order. -/
  met : Array Nat

namespace Construction

variable {α : Type} [Scalar α]

/-- The construction with something made of a node. -/
def make (s : Construction α) (id : Nat) (m : Made α) : Construction α :=
  { s with made := s.made.setIfInBounds id (some m) }

/-- Meets a node. -/
def meet (s : Construction α) (id : Nat) : Except Fault (Construction α) := do
  if (s.made.getD id none).isSome then return s
  let kind := s.graph.kindOf id
  if kind.isCollection then return { s.make id (.blank kind) with met := s.met.push id }
  return s.make id (.scalar (← s.graph.scalarOf id))

/-- Whether two nodes are the same key. -/
def sameKey (s : Construction α) (a b : Nat) : Bool :=
  a = b || (s.graph.isUndefinedWord a && s.graph.isUndefinedWord b) ||
    match s.made.getD a none, s.made.getD b none with
    | some (.scalar v), some (.scalar w) => v.sameKey w
    | _, _ => false

/-- Adds an entry to a mapping. For a key that is there already the value is replaced. -/
def insert (s : Construction α) (entries : List (Nat × Nat)) (key value : Nat) :
    List (Nat × Nat) :=
  match entries with
  | [] => [(key, value)]
  | (k, v) :: rest =>
    if s.sameKey k key then (k, value) :: rest else (k, v) :: s.insert rest key value

/-- Meets the entries of a mapping one after another. Collections are no keys. -/
def meetEntries (s : Construction α) (entries : List (Nat × Nat)) :
    Except Fault (Construction α × List (Nat × Nat)) :=
  entries.foldlM (fun (s, known) (key, value) => do
    let s ← s.meet key
    if !(s.made.getD key none).any (·.isKey) then throw .malformed
    let s ← s.meet value
    return (s, s.insert known key value)) (s, [])

/-- Meets the single entries of mappings one after another. -/
def meetPairs (s : Construction α) (items : List Nat) :
    Except Fault (Construction α × List (Nat × Nat)) :=
  items.foldlM (fun (s, pairs) id => do
    match s.graph.entriesOf? id with
    | some [(key, value)] => return (← (← s.meet key).meet value, pairs ++ [(key, value)])
    | _ => throw .malformed) (s, [])

/-- Makes the content of a collection. -/
def fill (s : Construction α) (id : Nat) : Except Fault (Construction α) := do
  match s.graph[id]? with
  | some ⟨.sequence, .sequence items⟩ => return (← items.foldlM meet s).make id (.list items)
  | some ⟨.pairs, .sequence items⟩ =>
    let (s, pairs) ← s.meetPairs items
    return s.make id (.pairs pairs)
  | some ⟨kind, .mapping _⟩ =>
    if kind ≠ .mapping ∧ kind ≠ .set then throw .malformed
    let s := { s with graph := ← s.graph.merge id }
    let (s, entries) ← s.meetEntries ((s.graph.entriesOf? id).getD [])
    return s.make id (if kind = .set then .set (entries.map (·.1)) else .mapping entries)
  | _ => throw .malformed

/-- Makes the contents of the collections that have been met from a place on. There is fuel for each
node. -/
def fillFrom (place : Nat) : Nat → Construction α → Except Fault (Construction α)
  | 0, s => .ok s
  | fuel + 1, s =>
    match s.met[place]? with
    | none => .ok s
    | some id => do fillFrom (place + 1) fuel (← s.fill id)

/-- Makes the values of all nodes that the document holds. -/
def ofGraph (g : Graph) (root : Nat) : Except Fault (Construction α) := do
  let s : Construction α := ⟨g, Array.replicate g.size none, #[]⟩
  fillFrom 0 (g.size + 1) (← s.meet root)

/-! ## Values -/

/-- The value of a node that does not contain itself, when the collections are given from the inner
ones to the outer ones. -/
def treeOf (s : Construction α) (collections : List Nat) (root : Nat) : Value α :=
  let scalars := s.made.map fun
    | some (.scalar value) => value
    | _ => .null
  let values := collections.foldl (fun values id =>
    match s.made.getD id none with
    | some m => values.setIfInBounds id (m.toValue (values.getD · .null))
    | none => values) scalars
  values.getD root .null

/-- The value of a node inside others that it may contain, with a knot for each collection. -/
def knotOf (s : Construction α) : Nat → List Nat → Nat → Value α
  | 0, _, _ => .null
  | fuel + 1, around, id =>
    match s.made.getD id none with
    | none => .null
    | some (.scalar value) => value
    | some m =>
      if around.contains id then .again id (s.graph.kindOf id = .mapping)
      else .knot id (m.toValue (s.knotOf fuel (id :: around)))

end Construction

end Airlight.Yaml
