import Airlight.Yaml.Construction

/-!
# YAML documents

Reads a document into a value. A key that is given again replaces the earlier value and keeps its
place. The rules of the format come first: only a document that keeps them has values, which may be
misspelled.
-/

namespace Airlight.Yaml

/-- Whether a character may stand in a document. -/
def isAllowed (c : Char) : Bool :=
  c = '\t' || c = '\n' || (' ' ≤ c && c ≤ '~') || c = '\x85' || ('\xa0' ≤ c && c ≤ '\ufffd') ||
    0x10000 ≤ c.toNat

/-- The text with every line end written as a line feed. -/
def withLineFeeds : List Char → List Char
  | '\r' :: '\n' :: rest => '\n' :: withLineFeeds rest
  | '\r' :: rest => '\n' :: withLineFeeds rest
  | c :: rest => c :: withLineFeeds rest
  | [] => []

/-- How many characters are looked at together. -/
def chunk : Nat := 4096

/-- How many characters have been looked at when the first `n` are needed: two chunks, or as many as
it takes. -/
def lookAhead (n : Nat) : Nat := max (2 * chunk) ((n + chunk - 1) / chunk * chunk)

/-- The nodes of a document whose characters are all allowed, and the state after its first node. -/
def compose (cs : List Char) : Except Stop (Nat × Composition) := do
  let source ← orStop (Source.ofTokens? (Token.ofText cs))
  let composed ← orStop (Composition.ofNode? (.start source.handles) source.node)
  source.checkEnd
  return composed

/-- The nodes of a document. A character that is not allowed counts when it is looked at, before or
after another fault. -/
def parse (text : String) : Except Fault (Nat × Composition) :=
  let all := withLineFeeds text.toList
  let cs := if all.head? = some '\ufeff' then all.tail else all
  match compose cs with
  | .ok composed => if all.all isAllowed then .ok composed else .error .malformed
  | .error stop =>
    let seen := lookAhead (stop.reach + (all.length - cs.length))
    if (all.take seen).all isAllowed then .error stop.cause else .error .malformed

/-- The value of a document. -/
def read {α : Type} [Scalar α] (text : String) : Except Fault (Value α) := do
  let (root, composition) ← parse text
  let s ← Construction.ofGraph composition.graph root
  return if composition.isCyclic then s.knotOf (composition.graph.size + 1) [] root
    else s.treeOf composition.complete.reverse root

end Airlight.Yaml
