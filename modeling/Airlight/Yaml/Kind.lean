import Airlight.Text.Basic

/-!
# Kinds of values

A tag says what kind of value a node has.
-/

namespace Airlight.Yaml

/-- What kind of value a node has. -/
inductive Kind where
  | null
  | flag
  | integer
  | real
  | time
  | text
  /-- Bytes, written in base 64. -/
  | binary
  | sequence
  | mapping
  /-- The keys of a mapping. -/
  | set
  /-- A sequence of pairs, each written as a mapping with one entry. -/
  | pairs
  /-- A key whose value is merged into the mapping around it. -/
  | merge
  /-- The key of the value that a mapping has as a scalar. -/
  | default
  /-- A kind that has no values here. -/
  | unknown
  deriving DecidableEq, Repr

namespace Kind

/-- The kinds with tags of their own. -/
def tagged : List (String × Kind) := [
  ("null", null), ("bool", flag), ("int", integer), ("float", real), ("timestamp", time),
  ("str", text), ("binary", binary), ("seq", sequence), ("map", mapping), ("set", set),
  ("pairs", pairs), ("omap", pairs), ("merge", merge), ("value", default)]

/-- What the tags of the format begin with. -/
def tagStart : String := "tag:yaml.org,2002:"

/-- The kind that a tag says. -/
def ofTag (tag : String) : Kind :=
  match tagged.find? fun (name, _) => tagStart ++ name = tag with
  | some (_, kind) => kind
  | none => unknown

/-- Whether the values of a kind are collections. -/
def isCollection (kind : Kind) : Bool :=
  kind = sequence || kind = mapping || kind = set || kind = pairs

end Kind

end Airlight.Yaml
