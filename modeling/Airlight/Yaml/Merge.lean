import Airlight.Yaml.Fault
import Airlight.Yaml.Graph

/-!
# Merging

A mapping that has an entry for the merge key takes the entries of the mapping given there, or of
the mappings of the sequence given there from the last to the first. They come in front of its own,
so that a later entry for the same key replaces them. The mappings that are merged are merged
themselves before.
-/

namespace Airlight.Yaml.Graph

/-- How many mappings may be merged into each other. -/
def maxMerges : Nat := 975

/-- How many entries for the merge key there are. -/
def mergeCount (g : Graph) : Nat :=
  g.foldl (fun n v =>
    match v.content with
    | .mapping entries => n + entries.countP fun (k, _) => g.kindOf k = .merge
    | _ => n) 0

/-- The keys of default values among some entries count as texts. -/
def withTextKeys (g : Graph) (entries : List (Nat × Nat)) : Graph :=
  entries.foldl (fun g (k, _) => if g.kindOf k = .default then g.setKind k .text else g) g

/-- Splits entries at the first one for the merge key from a place on: the entries without it, its
place and its value. -/
def takeMerge? (g : Graph) (start : Nat) (entries : List (Nat × Nat)) :
    Option (List (Nat × Nat) × Nat × Nat) :=
  let before := (entries.drop start).takeWhile fun (k, _) => g.kindOf k ≠ .merge
  let place := start + before.length
  match entries.drop place with
  | (_, value) :: after => some (entries.take place ++ after, place, value)
  | [] => none

/-- The entries of the mappings that the value of a merge key stands for, when `entriesFor` gives
those of a mapping. -/
def mergedBy (entriesFor : Graph → Nat → Except Fault (Graph × List (Nat × Nat)))
    (g : Graph) (value : Nat) : Except Fault (Graph × List (Nat × Nat)) :=
  match g[value]? with
  | some ⟨_, .mapping _⟩ => entriesFor g value
  | some ⟨_, .sequence items⟩ =>
    items.foldlM (fun (g, others) id => do
      if (g.entriesOf? id).isNone then throw .malformed
      let (g, entries) ← entriesFor g id
      return (g, entries ++ others)) (g, [])
  | _ => .error .malformed

/-- Merges into a mapping what its entries from a place on say. The entries that are to be merged
are collected. There is fuel for each entry with the merge key. -/
def mergeFrom : Nat → Nat → Graph → Nat → Nat → List (Nat × Nat) → Except Fault Graph
  | 0, _, _, _, _, _ => .error .malformed
  | fuel + 1, depth, g, id, start, merged => do
    let entries := (g.entriesOf? id).getD []
    match takeMerge? g start entries with
    | none =>
      let g := g.withTextKeys entries
      return if merged.isEmpty then g else g.setContent id (.mapping (merged ++ entries))
    | some (others, place, value) =>
      let entriesFor (g : Graph) (id : Nat) : Except Fault (Graph × List (Nat × Nat)) := do
        if depth = 0 then throw .depth
        let g ← mergeFrom fuel (depth - 1) g id 0 []
        return (g, (g.entriesOf? id).getD [])
      let (g, more) ← mergedBy entriesFor (g.setContent id (.mapping others)) value
      mergeFrom fuel depth g id place (merged ++ more)

/-- Merges into a mapping what its entries say. -/
def merge (g : Graph) (id : Nat) : Except Fault Graph :=
  g.mergeFrom (g.mergeCount + 1) maxMerges id 0 []

end Airlight.Yaml.Graph
