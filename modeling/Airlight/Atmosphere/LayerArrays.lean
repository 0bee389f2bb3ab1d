import Airlight.Atmosphere.LayerStack

/-!
# Layers with arrays of coefficients

The coefficients of a layer may be arrays, which are combined with each other and with an array of
altitudes. Such a profile is an array of stacks, one for each position of the common sizes of the
coefficients.

Coefficients that are document values become arrays when they are used: they fail in the order in
which the densities of the layers are computed, from the top layer down.
-/

namespace Airlight

open Scalar

variable {α φ : Type} [Scalar α] [Inhabited α]

namespace DensityLayer

/-- The sizes of the coefficients that a density is computed from. -/
def shapes (layer : DensityLayer (Tensor α)) : List (List Nat) :=
  [layer.expTerm.shape, layer.expScale.shape, layer.linearTerm.shape, layer.constantTerm.shape]

/-- The layer with the same coefficients at all positions. -/
def toArrays (layer : DensityLayer α) : DensityLayer (Tensor α) :=
  ⟨.single layer.width, .single layer.expTerm, .single layer.expScale, .single layer.linearTerm,
    .single layer.constantTerm⟩

/-- The layer at a position of the common sizes. -/
def atPosition (layer : DensityLayer (Tensor α)) (common : List Nat) (k : Nat) :
    DensityLayer α where
  width := layer.width.repeated common k
  expTerm := layer.expTerm.repeated common k
  expScale := layer.expScale.repeated common k
  linearTerm := layer.linearTerm.repeated common k
  constantTerm := layer.constantTerm.repeated common k

/-- The layer without its width, which does not matter for the density. -/
def withoutWidth (layer : DensityLayer (Tensor α)) : DensityLayer (Tensor α) :=
  { layer with width := .single 0.0 }

/-- The densities that a layer gives at an array of altitudes. -/
def densities (layer : DensityLayer (Tensor α)) (altitudes : Tensor α) :
    Except (Failure φ) (Tensor α) := do
  let layer := layer.withoutWidth
  let common ← Tensor.joinAll (altitudes.shape :: layer.shapes)
  return Tensor.ofFn common fun k =>
    (layer.atPosition common k).density (altitudes.repeated common k)

/-- The layer in a length unit larger by an array of factors. A single width must not be divided by
a single zero. -/
def scaledArrays (layer : DensityLayer (Tensor α)) (factor : Tensor α) :
    Except (Failure α) (DensityLayer (Tensor α)) := do
  if layer.width.isSingle && factor.isSingle then
    let _ ← divide? (layer.width.repeated [] 0) (factor.repeated [] 0)
  let width ← Tensor.map₂ (· / ·) layer.width factor
  let expScale ← Tensor.map₂ (· * ·) layer.expScale factor
  let linearTerm ← Tensor.map₂ (· * ·) layer.linearTerm factor
  return { layer with width, expScale, linearTerm }

/-- Whether the densities of a layer are kept as they are, because one of its coefficients is. -/
def keepsElements (layer : DensityLayer (Value α)) : Bool :=
  [layer.expTerm, layer.linearTerm, layer.constantTerm].any Operand.keepsElements

/-- The arrays that the coefficients of a layer form beside an array of altitudes, and the sizes of
the densities that they give. There is no exponential of elements that are kept as they are. A scale
of the exponential for a single altitude leaves a single number, by which no list can be multiplied.
The width stays out of the density. -/
def arrays (layer : DensityLayer (Value α)) (altitude : List Nat) :
    Except (Failure α) (DensityLayer (Tensor α) × List Nat) := do
  let (expScale, exponent) ← layer.expScale.combine altitude
  if Operand.keepsElements layer.expScale && volume exponent ≠ 0 then throw .type
  let (expTerm, exponential) ←
    if exponent.isEmpty then pure (.single (← layer.expTerm.operandOrFail), [])
    else layer.expTerm.combine exponent
  let (linearTerm, linear) ← layer.linearTerm.combine altitude
  let (constantTerm, shape) ←
    layer.constantTerm.combineAfter (← Tensor.joinShapes exponential linear)
  return ({ width := .single 0.0, expTerm, expScale, linearTerm, constantTerm }, shape)

end DensityLayer

namespace Profile

/-- Densities that fall by the factor e over each scale height. A single one must not be zero. -/
def exponentialOver (scaleHeights : Tensor α) : Except (Failure α) (Profile (Tensor α)) := do
  if scaleHeights.isSingle then
    return (← exponential (scaleHeights.repeated [] 0)).map DensityLayer.toArrays
  else
    return [{ DensityLayer.empty.toArrays with
      expTerm := .single 1.0
      expScale := scaleHeights.map (-1.0 / ·) }]

/-- Densities that do not depend on the altitude. -/
def uniformOver (densities : Tensor α) : Profile (Tensor α) :=
  [{ DensityLayer.empty.toArrays with constantTerm := densities }]

/-- The stacks at the positions of the common sizes of all coefficients. -/
def stacksOf (bounded : List (α × Stratum (Tensor α))) (top : Stratum (Tensor α)) :
    Except (Failure φ) (Tensor (LayerStack α)) := do
  let strata := bounded.map Prod.snd ++ [top]
  let common ← Tensor.joinAll (strata.flatMap fun s => s.layer.shapes)
  let at' (s : Stratum (Tensor α)) (k : Nat) : Stratum α := ⟨s.layer.atPosition common k, s.clears⟩
  return Tensor.ofFn common fun k =>
    ⟨bounded.map fun (upper, s) => (upper, at' s k), some (at' top k)⟩

/-- The arrays of a layer as part of a stack, and the sizes of its densities. -/
def stratum (layer : DensityLayer (Value α)) (altitude : List Nat) :
    Except (Failure α) (Stratum (Tensor α) × List Nat) := do
  let (arrays, shape) ← layer.arrays altitude
  return (⟨arrays, layer.keepsElements⟩, shape)

/-- The arrays of layers with given upper ends, from the highest one down. The sizes of the
densities so far have to fit each of them. -/
def strataDown (altitude : List Nat) : List (Quantity α × DensityLayer (Value α)) → List Nat →
    Except (Failure α) (List (α × Stratum (Tensor α)))
  | [], _ => .ok []
  | (upper, layer) :: below, shape => do
    let upper ← upper.number
    let (s, own) ← stratum layer altitude
    let shape ← Tensor.joinAll [altitude, own, shape]
    return (← strataDown altitude below shape) ++ [(upper, s)]

/-- The stacks that layers of document values describe, for altitudes of the given sizes. -/
def stacksAt (layers : Profile (Value α)) (altitude : List Nat) :
    Except (Failure α) (Tensor (LayerStack α)) := do
  match layers.stack?, layers.getLast? with
  | some stack, _ => return .single stack
  | none, none => return .single .empty
  | none, some top =>
    let (top, shape) ← stratum top altitude
    let lower := layers.dropLast
    let ends ← upperEnds (lower.map DensityLayer.width)
    stacksOf (← strataDown altitude (ends.zip lower).reverse shape) top

/-- The stacks of layers with arrays of coefficients. Arrays of widths have to be of the same sizes.
The running sums go through all their values, and the last sums are the upper ends. -/
def arrayStacks (layers : Profile (Tensor α)) : Except (Failure φ) (Tensor (LayerStack α)) :=
  let strata := layers.map fun layer => (⟨layer.withoutWidth, false⟩ : Stratum (Tensor α))
  let widths := layers.dropLast.map DensityLayer.width
  match strata.getLast? with
  | none => .ok (.single .empty)
  | some top =>
    if widths.any fun w => (widths.head?.any fun first => w.shape ≠ first.shape) then
      .error (.shapes .other)
    else
      let sums := runningSums (widths.flatMap fun w => w.data.toList)
      stacksOf ((sums.drop (sums.length - widths.length)).zip strata) top

/-- The densities of a profile with arrays of coefficients at an array of altitudes. -/
def densities (layers : Profile (Tensor α)) (altitudes : Tensor α) :
    Except (Failure φ) (Tensor α) := do
  Tensor.map₂ LayerStack.density (← arrayStacks layers) altitudes

end Profile

end Airlight
