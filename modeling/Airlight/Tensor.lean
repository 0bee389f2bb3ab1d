import Airlight.Failure.Basic

/-!
# Arrays with several axes

A `Tensor` is a list of sizes and one value for each position, the last index running fastest. Two
tensors can be combined position by position when, counted from the last axis, each pair of sizes is
equal or contains a one; an axis of size one is repeated.
-/

namespace Airlight

/-- The number of positions of an array with the given sizes. -/
def volume (shape : List Nat) : Nat := shape.foldr (· * ·) 1

/-- An array of values with the last index running fastest. -/
structure Tensor (α : Type) where
  shape : List Nat
  data : Array α
  size_eq : data.size = volume shape

namespace Tensor

variable {α β γ δ ε φ : Type}

/-- The array whose value at flat position `k` is `f k`. -/
@[inline] def ofFn (shape : List Nat) (f : Nat → α) : Tensor α :=
  ⟨shape, Array.ofFn fun (k : Fin (volume shape)) => f k, by simp⟩

/-- A single value, without axes. -/
def single (x : α) : Tensor α := ⟨[], #[x], rfl⟩

/-- A row of values. -/
def row (xs : List α) : Tensor α := ⟨[xs.length], xs.toArray, by simp [volume]⟩

/-- Vectors in flat order as an array whose last axis runs through their components. -/
def ofVectors [Inhabited α] {n : Nat} (shape : List Nat) (xs : Array (Vector α n)) : Tensor α :=
  ofFn (shape ++ [n]) fun k =>
    match xs[k / n]? with
    | some x => x.toArray.getD (k % n) default
    | none => default

/-- An array from its values in flat order, if their number is right. -/
def ofArray? (shape : List Nat) (data : Array α) : Option (Tensor α) :=
  if h : data.size = volume shape then some ⟨shape, data, h⟩ else none

/-- Applies a function to every value. -/
@[inline] def map (f : α → β) (t : Tensor α) : Tensor β :=
  ⟨t.shape, t.data.map f, by simp [t.size_eq]⟩

/-- The array of the results of a function that may fail, in flat order. -/
def mapM (f : α → Except ε β) (t : Tensor α) : Except ε (Tensor β) := do
  let results ← (⟨t.data, t.size_eq⟩ : Vector α (volume t.shape)).mapM f
  return ⟨t.shape, results.toArray, results.size_toArray⟩

/-- Appends an axis that runs through the components of the values. -/
def components [Inhabited α] {n : Nat} (t : Tensor (Vector α n)) : Tensor α :=
  ofVectors t.shape t.data

/-- Whether the array has a single value and no axes. -/
def isSingle (t : Tensor α) : Bool := t.shape.isEmpty

/-- Joins sizes counted from the last axis. -/
def joinReversed? : List Nat → List Nat → Option (List Nat)
  | [], ts => some ts
  | ss, [] => some ss
  | s :: ss, t :: ts =>
    if s = t ∨ t = 1 then (joinReversed? ss ts).map (s :: ·)
    else if s = 1 then (joinReversed? ss ts).map (t :: ·)
    else none

/-- The common sizes of two arrays that can be combined. -/
def join? (s t : List Nat) : Option (List Nat) :=
  (joinReversed? s.reverse t.reverse).map List.reverse

/-- The flat position in an array of sizes `own`, counted from the last axis, that flat position `k`
of the common sizes repeats. -/
def sourceReversed : List Nat → List Nat → Nat → Nat
  | s :: own, t :: common, k =>
    (if s = 1 then 0 else k % t) + s * sourceReversed own common (k / t)
  | _, _, _ => 0

/-- The value of `t` that position `k` of the common sizes repeats. -/
def repeated [Inhabited α] (t : Tensor α) (common : List Nat) (k : Nat) : α :=
  if t.shape = common then t.data.getD k default
  else t.data.getD (sourceReversed t.shape.reverse common.reverse k) default

/-- The array repeated to the given sizes. Surplus axes in front have to be of size one. -/
def fitTo? [Inhabited α] (t : Tensor α) (target : List Nat) : Option (Tensor α) :=
  let surplus := t.shape.length - target.length
  let shape := t.shape.drop surplus
  if (t.shape.take surplus).all (· == 1) && join? shape target == some target then
    some (ofFn target fun k =>
      t.data.getD (sourceReversed shape.reverse target.reverse k) default)
  else none

/-- The common sizes of several arrays, or a failure. -/
def joinAll (shapes : List (List Nat)) : Except (Failure φ) (List Nat) :=
  match shapes.foldlM join? [] with
  | some common => .ok common
  | none => .error (.shapes (.apart shapes))

/-- The common sizes of two arrays, or a failure. -/
def joinShapes (s t : List Nat) : Except (Failure φ) (List Nat) := joinAll [s, t]

/-- Combines two arrays position by position. -/
@[specialize] def map₂ [Inhabited α] [Inhabited β] (f : α → β → γ) (a : Tensor α) (b : Tensor β) :
    Except (Failure φ) (Tensor γ) := do
  let common ← joinAll [a.shape, b.shape]
  return ofFn common fun k => f (a.repeated common k) (b.repeated common k)

/-- Combines three arrays position by position. -/
@[specialize] def map₃ [Inhabited α] [Inhabited β] [Inhabited γ] (f : α → β → γ → δ)
    (a : Tensor α) (b : Tensor β) (c : Tensor γ) : Except (Failure φ) (Tensor δ) := do
  let common ← joinAll [a.shape, b.shape, c.shape]
  return ofFn common fun k =>
    f (a.repeated common k) (b.repeated common k) (c.repeated common k)

/-- Combines two arrays with a function that may fail. -/
@[specialize] def tryMap₂ [Inhabited α] [Inhabited β] (f : α → β → Except (Failure φ) γ)
    (a : Tensor α) (b : Tensor β) : Except (Failure φ) (Tensor γ) := do
  (← map₂ f a b).mapM id

/-- The largest number that indices can reach. -/
def indexLimit : Nat := Nat.pow 2 63 - 1

/-- Whether an integer is small enough for an index, which may be negative. -/
def isIndex (i : Int) : Bool := -(indexLimit : Int) - 1 ≤ i && i ≤ (indexLimit : Int)

/-- An array of integers that are small enough for indices. -/
def indices (t : Tensor Int) : Except (Failure φ) (Tensor Int) :=
  if t.data.all isIndex then .ok t else .error .overflow

/-- Refuses an array that can get no further axis. -/
def checkNewAxis (shape : List Nat) : Except (Failure φ) Unit :=
  if shape.length < Value.maxAxes then .ok () else .error .index

/-- The largest number of axes of arrays by which something is looked up. -/
def maxLookupAxes : Nat := 32

/-- Refuses arrays that have too many axes for a lookup. -/
def checkLookupAxes (shape : List Nat) : Except (Failure φ) Unit :=
  if shape.length ≤ maxLookupAxes then .ok () else .error .axes

/-- The largest number of bytes that the values of an array may take. -/
def memoryLimit : Nat := Nat.pow 2 40

/-- Refuses the sizes of arrays that cannot be made: a size or the bytes of their values are more
than indices can reach, or the bytes are more than there is memory for. An axis without positions
takes away only the latter. -/
def checkRoom (shape : List Nat) (bytes : Nat) : Except (Failure φ) Unit :=
  let total := (shape.filter (· ≠ 0)).foldl (· * ·) bytes
  if shape.any (indexLimit < ·) then .error (.shapes .tooLong)
  else if indexLimit < total then .error (.shapes .tooLarge)
  else if memoryLimit < total && !shape.contains 0 then .error .memory
  else .ok ()

end Tensor

end Airlight
