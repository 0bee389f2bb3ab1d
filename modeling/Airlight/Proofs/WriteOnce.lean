import Airlight.Proofs.GridContents
import Airlight.Scalar.Float

/-!
# Grids are written once

Single voxels and blocks are written in any order, and some of these calls fail. A call that fails
leaves no trace, and no two calls that succeed have a voxel in common. The invariant of a sequence
of calls is that the grid holds the rows of the calls that have succeeded and nothing else.

## Main definitions

* `WriteCall` — a call that writes a voxel or a block of voxels.
* `WriteLog` — a grid after some calls, with those of them that have succeeded.
-/

namespace Airlight.Texture

variable {α φ : Type} {n : Nat}

/-- A call that writes to a grid. -/
inductive WriteCall (α : Type)
  | voxel (v : Voxel) (value : Tensor α)
  | block (voxels : List Voxel) (values : Tensor α)

namespace WriteCall

def voxels : WriteCall α → List Voxel
  | voxel v _ => [v]
  | block voxels _ => voxels

/-- The values of a call as they are given. -/
def given : WriteCall α → Tensor α
  | voxel _ value => value
  | block _ values => values

variable [Inhabited α]

/-- The values of a call as they are repeated over its voxels. Those for a single voxel are put into
one row first. -/
def values : WriteCall α → Tensor α
  | voxel _ value => .ofFn [1, value.data.size] fun k => value.data.getD k default
  | block _ values => values

/-- The array with the coordinates of a voxel in each row. -/
def coordinateRows (voxels : List Voxel) : Tensor Int :=
  .ofVectors [voxels.length] (voxels.map Voxel.coordinates).toArray

/-- Makes a call. The voxels of a block come as rows of coordinates. -/
def on (store : α → α) (g : VoxelGrid α n) : WriteCall α → Except (Failure α) (VoxelGrid α n)
  | voxel v value => g.writeAt store (.row v.coordinates.toList) value
  | block voxels values => do
    g.writeArray store (← Voxel.ofTensor (coordinateRows voxels)) values

/-- The voxels of the call are different, its coordinates small enough for an array of integers, and
its values have at most two axes. -/
structure Proper (call : WriteCall α) : Prop where
  distinct : call.voxels.Nodup
  machine : ∀ v ∈ call.voxels, ∀ c ∈ v.coordinates, Tensor.isIndex c = true
  rank : call.given.shape.length ≤ 2

/-- The values of the call can be repeated over its voxels and over `n` channels. -/
def Fits (n : Nat) (call : WriteCall α) : Prop :=
  Tensor.FitsTable call.values.shape call.voxels.length n

/-- The voxels of a call with their rows. -/
def entries (n : Nat) (call : WriteCall α) : List (Voxel × Vector α n) :=
  call.voxels.zipIdx.map fun (v, i) => (v, call.values.tableRow n i)

/-- The row of a voxel. -/
def rowAt (n : Nat) (call : WriteCall α) (v : Voxel) : Vector α n :=
  call.values.tableRow n (call.voxels.idxOf v)

variable {call : WriteCall α} {g : VoxelGrid α n} {store : α → α}

theorem map_fst_entries (n : Nat) (call : WriteCall α) :
    (call.entries n).map Prod.fst = call.voxels := by
  simp [entries, Function.comp_def]

theorem rank_values (h : call.given.shape.length ≤ 2) : call.values.shape.length ≤ 2 := by
  cases call with
  | voxel v value => exact le_rfl
  | block voxels values => exact h

theorem snd_of_mem_entries (hdistinct : call.voxels.Nodup) {entry : Voxel × Vector α n}
    (h : entry ∈ call.entries n) : entry.2 = call.rowAt n entry.1 := by
  obtain ⟨⟨v, i⟩, hmem, rfl⟩ := List.mem_map.mp h
  obtain ⟨hi, hv⟩ := List.getElem?_eq_some_iff.mp (List.mem_zipIdx_iff_getElem?.mp hmem)
  dsimp only at hi hv ⊢
  rw [rowAt, ← hv, hdistinct.idxOf_getElem]

theorem getElem?_coordinateRows {voxels : List Voxel} {k c : Nat} (hk : k < voxels.length)
    (hc : c < 3) : (coordinateRows voxels).data[k * 3 + c]? = some voxels[k].coordinates[c] :=
  Tensor.getElem?_data_ofVectors (by simpa [volume] using hk) hc (by simp [hk])

/-- The voxels of a block are read back from their coordinates. -/
theorem ofTensor_coordinateRows (voxels : List Voxel)
    (h : ∀ v ∈ voxels, ∀ c ∈ v.coordinates, Tensor.isIndex c = true) :
    (Voxel.ofTensor (coordinateRows voxels) : Except (Failure φ) (Tensor Voxel)) =
      .ok (.row voxels) := by
  have hindices : (coordinateRows voxels).indices (φ := φ) = .ok (coordinateRows voxels) := by
    refine if_pos (Array.all_eq_true_iff_forall_mem.mpr fun x hx => ?_)
    obtain ⟨i, hi, rfl⟩ := Array.mem_iff_getElem.mp hx
    have hi' : i < voxels.length * 3 := by
      simpa [coordinateRows, Tensor.ofVectors, Tensor.ofFn, volume] using hi
    have hk : i / 3 < voxels.length := by omega
    have hcell := getElem?_coordinateRows hk (Nat.mod_lt i (by omega : 3 > 0))
    rw [Nat.div_add_mod', Array.getElem?_eq_getElem hi, Option.some.injEq] at hcell
    rw [hcell]
    exact h _ (List.getElem_mem hk) _ (Vector.getElem_mem _)
  have hcoordinate : ∀ k (hk : k < voxels.length) c (hc : c < 3),
      (coordinateRows voxels).data.getD (k * 3 + c) 0 = voxels[k].coordinates[c] := by
    intro k hk c hc
    rw [Array.getD_eq_getD_getElem?, getElem?_coordinateRows hk hc, Option.getD_some]
  rw [Voxel.ofTensor, hindices, ok_bind]
  refine congrArg Except.ok (Tensor.ext_data rfl (Array.ext (by simp [Tensor.ofFn, volume]) ?_))
  intro k hk hk'
  have hlt : k < voxels.length := by simpa using hk'
  simp only [Tensor.ofFn, Array.getElem_ofFn, Tensor.data_row, List.getElem_toArray]
  rw [hcoordinate k hlt 0 (by decide), hcoordinate k hlt 1 (by decide),
    hcoordinate k hlt 2 (by decide)]
  rfl

/-- Both kinds of calls write an array of voxels. -/
theorem on_eq (h : call.Proper) (store : α → α) (g : VoxelGrid α n) :
    call.on store g = g.writeArray store (.row call.voxels) call.values := by
  cases call with
  | voxel v value =>
    rw [on, VoxelGrid.writeAt, Voxel.indices_coordinates (h.machine v (List.mem_singleton_self v))]
    rfl
  | block voxels values =>
    rw [on, ofTensor_coordinateRows voxels h.machine, ok_bind]
    rfl

/-- A call fails because of a voxel outside the grid, or else because of one that has been written,
or else because of its values; otherwise it fills the cells of its voxels. -/
theorem on_cases (h : call.Proper) (store : α → α) (g : VoxelGrid α n) :
    (∃ v ∈ call.voxels, g.shape.contains v = false) ∧ call.on store g =
        .error (.voxelOutside g.shape.width g.shape.height g.shape.depth) ∨
      (∀ v ∈ call.voxels, g.shape.contains v = true) ∧
        ((∃ v ∈ call.voxels, (g.read v).isSome = true) ∧
            call.on store g = .error .writtenTwice ∨
          (∀ v ∈ call.voxels, g.read v = none) ∧
            (¬ call.Fits n ∧ call.on store g = .error (.shapes .other) ∨
              call.Fits n ∧ call.on store g = .ok (g.fill store (call.entries n)))) := by
  have hshape : (Tensor.row call.voxels).shape ++ [n] = [call.voxels.length, n] := rfl
  have hon := on_eq h store g
  rw [VoxelGrid.writeArray, Tensor.data_row, List.toList_toArray, hshape] at hon
  rcases g.refusal?_cases (φ := α) call.voxels with
    ⟨houtside, hrefusal⟩ | ⟨hinside, ⟨hwritten, hrefusal⟩ | ⟨hblank, hrefusal⟩⟩
  · exact .inl ⟨houtside, by rw [hon, hrefusal]⟩
  · exact .inr ⟨hinside, .inl ⟨hwritten, by rw [hon, hrefusal]⟩⟩
  · refine .inr ⟨hinside, .inr ⟨hblank, ?_⟩⟩
    rw [hrefusal] at hon
    have hrank := rank_values h.rank
    rcases Tensor.fitTo?_table (n := call.voxels.length) (m := n) hrank with
      ⟨hfits, hfit⟩ | ⟨hmisfit, hfit⟩
    · refine .inr ⟨hfits, ?_⟩
      obtain ⟨table, htable⟩ : ∃ table, call.values.fitTo? [call.voxels.length, n] = some table :=
        ⟨_, hfit⟩
      have hentries : (call.voxels.zipIdx.map fun (v, i) =>
          (v, Vector.ofFn fun c : Fin n => table.data.getD (i * n + c) default)) =
            call.entries n := by
        refine List.map_congr_left fun (v, i) hmem => ?_
        have hi := List.snd_lt_of_mem_zipIdx hmem
        exact congrArg (Prod.mk v) (Tensor.row_of_fitTo? hrank htable (by simpa using hi))
      rw [htable] at hon
      dsimp only at hon
      rw [hentries, VoxelGrid.write, map_fst_entries, hrefusal] at hon
      exact hon
    · refine .inl ⟨hmisfit, ?_⟩
      rw [hfit] at hon
      exact hon

end WriteCall

/-! ## Sequences of calls -/

/-- A grid after some calls, with those of them that have succeeded, in order. -/
structure WriteLog (α : Type) (n : Nat) where
  grid : VoxelGrid α n
  done : List (WriteCall α)

namespace WriteLog

variable [Inhabited α] {store : α → α} {shape : GridShape} {log : WriteLog α n}
  {call : WriteCall α}

/-- Makes a call. One that fails leaves the grid as it is. -/
def make (store : α → α) (log : WriteLog α n) (call : WriteCall α) : WriteLog α n :=
  match call.on store log.grid with
  | .ok grid => ⟨grid, log.done ++ [call]⟩
  | .error _ => log

/-- The grid on which calls have been made one after another, beginning with an empty one. -/
def after (store : α → α) (shape : GridShape) (calls : List (WriteCall α)) : WriteLog α n :=
  calls.foldl (make store) ⟨.empty shape, []⟩

/-- The voxels of the calls that have succeeded. -/
def covered (log : WriteLog α n) : List Voxel := log.done.flatMap WriteCall.voxels

/-- The grid holds the rows of the calls that have succeeded, which have no voxel in common. -/
structure Consistent (store : α → α) (shape : GridShape) (log : WriteLog α n) : Prop where
  shape_eq : log.grid.shape = shape
  proper : ∀ call ∈ log.done, call.Proper ∧ call.Fits n
  distinct : log.covered.Nodup
  holds : ∃ f, log.grid.Holds {v | v ∈ log.covered} f ∧
    ∀ call ∈ log.done, ∀ v ∈ call.voxels, f v = (call.rowAt n v).map store

theorem consistent_empty (store : α → α) (shape : GridShape) :
    Consistent store shape (⟨.empty shape, []⟩ : WriteLog α n) where
  shape_eq := rfl
  proper := nofun
  distinct := List.nodup_nil
  holds := ⟨fun _ => Vector.replicate n default,
    ⟨nofun, fun _ _ => VoxelGrid.read_empty shape⟩, nofun⟩

/-- Every call keeps the invariant, whether it succeeds or not. -/
theorem Consistent.make (h : log.Consistent store shape) (hcall : call.Proper) :
    (log.make store call).Consistent store shape := by
  rcases WriteCall.on_cases hcall store log.grid with
    ⟨-, hon⟩ | ⟨hinside, ⟨-, hon⟩ | ⟨hblank, ⟨-, hon⟩ | ⟨hfits, hon⟩⟩⟩
  case inl | inr.inl | inr.inr.inl => rwa [WriteLog.make, hon]
  obtain ⟨f, hholds, hrows⟩ := h.holds
  have hmake : log.make store call =
      ⟨log.grid.fill store (call.entries n), log.done ++ [call]⟩ := by
    rw [WriteLog.make, hon]
  have hfresh : ∀ v ∈ call.voxels, v ∉ log.covered := fun v hv hcovered => by
    simpa [hblank v hv] using hholds.isSome_iff.mpr hcovered
  have hcovered : (⟨log.grid.fill store (call.entries n), log.done ++ [call]⟩ :
      WriteLog α n).covered = log.covered ++ call.voxels := by
    simp [covered]
  rw [hmake]
  refine ⟨h.shape_eq, ?_, ?_, ?_⟩
  · intro c hc
    rcases List.mem_append.mp hc with hc | hc
    · exact h.proper c hc
    · rw [List.mem_singleton.mp hc]
      exact ⟨hcall, hfits⟩
  · rw [hcovered]
    exact List.nodup_append.mpr ⟨h.distinct, hcall.distinct, fun v hv w hw heq =>
      hfresh w hw (heq ▸ hv)⟩
  · let f' (v : Voxel) := if v ∈ call.voxels then (call.rowAt n v).map store else f v
    have hold : ∀ v ∈ log.covered, f v = f' v := fun v hv =>
      (if_neg fun hv' => hfresh v hv' hv).symm
    have hnew : ∀ v ∈ call.voxels, f' v = (call.rowAt n v).map store := fun v hv => if_pos hv
    refine ⟨f', ?_, ?_⟩
    · have hentry : ∀ entry ∈ call.entries n, entry.1 ∈ call.voxels := fun entry hentry =>
        WriteCall.map_fst_entries n call ▸ List.mem_map_of_mem hentry
      have hvalue : ∀ entry ∈ call.entries n, entry.2.map store = f' entry.1 := fun entry he => by
        rw [hnew _ (hentry entry he), WriteCall.snd_of_mem_entries hcall.distinct he]
      have hfill := (hholds.congr hold).fill (fun entry he => hinside _ (hentry entry he)) hvalue
      have hset : {v | v ∈ log.covered ++ call.voxels} =
          {v | v ∈ log.covered} ∪ {v | v ∈ call.voxels} := by
        ext v
        exact List.mem_append
      rw [WriteCall.map_fst_entries] at hfill
      rw [hcovered, hset]
      exact hfill
    · intro c hc v hv
      rcases List.mem_append.mp hc with hc | hc
      · rw [← hold v (List.mem_flatMap.mpr ⟨c, hc, hv⟩)]
        exact hrows c hc v hv
      · rw [List.mem_singleton.mp hc] at hv ⊢
        exact hnew v hv

/-- A sequence of calls keeps the invariant. -/
theorem Consistent.foldl {calls : List (WriteCall α)} (h : log.Consistent store shape)
    (hcalls : ∀ call ∈ calls, call.Proper) :
    (calls.foldl (WriteLog.make store) log).Consistent store shape := by
  induction calls generalizing log with
  | nil => exact h
  | cons call calls ih =>
    obtain ⟨hcall, hcalls⟩ := List.forall_mem_cons.mp hcalls
    exact ih (h.make hcall) hcalls

/-- How a call ends depends on the voxels that have been covered and on the sizes of its values. -/
theorem Consistent.on_iff (h : log.Consistent store shape) (hcall : call.Proper) :
    (call.on store log.grid = .error (.voxelOutside shape.width shape.height shape.depth) ↔
        ∃ v ∈ call.voxels, shape.contains v = false) ∧
      (call.on store log.grid = .error .writtenTwice ↔
        (∀ v ∈ call.voxels, shape.contains v = true) ∧ ∃ v ∈ call.voxels, v ∈ log.covered) ∧
      (call.on store log.grid = .error (.shapes .other) ↔
        (∀ v ∈ call.voxels, shape.contains v = true ∧ v ∉ log.covered) ∧ ¬ call.Fits n) ∧
      ((∃ grid, call.on store log.grid = .ok grid) ↔
        (∀ v ∈ call.voxels, shape.contains v = true ∧ v ∉ log.covered) ∧ call.Fits n) := by
  obtain ⟨f, hholds, -⟩ := h.holds
  have hread : ∀ v, (log.grid.read v).isSome = true ↔ v ∈ log.covered := fun v => hholds.isSome_iff
  have hblank : ∀ v, log.grid.read v = none ↔ v ∉ log.covered := fun v => by
    rw [← hread, Option.not_isSome_iff_eq_none]
  have hcases := WriteCall.on_cases hcall store log.grid
  simp only [h.shape_eq, hread, hblank] at hcases
  rcases hcases with
    ⟨houtside, hon⟩ | ⟨hinside, ⟨hwritten, hon⟩ | ⟨hfresh, ⟨hfits, hon⟩ | ⟨hfits, hon⟩⟩⟩ <;>
    simp only [hon] <;> grind

section

variable [Scalar α] {x y z c : Nat}

/-- A covered voxel holds the row that its call had for it. -/
theorem Consistent.get?_covered (h : log.Consistent store shape) (hcall : call ∈ log.done) {i : Nat}
    (hi : i < call.voxels.length) (hvoxel : call.voxels[i] = ⟨x, y, z⟩) (hc : c < n) :
    ∃ value, call.values.get? (Tensor.tableSource call.values.shape i c) = some value ∧
      log.grid.toTensor.get? [z, y, x, c] = some (store value) := by
  obtain ⟨f, hholds, hrows⟩ := h.holds
  obtain ⟨hproper, hfits⟩ := h.proper call hcall
  obtain ⟨value, hvalue⟩ := Tensor.exists_get?_tableSource hfits hi hc
  have hmem : (⟨x, y, z⟩ : Voxel) ∈ call.voxels := hvoxel ▸ List.getElem_mem hi
  have hcovered : (⟨x, y, z⟩ : Voxel) ∈ log.covered := List.mem_flatMap.mpr ⟨call, hcall, hmem⟩
  have hindex : call.voxels.idxOf ⟨x, y, z⟩ = i := hvoxel ▸ hproper.distinct.idxOf_getElem i hi
  obtain ⟨⟨-, hx⟩, ⟨-, hy⟩, -, hz⟩ := GridShape.contains_iff.mp (hholds.contains hcovered)
  refine ⟨value, hvalue, ?_⟩
  rw [VoxelGrid.get?_toTensor _ (Int.ofNat_lt.mp hx) (Int.ofNat_lt.mp hy) (Int.ofNat_lt.mp hz) hc,
    hholds.value _ hcovered, hrows call hcall _ hmem]
  simp [WriteCall.rowAt, hindex, Tensor.tableRow, hvalue]

/-- A voxel that no call has covered holds zeros. -/
theorem Consistent.get?_blank (h : log.Consistent store shape) (hx : x < shape.width)
    (hy : y < shape.height) (hz : z < shape.depth) (hc : c < n)
    (hblank : (⟨x, y, z⟩ : Voxel) ∉ log.covered) :
    log.grid.toTensor.get? [z, y, x, c] = some 0.0 := by
  obtain ⟨f, hholds, -⟩ := h.holds
  rw [← h.shape_eq] at hx hy hz
  rw [VoxelGrid.get?_toTensor _ hx hy hz hc, hholds.blank _ hblank]
  simp

/-- A grid is a store that is written once. After any sequence of calls another call fails if one of
its voxels lies outside the grid, or else if one has been covered by a call that has succeeded, or
else if its values do not fit, and succeeds otherwise; one that fails changes nothing. Each covered
voxel holds the row that the only call that has covered it had for it, rounded for the grid, and the
others hold zeros. -/
theorem writes_once (store : α → α) (shape : GridShape) (calls : List (WriteCall α))
    (hcalls : ∀ call ∈ calls, call.Proper) :
    let log : WriteLog α n := after store shape calls
    (∀ call : WriteCall α, call.Proper →
      (call.on store log.grid = .error (.voxelOutside shape.width shape.height shape.depth) ↔
        ∃ v ∈ call.voxels, shape.contains v = false) ∧
      (call.on store log.grid = .error .writtenTwice ↔
        (∀ v ∈ call.voxels, shape.contains v = true) ∧ ∃ v ∈ call.voxels, v ∈ log.covered) ∧
      (call.on store log.grid = .error (.shapes .other) ↔
        (∀ v ∈ call.voxels, shape.contains v = true ∧ v ∉ log.covered) ∧ ¬ call.Fits n) ∧
      ((∃ grid, call.on store log.grid = .ok grid) ↔
        (∀ v ∈ call.voxels, shape.contains v = true ∧ v ∉ log.covered) ∧ call.Fits n) ∧
      (∀ grid, call.on store log.grid = .ok grid →
        after store shape (calls ++ [call]) = ⟨grid, log.done ++ [call]⟩) ∧
      ∀ failure, call.on store log.grid = .error failure →
        after store shape (calls ++ [call]) = log) ∧
    log.covered.Nodup ∧
    (∀ call ∈ log.done, ∀ i (hi : i < call.voxels.length), ∀ x y z c : Nat,
      call.voxels[i] = ⟨x, y, z⟩ → c < n →
        ∃ value, call.values.get? (Tensor.tableSource call.values.shape i c) = some value ∧
          log.grid.toTensor.get? [z, y, x, c] = some (store value)) ∧
    (∀ x y z c : Nat, x < shape.width → y < shape.height → z < shape.depth → c < n →
      (⟨x, y, z⟩ : Voxel) ∉ log.covered → log.grid.toTensor.get? [z, y, x, c] = some 0.0) ∧
    log.grid.writtenCount = log.covered.length ∧
    (log.grid.isComplete = true ↔ ∀ v, shape.contains v = true → v ∈ log.covered) := by
  intro log
  have h : log.Consistent store shape := (consistent_empty store shape).foldl hcalls
  obtain ⟨f, hholds, -⟩ := h.holds
  have hnext : ∀ call, after store shape (calls ++ [call]) = log.make store call := fun call => by
    rw [after, List.foldl_append]
    rfl
  refine ⟨fun call hcall => ?_, h.distinct,
    fun call hcall i hi x y z c hvoxel hc => h.get?_covered hcall hi hvoxel hc,
    fun x y z c hx hy hz hc hblank => h.get?_blank hx hy hz hc hblank,
    hholds.writtenCount_eq h.distinct, ?_⟩
  · obtain ⟨houtside, htwice, hmisfit, hok⟩ := h.on_iff hcall
    refine ⟨houtside, htwice, hmisfit, hok, fun grid hon => ?_, fun failure hon => ?_⟩
    · rw [hnext, WriteLog.make, hon]
    · rw [hnext, WriteLog.make, hon]
  · rw [hholds.isComplete_iff, h.shape_eq]
    rfl

/-- In a grid of two voxels one is written first. A block of both voxels is then refused, and the
grid keeps the row of the one. -/
theorem block_refused_after_voxel :
    let calls : List (WriteCall Float) := [.voxel ⟨1, 0, 0⟩ (.row [1, 2, 3, 4])]
    let log : WriteLog Float 4 := after id ⟨1, 1, 2⟩ calls
    (WriteCall.block [⟨0, 0, 0⟩, ⟨1, 0, 0⟩] (.single 5)).on id log.grid = .error .writtenTwice ∧
      log.grid.toTensor.get? [0, 0, 1, 2] = some 3 ∧ log.grid.writtenCount = 1 ∧
      log.grid.isComplete = false := by
  intro calls log
  let first : WriteCall Float := .voxel ⟨1, 0, 0⟩ (.row [1, 2, 3, 4])
  let both : WriteCall Float := .block [⟨0, 0, 0⟩, ⟨1, 0, 0⟩] (.single 5)
  have hfirst : first.Proper := ⟨by decide, by decide, by decide⟩
  have hboth : both.Proper := ⟨by decide, by decide, by decide⟩
  obtain ⟨hempty, -⟩ := writes_once (n := 4) id ⟨1, 1, 2⟩ ([] : List (WriteCall Float)) nofun
  obtain ⟨-, -, -, hok, hdone, -⟩ := hempty first hfirst
  obtain ⟨grid, hgrid⟩ := hok.mpr ⟨by decide, by simp [first, WriteCall.Fits, WriteCall.values,
    Tensor.FitsTable, Tensor.row, WriteCall.voxels]⟩
  have hlog : log = ⟨grid, calls⟩ := hdone grid hgrid
  have hcovered : log.covered = [⟨1, 0, 0⟩] := by rw [hlog]; rfl
  obtain ⟨hcalls, -, hvalues, -, hcount, hcomplete⟩ := writes_once (n := 4) id ⟨1, 1, 2⟩ calls
    (List.forall_mem_singleton.mpr hfirst)
  obtain ⟨-, htwice, -⟩ := hcalls both hboth
  refine ⟨htwice.mpr ⟨by decide, ⟨1, 0, 0⟩, by decide, ?_⟩, ?_, ?_, ?_⟩
  · rw [hcovered]
    exact List.mem_singleton_self _
  · have hmem : first ∈ log.done := by
      rw [hlog]
      exact List.mem_singleton_self _
    obtain ⟨value, hvalue, hread⟩ := hvalues first hmem 0 (by decide) 1 0 0 2 rfl (by decide)
    have hthree : value = 3 := by
      simpa [first, WriteCall.values, Tensor.get?, Tensor.tableSource, Tensor.position?, volume,
        Tensor.ofFn, Tensor.row, eq_comm] using hvalue
    rwa [hthree] at hread
  · rw [hcount, hcovered]
    rfl
  · rw [Bool.eq_false_iff, Ne, hcomplete, hcovered]
    intro hall
    exact absurd (hall ⟨0, 0, 0⟩ (by decide)) (by decide)

/-- The values for a single voxel are put into one row before they are repeated. A table of two rows
and two columns does not fit one voxel with four channels, but it is taken as its row. -/
theorem table_taken_as_row :
    let call : WriteCall Float := .voxel ⟨1, 0, 0⟩ ⟨[2, 2], #[1, 2, 3, 4], rfl⟩
    call.Proper ∧ (∀ v ∈ call.voxels, GridShape.contains ⟨1, 1, 2⟩ v = true) ∧
      ¬ Tensor.FitsTable call.given.shape call.voxels.length 4 ∧
      ∃ grid, call.on id (.empty ⟨1, 1, 2⟩ : VoxelGrid Float 4) = .ok grid := by
  intro call
  have hproper : call.Proper := ⟨by decide, by decide, by decide⟩
  have hinside : ∀ v ∈ call.voxels, GridShape.contains ⟨1, 1, 2⟩ v = true := by decide
  refine ⟨hproper, hinside, ?_, ?_⟩
  · simp [call, WriteCall.given, Tensor.FitsTable]
  · have hiff := (consistent_empty (n := 4) (α := Float) id ⟨1, 1, 2⟩).on_iff hproper
    exact hiff.2.2.2.mpr ⟨fun v hv => ⟨hinside v hv, List.not_mem_nil⟩, by
      simp [call, WriteCall.Fits, WriteCall.values, Tensor.FitsTable]⟩

end

end WriteLog

end Airlight.Texture
