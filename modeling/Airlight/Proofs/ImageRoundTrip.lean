import Mathlib.Tactic.IntervalCases
import Airlight.Proofs.ArchiveRoundTrip
import Airlight.Proofs.Tiling
import Airlight.Scalar.Float
import Airlight.Storage.Image

/-!
# Images that have been written

An array that has been written as an image is read back with each value rounded to the precision of
the file, and at its place: the channels of a file are put together in the order in which they were
split, and the slices of a grid in the order in which they were put side by side. Arrays that are no
image are refused before a file is touched.
-/

namespace Airlight.Storage

open Tensor

variable {α : Type} [Inhabited α] {d h w c : Nat} {t : Tensor α}

/-! ## Channels -/

namespace ChannelImage

/-- The channels that pixels have been split into are there, in the order of their values. -/
theorem present_split (hc : c ≤ 4) (data : Array α) :
    (split h w c data).present = (List.range c).map (plane h w c data) := by
  interval_cases c <;> rfl

theorem length_present_split (hc : c ≤ 4) (data : Array α) :
    (split h w c data).present.length = c := by
  have hlength : ((List.range c).map (plane h w c data)).length = c := by simp
  exact (congrArg List.length (present_split hc data)).trans hlength

theorem getD_plane {data : Array α} {k place : Nat} (hk : k < h * w) :
    (plane h w c data place).toArray.getD k default = data.getD (k * c + place) default := by
  simp [plane, Array.getD, hk]

/-- An image has the pixels whose values its channels have, one after another at each place. -/
theorem pixels_eq {image : ChannelImage α} (hlength : image.present.length = c)
    (ht : t.shape = [image.height, image.width, c])
    (hvalue : ∀ k < volume t.shape, ∃ plane, image.present[k % c]? = some plane ∧
      plane.toArray.getD (k / c) default = t.data.getD k default) : image.pixels = t := by
  refine ext_data (by rw [ht, pixels, shape_ofFn, hlength]) (Array.ext ?_ fun k hk hk' => ?_)
  · rw [size_eq, size_eq, ht, pixels, shape_ofFn, hlength]
  · obtain ⟨plane, hplane, hk⟩ := hvalue k (t.size_eq ▸ hk')
    simp only [pixels, ofFn, Array.getElem_ofFn, hlength, hplane, hk]
    rw [Array.getD_eq_getD_getElem?, Array.getElem?_eq_getElem hk', Option.getD_some]

/-- Pixels are put together again from their channels. -/
theorem pixels_split (ht : t.shape = [h, w, c]) (hc : c ≤ 4) :
    (split h w c t.data).pixels = t := by
  refine pixels_eq (length_present_split hc t.data) ht fun k hk => ?_
  have hvolume : k < h * w * c := by simpa [ht, volume, Nat.mul_assoc] using hk
  have hpos : 0 < c := Nat.pos_of_mul_pos_left (Nat.zero_lt_of_lt hvolume)
  have hplane : ((List.range c).map (plane h w c t.data))[k % c]? =
      some (plane h w c t.data (k % c)) := by simp [Nat.mod_lt k hpos]
  refine ⟨_, present_split hc t.data ▸ hplane, ?_⟩
  rw [getD_plane ((Nat.div_lt_iff_lt_mul hpos).mpr hvolume), Nat.div_add_mod']

end ChannelImage

/-! ## Writing and reading -/

/-- Sizes of a table or of a grid with one to four values at each place. -/
def Pictured (shape : List Nat) : Prop :=
  ∃ sizes c, shape = sizes ++ [c] ∧ (sizes.length = 2 ∨ sizes.length = 3) ∧ 1 ≤ c ∧ c ≤ 4

namespace ImageSupport

variable {s : ImageSupport α} {half : Bool} {files : FileStore α} {path : Text}

/-- What is read back of a value that is stored in single precision, and then in half precision if
that is asked for. -/
def stored (s : ImageSupport α) (half : Bool) (x : α) : α :=
  if half then s.round .half (s.round .single x) else s.round .single x

omit [Inhabited α] in
theorem map_stored (t : Tensor α) :
    t.map (s.stored half) =
      if half then (t.map (s.round .single)).map (s.round .half) else t.map (s.round .single) := by
  cases half
  · rfl
  · exact ext_data rfl (by simp [stored, Function.comp_def])

theorem layOut_table (ht : t.shape = [h, w, c]) : layOut t = .ok t := by
  simp [layOut, ht]

theorem layOut_grid (ht : t.shape = [d, h, w, c]) : layOut t = .ok (tile d h w c t.data) := by
  simp [layOut, tileTensor, ht]

/-- The file of an image has its values channel by channel, in the precision of the file. -/
theorem encode_eq_ok {image : Tensor α} (himage : layOut (t.map (s.round .single)) = .ok image)
    (hshape : image.shape = [h, w, c]) (hh : 0 < h) (hw : 0 < w) (hc : 1 ≤ c) (hc' : c ≤ 4) :
    s.encode half t =
      .ok (.split h w c (if half then image.map (s.round .half) else image).data) := by
  have hcount : ¬ (c = 0 ∨ 4 < c) := by omega
  have hpixel : ¬ (h = 0 ∨ w = 0) := by omega
  rw [encode, himage, ok_bind]
  simp only [hshape, if_neg hcount, if_neg hpixel, pure_eq_ok]

theorem encode_table (ht : t.shape = [h, w, c]) (hh : 0 < h) (hw : 0 < w) (hc : 1 ≤ c)
    (hc' : c ≤ 4) :
    s.encode half t = .ok (.split h w c (t.map (s.stored half)).data) := by
  rw [map_stored]
  exact encode_eq_ok (layOut_table ht) ht hh hw hc hc'

/-- The file of a grid has its depth slices side by side. -/
theorem encode_grid (ht : t.shape = [d, h, w, c]) (hd : 0 < d) (hh : 0 < h) (hw : 0 < w)
    (hc : 1 ≤ c) (hc' : c ≤ 4) :
    s.encode half t =
      .ok (.split h (d * w) c (tile d h w c (t.map (s.stored half)).data).data) := by
  have hstored : tile d h w c (t.map (s.stored half)).data =
      if half then (tile d h w c (t.map (s.round .single)).data).map (s.round .half)
      else tile d h w c (t.map (s.round .single)).data := by
    rw [map_stored, ← tile_map (s.round .half) (t := t.map (s.round .single)) ht]
    cases half <;> rfl
  rw [hstored]
  exact encode_eq_ok (layOut_grid ht) rfl hh (Nat.mul_pos hd hw) hc hc'

/-- An image without values or with more than four at each place is refused. -/
theorem encode_of_count {image : Tensor α} (himage : layOut (t.map (s.round .single)) = .ok image)
    (hshape : image.shape = [h, w, c]) (hc : c = 0 ∨ 4 < c) :
    s.encode half t = .error (.argument (.imageShape [h, w, c])) := by
  rw [encode, himage, ok_bind]
  simp only [hshape, if_pos hc]
  rfl

/-- Arrays that are no image are refused, grids by the sizes that their image would have. -/
theorem encode_eq_error (ht : ¬ Pictured t.shape) :
    ∃ shape, s.encode half t = .error (.argument (.imageShape shape)) := by
  have hcount : ∀ sizes c, t.shape = sizes ++ [c] → sizes.length = 2 ∨ sizes.length = 3 →
      c = 0 ∨ 4 < c := by
    intro sizes c hshape hsizes
    by_contra hc
    exact ht ⟨sizes, c, hshape, hsizes, by omega, by omega⟩
  match hshape : t.shape with
  | [] | [_] | [_, _] | _ :: _ :: _ :: _ :: _ :: _ =>
    refine ⟨t.shape, ?_⟩
    simp [encode, layOut, hshape]
  | [h, w, c] =>
    exact ⟨_, encode_of_count (layOut_table hshape) hshape (hcount [h, w] c hshape (.inl rfl))⟩
  | [d, h, w, c] =>
    exact ⟨_, encode_of_count (layOut_grid hshape) rfl (hcount [d, h, w] c hshape (.inr rfl))⟩

/-- An image is written as a whole where a file can be written. -/
theorem exists_of_encode {image : ChannelImage α} (hs : s.available = true)
    (hencode : s.encode half t = .ok image) (hpath : path.toString?.isSome = true)
    (hfiles : files.CanWrite path) :
    ∃ journal, Run.start files (s.write path half t) = (.ok (), journal) ∧
      journal.state.lookup? path = some (.file (.image half image)) := by
  obtain ⟨written, hwritten⟩ := FileStore.exists_write_iff.mpr hfiles
  have hcheck : (checkPath path : Except (Failure α) Unit) = .ok () := if_pos hpath
  have hupdate : s.write path half t = update fun files =>
      (files.write path (.image half image)).mapError fun _ => .imageRefused := by
    rw [write, hs, hencode, hcheck]
    rfl
  have hleaves : (s.write path half t).Leaves files fun r files' =>
      r = .ok () ∧ files' = written := by
    rw [hupdate]
    refine (leaves_update _ files).mono fun r files' hupdate => ?_
    rw [hwritten] at hupdate
    cases r with
    | error failure =>
      obtain ⟨-, fault, hfault, -⟩ := hupdate
      cases hfault
    | ok _ => exact ⟨rfl, (Except.ok.inj hupdate).symm⟩
  obtain ⟨hresult, hstate⟩ := hleaves.start
  refine ⟨(Run.start files (s.write path half t)).2, Prod.ext hresult rfl, ?_⟩
  rw [hstate, FileStore.lookup?_write hwritten]

/-- What is no image is refused, and the files are left as they were. -/
theorem write_of_encode_eq_error {failure : Failure α} (hs : s.available = true)
    (hencode : s.encode half t = .error failure) :
    (Run.start files (s.write path half t)).1 = .error failure ∧
      (Run.start files (s.write path half t)).2.state = files := by
  rw [write, hs, hencode]
  exact ⟨rfl, rfl⟩

variable [Scalar α]

/-- An image that stands at a path is read as its pixels, or as the grid that they show. -/
theorem read_split (hs : s.available = true) (hpath : path.toString?.isSome = true)
    (hfile : files.lookup? path = some (.file (.image half (.split h w c t.data))))
    (ht : t.shape = [h, w, c]) (hc : 1 ≤ c) (hc' : c ≤ 4) :
    s.read files path .null = .ok t ∧
      ∀ slices, s.read files path (.integer slices) = untileTensor t (.integer slices) := by
  have hcheck : (checkPath path : Except (Failure α) Unit) = .ok () := if_pos hpath
  have hpresent : (ChannelImage.split h w c t.data).present.isEmpty = false :=
    List.isEmpty_eq_false_iff.mpr
      (List.ne_nil_of_length_pos ((ChannelImage.length_present_split hc' t.data).symm ▸ hc))
  simp [read, hs, hfile, hcheck, hpresent, ChannelImage.pixels_split ht hc']

/-- An array that is written as an image is read back at its path: a table without a depth and a
grid with its depth, which is one that an index can reach. Each value has been rounded to single
precision and then, if that is asked for, to half precision. Any other array is refused and leaves
all files as they were. -/
theorem read_of_write (s : ImageSupport α) (hs : s.available = true) (files : FileStore α)
    (path : Text) (half : Bool) (t : Tensor α) :
    (∀ h w c, t.shape = [h, w, c] → 0 < h → 0 < w → 1 ≤ c → c ≤ 4 →
      path.toString?.isSome = true → files.CanWrite path →
      ∃ journal, Run.start files (s.write path half t) = (.ok (), journal) ∧
        s.read journal.state path .null = .ok (t.map (s.stored half))) ∧
    (∀ d h w c, t.shape = [d, h, w, c] → 0 < d → 0 < h → 0 < w → 1 ≤ c → c ≤ 4 →
      d ≤ indexLimit → path.toString?.isSome = true → files.CanWrite path →
      ∃ journal, Run.start files (s.write path half t) = (.ok (), journal) ∧
        s.read journal.state path (.integer d) = .ok (t.map (s.stored half))) ∧
    (¬ Pictured t.shape → ∃ shape,
      (Run.start files (s.write path half t)).1 = .error (.argument (.imageShape shape)) ∧
        (Run.start files (s.write path half t)).2.state = files) := by
  refine ⟨?_, ?_, ?_⟩
  · intro h w c ht hh hw hc hc' hpath hfiles
    obtain ⟨journal, hwrite, hfile⟩ :=
      exists_of_encode hs (encode_table ht hh hw hc hc') hpath hfiles
    exact ⟨journal, hwrite, (read_split hs hpath hfile ht hc hc').1⟩
  · intro d h w c ht hd hh hw hc hc' hlimit hpath hfiles
    obtain ⟨journal, hwrite, hfile⟩ :=
      exists_of_encode hs (encode_grid ht hd hh hw hc hc') hpath hfiles
    refine ⟨journal, hwrite, ?_⟩
    rw [(read_split hs hpath hfile rfl hc hc').2, untileTensor_eq_ok rfl hd hh hw hc hlimit,
      untile_tile (t := t.map (s.stored half)) ht]
  · intro ht
    obtain ⟨shape, hencode⟩ := encode_eq_error ht
    exact ⟨shape, write_of_encode_eq_error hs hencode⟩

/-- A table of one place, a grid of two slices and an array without a place, written in half
precision and in single precision over a file that is already there. -/
theorem read_of_write_single_and_half :
    let s : ImageSupport Float := ⟨true, Precision.round⟩
    let files : FileStore Float :=
      ⟨[(["data"], .directory), (["data", "lut.exr"], .file (.text "old"))]⟩
    let table : Tensor Float := ⟨[1, 1, 3], #[0.1, 0.2, 0.3], rfl⟩
    let grid : Tensor Float := ⟨[2, 1, 1, 1], #[0.1, 70000], rfl⟩
    let row : Tensor Float := .row [0.1, 0.2]
    (∃ journal, Run.start files (s.write "data/lut.exr" true table) = (.ok (), journal) ∧
      s.read journal.state "data/lut.exr" .null = .ok (table.map (s.stored true))) ∧
    (∃ journal, Run.start files (s.write "data/lut.exr" false grid) = (.ok (), journal) ∧
      s.read journal.state "data/lut.exr" (.integer 2) = .ok (grid.map (s.stored false))) ∧
    ∃ shape, (Run.start files (s.write "data/lut.exr" true row)).1 =
        .error (.argument (.imageShape shape)) ∧
      (Run.start files (s.write "data/lut.exr" true row)).2.state = files := by
  intro s files table grid row
  have hfiles : files.CanWrite "data/lut.exr" := ⟨rfl, ["data", "lut.exr"], rfl, nofun⟩
  have hrow : ¬ Pictured row.shape := by
    rintro ⟨sizes, c, hshape, hsizes, -⟩
    have hlength : 1 = sizes.length + 1 := (congrArg List.length hshape).trans List.length_append
    omega
  exact ⟨(read_of_write s rfl files "data/lut.exr" true table).1 1 1 3 rfl (by decide) (by decide)
      (by decide) (by decide) (by decide) hfiles,
    (read_of_write s rfl files "data/lut.exr" false grid).2.1 2 1 1 1 rfl (by decide) (by decide)
      (by decide) (by decide) (by decide) (by decide) (by decide) hfiles,
    (read_of_write s rfl files "data/lut.exr" true row).2.2 hrow⟩

end ImageSupport

end Airlight.Storage
