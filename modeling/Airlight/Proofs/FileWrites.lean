import Mathlib.Tactic.SplitIfs
import Airlight.Proofs.Outcomes
import Airlight.Storage.FileStore

/-!
# Files that have been written

A file that has been written stands at the path under which it was written, and nothing else has
changed. A path is followed name by name, before the write as after it: the places on the way are
directories, and no file takes the place of a directory. When directories are made nothing that was
there changes, also if not all of them can be made.

## Main definitions

* `FileStore.CanWrite` — a file can be written at a path.
* `FileStore.GainsDirectories` — nothing has been done but to make directories.
-/

namespace Airlight

/-! ## Parts of texts -/

namespace Text

variable {separator p : CodePoint} {rest : List CodePoint}

theorem split_cons_separator :
    split separator ⟨separator :: rest⟩ = ⟨[]⟩ :: split separator ⟨rest⟩ := by
  simp [split, partsBetween]

theorem split_cons_of_ne {first : Text} {others : List Text} (hp : p ≠ separator)
    (h : split separator ⟨rest⟩ = first :: others) :
    split separator ⟨p :: rest⟩ = ⟨p :: first.points⟩ :: others := by
  simp only [split, List.map_cons, List.cons.injEq] at h
  obtain ⟨rfl, rfl⟩ := h
  simp [split, partsBetween, hp]

theorem split_of_not_mem {t : Text} (h : separator ∉ t.points) : split separator t = [t] := by
  obtain ⟨points⟩ := t
  induction points with
  | nil => rfl
  | cons p rest ih =>
    simp only [List.mem_cons, not_or] at h
    exact split_cons_of_ne (Ne.symm h.1) (ih h.2)

/-- An ending without separators belongs to the last part of a text. -/
theorem exists_split_append (t ending : Text) (h : separator ∉ ending.points) :
    ∃ init last, split separator t = init ++ [last] ∧
      split separator (t ++ ending) = init ++ [last ++ ending] := by
  obtain ⟨points⟩ := t
  induction points with
  | nil => exact ⟨[], ⟨[]⟩, rfl, split_of_not_mem h⟩
  | cons p rest ih =>
    obtain ⟨init, last, hparts, hmore⟩ := ih
    by_cases hp : p = separator
    · subst hp
      exact ⟨⟨[]⟩ :: init, last, by rw [split_cons_separator, hparts, List.cons_append],
        by rw [List.cons_append, ← hmore]; exact split_cons_separator⟩
    · cases init with
      | nil => exact ⟨[], ⟨p :: last.points⟩, split_cons_of_ne hp hparts,
          split_cons_of_ne hp hmore⟩
      | cons first init => exact ⟨⟨p :: first.points⟩ :: init, last, split_cons_of_ne hp hparts,
          split_cons_of_ne hp hmore⟩

end Text

namespace Storage

/-- An ending without slashes belongs to the last name of a path. -/
theorem Path.exists_names_append (text ending : Text) (h : .char '/' ∉ ending.points) :
    ∃ init name, names text = init ++ [name] ∧ names (text ++ ending) = init ++ [name ++ ending] :=
  text.exists_split_append ending h

theorem Path.origin_append {text : Text} (h : Path.check text = .ok ()) (ending : Text) :
    origin (text ++ ending) = origin text := by
  obtain ⟨points⟩ := text
  cases points with
  | nil => cases h
  | cons p rest => rfl

/-- A name leads elsewhere than to a file of another name. -/
theorem Path.enter_ne {here : Path} {name other : Text} (hne : other ≠ name)
    (hout : other ≠ Path.out) : here.enter name ≠ here ++ [other] := by
  have hlonger : ∀ path : Path, path.length ≤ here.length → path ≠ here ++ [other] := by
    rintro path hpath rfl
    rw [List.length_append, List.length_singleton] at hpath
    omega
  unfold enter parent
  split_ifs
  · exact hlonger _ (Nat.le_refl _)
  · exact hlonger _ (Nat.le_refl _)
  · simpa using Ne.symm hout
  · exact hlonger _ (by simp)
  · simpa using Ne.symm hne

namespace FileStore

variable {α : Type} {s s' : FileStore α} {path here place directory : Path} {entry : Entry α}
  {text text' name : Text} {names rest : List Text} {content : Content α}

/-! ## Places -/

/-- What stands at a path after an entry has been put there, but not in place of a directory. -/
theorem find?_put (hpath : s.find? path ≠ some .directory) :
    (s.put path entry).find? path = some entry := by
  have hplace : ¬ (path = Path.root ∨ path.all (· = Path.out) = true) :=
    fun h => hpath (if_pos h)
  have hnone : (s.entries.filter (·.1 ≠ path)).lookup path = none := by
    rw [List.lookup_eq_none_iff]
    intro other hother
    have hne := of_decide_eq_true (List.mem_filter.mp hother).2
    simpa using Ne.symm hne
  rw [find?, if_neg hplace, put, List.lookup_append, hnone, Option.none_or, List.lookup_cons_self]

/-- What stands elsewhere is as it was. -/
theorem find?_put_of_ne (h : place ≠ path) : (s.put path entry).find? place = s.find? place := by
  have hkept : (s.entries.filter (·.1 ≠ path)).lookup place = s.entries.lookup place := by
    induction s.entries with
    | nil => rfl
    | cons first rest ih =>
      by_cases hfirst : first.1 = path
      · have hother : (place == first.1) = false := by simp [hfirst, h]
        rw [List.filter_cons_of_neg (by simpa using hfirst), ih, List.lookup_cons, hother]
      · rw [List.filter_cons_of_pos (by simpa using hfirst), List.lookup_cons, List.lookup_cons, ih]
  have hother : (place == path) = false := by simp [h]
  simp only [find?, put, List.lookup_append, hkept, List.lookup_cons, hother, List.lookup_nil,
    Option.or_none]

/-! ## Following a path -/

theorem follow_nil_eq_ok_iff :
    s.follow text here [] = .ok (place, entry) ↔ here = place ∧ s.find? here = some entry := by
  unfold follow
  cases s.find? here <;> simp

theorem follow_cons_eq_ok_iff :
    s.follow text here (name :: names) = .ok (place, entry) ↔
      s.find? here = some .directory ∧ name.size ≤ Path.maxNameSize ∧
        s.follow text (here.enter name) names = .ok (place, entry) := by
  rw [follow.eq_def]
  rcases hhere : s.find? here with _ | _ | _ <;> simp only [hhere]
  · simp
  · by_cases hname : Path.maxNameSize < name.size
    · simp [hname, Nat.not_le.mpr hname]
    · simp [hname, Nat.not_lt.mp hname]
  · simp

theorem find?_of_follow (h : s.follow text here names = .ok (place, entry)) :
    s.find? place = some entry := by
  induction names generalizing here with
  | nil =>
    obtain ⟨rfl, hentry⟩ := follow_nil_eq_ok_iff.mp h
    exact hentry
  | cons name names ih => exact ih (follow_cons_eq_ok_iff.mp h).2.2

/-- Names that follow those of a directory are followed from there. -/
theorem follow_append (h : s.follow text here names = .ok (place, .directory)) :
    s.follow text here (names ++ rest) = s.follow text place rest := by
  induction names generalizing here with
  | nil =>
    obtain ⟨rfl, -⟩ := follow_nil_eq_ok_iff.mp h
    rfl
  | cons name names ih =>
    obtain ⟨hhere, hname, hnames⟩ := follow_cons_eq_ok_iff.mp h
    rw [List.cons_append, follow.eq_def]
    simp only [hhere, if_neg (Nat.not_lt.mpr hname), ih hnames]

/-- One name more leads on from a directory, whatever the path is called. -/
theorem eq_enter_of_follow (h : s.follow text here names = .ok (directory, .directory))
    (hmore : s.follow text' here (names ++ [name]) = .ok (place, entry)) :
    place = directory.enter name := by
  induction names generalizing here with
  | nil =>
    obtain ⟨rfl, -⟩ := follow_nil_eq_ok_iff.mp h
    exact (follow_nil_eq_ok_iff.mp (follow_cons_eq_ok_iff.mp hmore).2.2).1.symm
  | cons _ names ih =>
    exact ih (follow_cons_eq_ok_iff.mp h).2.2 (follow_cons_eq_ok_iff.mp hmore).2.2

/-- A file that takes the place of no directory is met only by a path that leads to it. -/
theorem follow_put_eq_ok_iff (text text' : Text) (hpath : s.find? path ≠ some .directory)
    (hplace : place ≠ path) :
    (s.put path (.file content)).follow text here names = .ok (place, entry) ↔
      s.follow text' here names = .ok (place, entry) := by
  induction names generalizing here with
  | nil =>
    rw [follow_nil_eq_ok_iff, follow_nil_eq_ok_iff]
    refine and_congr_right fun hhere => ?_
    rw [find?_put_of_ne (hhere ▸ hplace)]
  | cons name names ih =>
    have hdirectory : (s.put path (.file content)).find? here = some .directory ↔
        s.find? here = some .directory := by
      by_cases hhere : here = path
      · rw [hhere, find?_put hpath]
        simp [hpath]
      · rw [find?_put_of_ne hhere]
    rw [follow_cons_eq_ok_iff, follow_cons_eq_ok_iff, hdirectory, ih]

/-! ## Writing -/

/-- A file can be written at a path that leads to a place in a directory, unless another directory
stands there. -/
def CanWrite (s : FileStore α) (text : Text) : Prop :=
  Path.check text = .ok () ∧ ∃ path, s.target text (Path.names text) = .ok (some path) ∧
    s.find? path ≠ some .directory

/-- Whether a file can be written does not depend on what it is to hold. -/
theorem exists_write_iff : (∃ s', s.write text content = .ok s') ↔ s.CanWrite text := by
  constructor
  · rintro ⟨s', h⟩
    obtain ⟨_, hcheck, h⟩ := bind_eq_ok_iff.mp h
    obtain ⟨target, htarget, h⟩ := bind_eq_ok_iff.mp h
    cases target with
    | none => cases h
    | some path =>
      refine ⟨hcheck, path, htarget, fun hplace => ?_⟩
      simp only [hplace] at h
      cases h
  · rintro ⟨hcheck, path, htarget, hplace⟩
    refine ⟨s.put path (.file content), ?_⟩
    rw [write, hcheck, ok_bind, htarget, ok_bind]
    rcases hfound : s.find? path with _ | _ | _
    · simp only [hfound, pure_eq_ok]
    · exact absurd hfound hplace
    · simp only [hfound, pure_eq_ok]

/-- The target of a path is a file of its last name in the directory that the names before it lead
to. -/
theorem target_eq_some {init : List Text}
    (h : s.target text (init ++ [name]) = .ok (some path)) :
    ∃ directory, s.follow text (Path.origin text) init = .ok (directory, .directory) ∧
      name.size ≤ Path.maxNameSize ∧ name ≠ Path.out ∧ path = directory ++ [name] ∧
      directory.enter name = directory ++ [name] := by
  rw [target, List.dropLast_concat] at h
  obtain ⟨⟨directory, entry⟩, hinit, h⟩ := bind_eq_ok_iff.mp h
  cases entry with
  | file _ => cases h
  | directory =>
    simp only [List.getLastD_concat] at h
    by_cases hlong : Path.maxNameSize < name.size
    · simp [hlong] at h
    · by_cases hback : name = "" ∨ name = "." ∨ name = Path.out
      · simp [hlong, hback] at h
      · simp only [if_neg hlong, if_neg hback, pure_eq_ok, Except.ok.injEq, Option.some.injEq,
          not_or] at h hback
        obtain ⟨hempty, hpoint, hout⟩ := hback
        refine ⟨directory, hinit, Nat.not_lt.mp hlong, hout, h.symm, ?_⟩
        rw [Path.enter, if_neg (by simp [hempty, hpoint]), if_neg hout]

/-- What a write has found: the last name of its path is none that leads back, and stands for no
directory in the directory that the names before it lead to. -/
theorem exists_of_write {init : List Text} (hnames : Path.names text = init ++ [name])
    (h : s.write text content = .ok s') :
    ∃ directory, Path.check text = .ok () ∧
      s.follow text (Path.origin text) init = .ok (directory, .directory) ∧
      name.size ≤ Path.maxNameSize ∧ name ≠ Path.out ∧
      directory.enter name = directory ++ [name] ∧
      s.find? (directory ++ [name]) ≠ some .directory ∧
      s' = s.put (directory ++ [name]) (.file content) := by
  obtain ⟨_, hcheck, h⟩ := bind_eq_ok_iff.mp h
  rw [hnames] at h
  obtain ⟨target, htarget, h⟩ := bind_eq_ok_iff.mp h
  cases target with
  | none => cases h
  | some path =>
    obtain ⟨directory, hinit, hsize, hout, rfl, henter⟩ := target_eq_some htarget
    refine ⟨directory, hcheck, hinit, hsize, hout, henter, ?_⟩
    rcases hplace : s.find? (directory ++ [name]) with _ | _ | _ <;> simp only [hplace] at h
    · cases h
      exact ⟨nofun, rfl⟩
    · cases h
    · cases h
      exact ⟨nofun, rfl⟩

theorem lookup?_eq_some_iff : s.lookup? text = some entry ↔ Path.check text = .ok () ∧
    ∃ place, s.follow text (Path.origin text) (Path.names text) = .ok (place, entry) := by
  rw [lookup?, resolve]
  rcases Path.check text with _ | ⟨⟩
  · simp [Except.toOption]
  · rcases s.follow text (Path.origin text) (Path.names text) with _ | ⟨place, found⟩
    · simp [Except.toOption]
    · simp [Except.toOption]

/-- A file that has been written stands at its path. -/
theorem lookup?_write (h : s.write text content = .ok s') :
    s'.lookup? text = some (.file content) := by
  obtain ⟨init, name, hnames, -⟩ := Path.exists_names_append text ⟨[]⟩ List.not_mem_nil
  obtain ⟨directory, hcheck, hinit, hsize, -, henter, hfree, rfl⟩ := exists_of_write hnames h
  have hne : directory ≠ directory ++ [name] := fun heq => hfree (heq ▸ find?_of_follow hinit)
  have hinit' : (s.put (directory ++ [name]) (.file content)).follow text (Path.origin text) init =
      .ok (directory, .directory) := (follow_put_eq_ok_iff text text hfree hne).mpr hinit
  refine lookup?_eq_some_iff.mpr ⟨hcheck, directory ++ [name], ?_⟩
  rw [hnames, follow_append hinit', follow_cons_eq_ok_iff, follow_nil_eq_ok_iff]
  exact ⟨find?_of_follow hinit', hsize, henter, by rw [henter, find?_put hfree]⟩

/-- A write does not touch what stands under a part of its last name. -/
theorem lookup?_write_append {ending : Text} (hslash : .char '/' ∉ ending.points)
    (hending : ending.points ≠ []) (h : s.write (text ++ ending) content = .ok s') :
    s'.lookup? text = s.lookup? text := by
  obtain ⟨init, name, hnames, hmore⟩ := Path.exists_names_append text ending hslash
  obtain ⟨directory, -, hinit, -, hout, -, hfree, rfl⟩ := exists_of_write hmore h
  have hother : name ++ ending ≠ name := fun heq =>
    hending (List.append_right_eq_self.mp (congrArg Text.points heq))
  refine Option.ext fun entry => ?_
  rw [lookup?_eq_some_iff, lookup?_eq_some_iff]
  refine and_congr_right fun hcheck => exists_congr fun place => ?_
  by_cases hplace : place = directory ++ [name ++ ending]
  · -- no path with the last name leads to the file, before or after the write
    have hne : place ≠ directory.enter name := hplace ▸ (Path.enter_ne hother hout).symm
    have horigin : Path.origin (text ++ ending) = Path.origin text :=
      Path.origin_append hcheck ending
    rw [horigin] at hinit
    have hdirectory : directory ≠ directory ++ [name ++ ending] := fun heq =>
      hfree (heq ▸ find?_of_follow hinit)
    rw [hnames]
    refine iff_of_false (fun hmet => hne ?_) fun hmet => hne (eq_enter_of_follow hinit hmet)
    exact eq_enter_of_follow ((follow_put_eq_ok_iff text _ hfree hdirectory).mpr hinit) hmet
  · exact follow_put_eq_ok_iff text text hfree hplace

/-! ## Making directories -/

/-- From the first state to the second one directories have been made, and nothing that was there
has changed. -/
def GainsDirectories (s s' : FileStore α) : Prop :=
  ∀ place, s'.find? place = s.find? place ∨
    s.find? place = none ∧ s'.find? place = some .directory

theorem gainsDirectories_refl (s : FileStore α) : s.GainsDirectories s := fun _ => .inl rfl

theorem GainsDirectories.trans {s'' : FileStore α} (h : s.GainsDirectories s')
    (h' : s'.GainsDirectories s'') : s.GainsDirectories s'' := by
  intro place
  obtain hsame | ⟨hnone, hmade⟩ := h' place
  · rw [hsame]
    exact h place
  · obtain hsame | ⟨-, hdirectory⟩ := h place
    · exact .inr ⟨hsame ▸ hnone, hmade⟩
    · cases hnone.symm.trans hdirectory

theorem gainsDirectories_makeDirectory (h : s.makeDirectory text = .ok s') :
    s.GainsDirectories s' := by
  obtain ⟨_, -, h⟩ := bind_eq_ok_iff.mp h
  obtain ⟨target, -, h⟩ := bind_eq_ok_iff.mp h
  cases target with
  | none => cases h
  | some path =>
    dsimp only at h
    split at h
    · cases h
    · next hfree =>
      cases h
      have hnone : s.find? path = none := by simpa using hfree
      intro place
      by_cases hplace : place = path
      · subst hplace
        exact .inr ⟨hnone, find?_put (by rw [hnone]; exact nofun)⟩
      · exact .inl (find?_put_of_ne hplace)

theorem gainsDirectories_last (text : Text) (s : FileStore α) :
    s.GainsDirectories (makeDirectories.last text s).2 := by
  unfold makeDirectories.last
  split
  · next hmade => exact gainsDirectories_makeDirectory hmade
  · exact gainsDirectories_refl s

theorem gainsDirectories_go (fuel : Nat) (text : Text) (s : FileStore α) :
    s.GainsDirectories (makeDirectories.go fuel text s).2 := by
  induction fuel generalizing text s with
  | zero => exact gainsDirectories_refl s
  | succ fuel ih =>
    unfold makeDirectories.go
    split
    next directory name _ =>
    split
    · exact gainsDirectories_last text s
    have houter := ih directory s
    -- the last directory is made after those around it
    have hrest : ∀ s', s.GainsDirectories s' → s.GainsDirectories
        (if name = "." then (Except.ok (), s') else makeDirectories.last text s').2 := by
      intro s' h
      split
      · exact h
      · exact h.trans (gainsDirectories_last text s')
    split
    · next hgo => exact hrest _ (by rwa [hgo] at houter)
    · next hgo => exact hrest _ (by rwa [hgo] at houter)
    · exact houter

/-- When directories are made nothing else happens, whether all of them can be made or not. -/
theorem gainsDirectories_makeDirectories (text : Text) (s : FileStore α) :
    s.GainsDirectories (makeDirectories text s).2 := gainsDirectories_go _ text s

/-- For an empty path no directory is made. -/
theorem makeDirectories_empty (s : FileStore α) :
    makeDirectories "" s = (.error (.missing ""), s) := rfl

end FileStore

end Storage

end Airlight
