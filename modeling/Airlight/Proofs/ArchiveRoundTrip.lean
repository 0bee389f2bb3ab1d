import Airlight.Proofs.FileWrites
import Airlight.Proofs.RunSteps
import Airlight.Storage.Archive

/-!
# Archives that have been saved

A set of textures that has been saved is read back from the path of its archive: the path that was
given, with the ending of archives. Under a path without that ending stands what stood there before,
if anything.
-/

namespace Airlight

variable {α : Type}

/-- The textures of a set are found under their names. -/
theorem TextureSet.ofNamed_named (t : TextureSet α) : ofNamed t.named = .ok t := by
  obtain ⟨transmittance, _, _, _, _⟩ := t
  cases transmittance <;> rfl

namespace Storage

variable {files : FileStore α} {path : Text} {t : TextureSet α}

/-- A step on the files leaves what it leaves, whether it is refused or not. -/
theorem leaves_attempt (step : FileStore α → Except StorageFault Unit × FileStore α)
    (files : FileStore α) : (attempt step).Leaves files fun r files' => match r with
      | .ok () => step files = (.ok (), files')
      | .error failure => ∃ fault, step files = (.error fault, files') ∧
          failure = .storage fault := by
  unfold attempt
  refine Run.Leaves.bind (Run.leaves_state (Run.Leaves.bind (Run.leaves_change ?_)))
  rcases hstep : step files with ⟨fault | ⟨⟩, files'⟩
  · exact Run.leaves_throw ⟨fault, rfl, rfl⟩
  · exact Run.leaves_pure rfl

/-- A change of the files is made as a whole or not at all. -/
theorem leaves_update (change : FileStore α → Except StorageFault (FileStore α))
    (files : FileStore α) : (update change).Leaves files fun r files' => match r with
      | .ok () => change files = .ok files'
      | .error failure => files' = files ∧ ∃ fault, change files = .error fault ∧
          failure = .storage fault := by
  refine (leaves_attempt _ files).mono fun r files' h => ?_
  cases hchange : change files with
  | error fault =>
    simp only [hchange] at h
    rcases r with _ | ⟨⟩
    · obtain ⟨_, ⟨⟩, rfl⟩ := h
      exact ⟨rfl, fault, rfl, rfl⟩
    · cases h
  | ok changed =>
    simp only [hchange] at h
    rcases r with _ | ⟨⟩
    · obtain ⟨_, ⟨⟩, -⟩ := h
    · cases h
      rfl

/-- An archive is saved by a single write. It stays if the console cannot show its path. -/
theorem leaves_saveArchive (path : Text) (textures : NamedTextures α) (console : Console)
    (files : FileStore α) :
    (saveArchive path textures console).Leaves files fun r files' => match r with
      | .ok () => files.write (archivePath path) (.archive textures) = .ok files'
      | .error _ =>
        files' = files ∧
            (∃ fault, files.write (archivePath path) (.archive textures) = .error fault) ∨
          files.write (archivePath path) (.archive textures) = .ok files' ∧
            console.refusal (FileNotice.archiveSaved path).message ≠ none := by
  refine Run.Leaves.bind ((leaves_update _ files).mono fun r files' hupdate => ?_)
  cases r with
  | error _ =>
    obtain ⟨hsame, fault, hfault, -⟩ := hupdate
    exact .inl ⟨hsame, fault, hfault⟩
  | ok _ => exact Run.leaves_announce (fun _ => hupdate) fun _ hrefused => .inr ⟨hupdate, hrefused⟩

theorem yields_attempt {step : FileStore α → Except StorageFault Unit × FileStore α}
    {files' : FileStore α} (h : step files = (.ok (), files')) :
    (attempt step).Yields files () files' := by
  refine (Run.yields_state files).bind ?_
  rw [h]
  exact (Run.yields_change _ _).bind (Run.yields_pure () _)

theorem yields_update {change : FileStore α → Except StorageFault (FileStore α)}
    {files' : FileStore α} (h : change files = .ok files') :
    (update change).Yields files () files' :=
  yields_attempt (by rw [h])

/-- A step that is refused leaves what it has done before that. -/
theorem fails_attempt {step : FileStore α → Except StorageFault Unit × FileStore α}
    {fault : StorageFault} {files' : FileStore α} (h : step files = (.error fault, files')) :
    (attempt step).Fails files (.storage fault) files' := by
  refine (Run.yields_state files).bind_fails ?_
  rw [h]
  exact (Run.yields_change _ _).bind_fails fun events => ⟨events, rfl⟩

/-- An archive is saved if it can be written and the console shows its path. -/
theorem yields_saveArchive {textures : NamedTextures α} {console : Console} {files' : FileStore α}
    (h : files.write (archivePath path) (.archive textures) = .ok files')
    (hshown : console.refusal (FileNotice.archiveSaved path).message = none) :
    (saveArchive path textures console).Yields files () files' :=
  (yields_update h).bind (Run.yields_announce hshown _)

/-- An archive that is written stays if the console cannot show its path. -/
theorem fails_saveArchive {textures : NamedTextures α} {console : Console} {files' : FileStore α}
    {reason : Text} (h : files.write (archivePath path) (.archive textures) = .ok files')
    (hrefused : console.refusal (FileNotice.archiveSaved path).message = some reason) :
    (saveArchive path textures console).Fails files (.encoding reason) files' :=
  (yields_update h).bind_fails (Run.fails_announce hrefused _)

/-- An archive that has been saved has been written at its path. -/
theorem write_of_saveArchive {textures : NamedTextures α} {console : Console}
    {journal : Journal α (FileStore α)}
    (h : Run.start files (saveArchive path textures console) = (.ok (), journal)) :
    files.write (archivePath path) (.archive textures) = .ok journal.state := by
  have hfiles := (leaves_saveArchive path textures console files).start
  rwa [h] at hfiles

/-- A set of textures that has been written is read back. -/
theorem loadArchive_of_write {files' : FileStore α}
    (h : files.write path (.archive t.named) = .ok files') : loadArchive files' path = .ok t := by
  rw [loadArchive, FileStore.lookup?_write h]
  simp only [TextureSet.ofNamed_named]

/-- A set of textures that has been saved is read back from the path with the ending of archives,
also without a transmittance table. Under a path without it the archive is not found: there stands
what stood there before. -/
theorem loadArchive_of_saveArchive {console : Console} {journal : Journal α (FileStore α)}
    (h : Run.start files (saveArchive path t.named console) = (.ok (), journal)) :
    loadArchive journal.state (archivePath path) = .ok t ∧
      loadArchive journal.state path =
        if path.endsWith ".npz" then .ok t else loadArchive files path := by
  have hwrite := write_of_saveArchive h
  have hload := loadArchive_of_write hwrite
  refine ⟨hload, ?_⟩
  by_cases hending : path.endsWith ".npz" = true
  · rw [if_pos hending]
    rwa [archivePath, if_pos hending] at hload
  · rw [if_neg hending]
    rw [archivePath, if_neg hending] at hwrite
    rw [loadArchive, FileStore.lookup?_write_append (by decide) (by decide) hwrite, loadArchive]

/-- Where an older archive has the name that is given, without the ending of archives, it is read in
place of the one that was saved. -/
theorem loadArchive_of_saveArchive_older :
    let older : TextureSet Float := ⟨none, .single 1, .single 2, .single 3, .single 4⟩
    let t : TextureSet Float := ⟨some (.row [0, 1]), .row [], .single 5, .single 6, .single 7⟩
    let files : FileStore Float :=
      ⟨[(["data"], .directory), (["data", "luts"], .file (.archive older.named))]⟩
    ∃ journal, Run.start files (saveArchive "data/luts" t.named) = (.ok (), journal) ∧
      loadArchive journal.state "data/luts.npz" = .ok t ∧
      loadArchive journal.state "data/luts" = .ok older := by
  intro older t files
  have hsave : Run.start files (saveArchive "data/luts" t.named) =
      (.ok (), (Run.start files (saveArchive "data/luts" t.named)).2) := rfl
  obtain ⟨hload, hgiven⟩ := loadArchive_of_saveArchive hsave
  exact ⟨_, hsave, hload, hgiven.trans rfl⟩

/-- A set that has been saved under a name without the ending of archives is not found under it. -/
theorem saved_archive_not_found :
    let t : TextureSet Float := ⟨none, .single 1, .single 2, .single 3, .single 4⟩
    let saved := Run.start ⟨[]⟩ (saveArchive "luts" t.named)
    saved.1 = .ok () ∧ loadArchive saved.2.state "luts" = .error (.missingArchive "luts") :=
  ⟨rfl, rfl⟩

end Storage

end Airlight
