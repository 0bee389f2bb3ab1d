import Airlight.Proofs.ArchiveRoundTrip
import Airlight.Proofs.ConfigurationFaults
import Airlight.Proofs.Repetition
import Airlight.Proofs.TextureSizes
import Airlight.Proofs.UnitIndependence

/-!
# Effects of the program

The program touches the files only after everything has been computed. So a command that writes an
archive and reports a failure has changed nothing as long as the system takes what is written, the
output is a path at all and the console can show it. A command that is done has written the textures
of the model that its options describe.

## Main definitions

* `Path.Passable` — a text that can be handed to the system as a path.
* `Options.SystemTakes` — the system refuses nothing that a command asks of it.
* `Options.Written` — an archive with the textures that the options describe.
* `Options.Remains` — what a command may leave when it fails.
-/

namespace Airlight

open Grid

/-- A text ends as its last part does. -/
theorem Text.endsWith_append {t : Text} {ending : String} (h : t.endsWith ending = true)
    (start : Text) : (start ++ t).endsWith ending = true := by
  rw [endsWith, List.isSuffixOf_iff_suffix] at h ⊢
  exact h.trans (List.suffix_append start.points t.points)

/-- A text that can be handed to the system as a path: it has no zero character, and the surrogates
in it stand for bytes. -/
def Storage.Path.Passable (text : Text) : Prop :=
  ∀ p ∈ text.points, p ≠ .char '\x00' ∧ (p.toChar?.isSome = true ∨ p.isByte = true)

instance (text : Text) : Decidable (Storage.Path.Passable text) :=
  inferInstanceAs (Decidable (∀ p ∈ text.points, _))

namespace CommandLine

open Storage

variable {α : Type}

/-- The archive of a command is saved under its own path. -/
theorem archivePath_join (output : Text) :
    archivePath (Path.join output archiveName) = Path.join output archiveName := by
  have hname : (archiveName : Text).endsWith ".npz" = true := by decide
  refine if_pos ?_
  unfold Path.join
  split_ifs
  · exact hname
  · exact Text.endsWith_append hname _
  · exact Text.endsWith_append hname _

/-- The system refuses nothing that a command asks of it: if the output is a path that can be handed
to it, the directories of the output can be made, and then the archive can be written there. -/
def Options.SystemTakes (o : Options) (files : FileStore α) : Prop :=
  ∀ output, o.output = .value output → output ≠ "" → Path.Passable output → ∃ made,
    FileStore.makeDirectories output files = (.ok (), made) ∧
      made.CanWrite (Path.join output archiveName)

/-- The line that is shown about the archive at an output. -/
def archiveLine (output : Text) : Text :=
  (FileNotice.archiveSaved (Path.join output archiveName)).message

/-- What is left of a command when a model has textures: they are written below the output. -/
def writeBelow (m : Model α) (output : Text) (console : Console) :
    Run α (FileStore α) Text := do
  attempt (FileStore.makeDirectories output)
  m.save (Path.join output archiveName) console
  return Path.join output archiveName

/-- Textures that are written below an output are read back. Directories are made for them first,
but not at an empty path, and nothing else happens when the files refuse them; when the console
refuses to show that they have been written, they have been. -/
theorem leaves_writeBelow {m : Model α} {textures : TextureSet α}
    (htextures : m.texturesOrFail = .ok textures) (output : Text) (console : Console)
    (files : FileStore α) :
    (writeBelow m output console).Leaves files fun r files' => match r with
      | .ok _ => loadArchive files' (Path.join output archiveName) = .ok textures
      | .error _ =>
        files.GainsDirectories files' ∧ (output = "" → files' = files) ∧
            (∀ made, FileStore.makeDirectories output files = (.ok (), made) →
              ¬ made.CanWrite (Path.join output archiveName)) ∨
          console.refusal (archiveLine output) ≠ none ∧
            loadArchive files' (Path.join output archiveName) = .ok textures := by
  have hgains := FileStore.gainsDirectories_makeDirectories output files
  refine Run.Leaves.bind ((leaves_attempt _ files).mono fun r made hmade => ?_)
  rcases r with failure | ⟨⟩
  · obtain ⟨fault, hfault, -⟩ := hmade
    rw [hfault] at hgains
    refine .inl ⟨hgains, ?_, fun made' hmade' => ?_⟩
    · rintro rfl
      cases (FileStore.makeDirectories_empty files).symm.trans hfault
      rfl
    · cases hfault.symm.trans hmade'
  rw [hmade] at hgains
  refine Run.Leaves.bind (Run.Leaves.bind (Run.leaves_lift ?_))
  rw [htextures]
  refine (leaves_saveArchive _ _ console made).mono fun r files' hsaved => ?_
  rw [archivePath_join] at hsaved
  rcases r with failure | ⟨⟩
  · obtain ⟨rfl, fault, hfault⟩ | ⟨hwritten, hrefused⟩ := hsaved
    · refine .inl ⟨hgains, ?_, fun made' hmade' hwrite => ?_⟩
      · rintro rfl
        cases (FileStore.makeDirectories_empty files).symm.trans hmade
      · cases hmade.symm.trans hmade'
        obtain ⟨_, hwritten⟩ := FileStore.exists_write_iff.mpr hwrite
        cases hfault.symm.trans hwritten
    · exact .inr ⟨hrefused, loadArchive_of_write hwritten⟩
  · exact Run.leaves_pure (loadArchive_of_write hsaved)

variable [Scalar α] [Inhabited α] {images : ImageSupport α} {o : Options} {console : Console}
  {read : DocumentReader α}

/-- The files hold an archive at the output, with the textures of the model that the options
describe. -/
def Options.Written (o : Options) (images : ImageSupport α) (read : DocumentReader α)
    (files files' : FileStore α) : Prop :=
  ∃ output p sizes textures, o.output = .value output ∧
    o.parameters files read = .ok p ∧ o.sizes = .ok sizes ∧
    loadArchive files' (Path.join output archiveName) = .ok textures ∧
    (Model.new p sizes Model.standardUnit).Computes o.effort (images.round .single) textures

/-- What a command that writes an archive may leave when it fails: the files as they were, or with
directories on the way to an output that is no path, or the archive if the console cannot show its
path. -/
def Options.Remains (o : Options) (images : ImageSupport α) (console : Console)
    (read : DocumentReader α) (files files' : FileStore α) : Prop :=
  files' = files ∨ ∃ output, o.output = .value output ∧
    (¬ Path.Passable output ∧ files.GainsDirectories files' ∨
      console.refusal (archiveLine output) ≠ none ∧ o.Written images read files files')

/-- What a command that writes an archive leaves if the system refuses nothing. -/
def Options.Effect (o : Options) (images : ImageSupport α) (console : Console)
    (read : DocumentReader α) (files : FileStore α) {β : Type} :
    Except (Failure α) β → FileStore α → Prop
  | .ok _, files' => o.Written images read files files'
  | .error _, files' => o.SystemTakes files → o.Remains images console read files files'

theorem leaves_precompute (images : ImageSupport α) (hformat : o.format ≠ .value .images)
    (console : Console) (read : DocumentReader α) (files : FileStore α) :
    (precompute images o console read).Leaves files (o.Effect images console read files) := by
  unfold precompute
  refine Run.Leaves.bind (Run.leaves_state ?_)
  refine Run.Leaves.bind (Run.leaves_lift ?_)
  rcases hparameters : o.parameters files read with failure | p
  · exact fun _ => .inl rfl
  refine Run.Leaves.bind (Run.leaves_lift ?_)
  rcases hsizes : (o.sizes : Except (Failure α) (GridSizes α)) with failure | sizes
  · exact fun _ => .inl rfl
  have hinit := (Model.new p sizes Model.standardUnit).ensures_computes o.effort
    (images.round .single) (some .patient)
  refine Run.Leaves.bind (Run.Leaves.within (hinit.leaves.mono fun r m hmodel => ?_))
  rcases r with failure | ⟨⟩
  · exact fun _ => .inl rfl
  obtain ⟨textures, rfl, hcomputes⟩ := hmodel () rfl
  refine Run.Leaves.bind (Run.leaves_lift ?_)
  rcases houtput : o.output with output | _
  swap
  · exact fun _ => .inl rfl
  -- from here on only the files and the console can refuse
  have hmodel : ((Model.new p sizes Model.standardUnit).withTextures textures).texturesOrFail =
      .ok textures := rfl
  have hrest : (writeBelow ((Model.new p sizes Model.standardUnit).withTextures textures) output
      console).Leaves files (o.Effect images console read files) := by
    refine (leaves_writeBelow hmodel output console files).mono fun r files' hleft => ?_
    have hwritten : loadArchive files' (Path.join output archiveName) = .ok textures →
        o.Written images read files files' := fun hread =>
      ⟨output, p, sizes, textures, houtput, hparameters, hsizes, hread, hcomputes⟩
    rcases r with failure | path
    · intro htakes
      obtain ⟨hgains, hsame, hrefused⟩ | ⟨hrefused, hread⟩ := hleft
      · by_cases hempty : output = ""
        · exact .inl (hsame hempty)
        refine .inr ⟨output, houtput, .inl ⟨fun hpath => ?_, hgains⟩⟩
        obtain ⟨made, hmade, hwrite⟩ := htakes output houtput hempty hpath
        exact hrefused made hmade hwrite
      · exact .inr ⟨output, houtput, .inr ⟨hrefused, hwritten hread⟩⟩
    · exact hwritten hleft
  rcases hform : o.format with (_ | _) | _
  · exact hrest
  · exact absurd hform hformat
  · exact hrest

/-- How the run of a command ends, and what it has done to the files. -/
theorem execute_cases {arguments : List Text} (hrequest : Request.ofArguments arguments = .run o)
    (hformat : o.format ≠ .value .images) (images : ImageSupport α) (files : FileStore α)
    (console : Console) (read : DocumentReader α) :
    (execute images arguments files console read).1 = .done ∧
        o.Written images read files (execute images arguments files console read).2.state ∨
      (∃ failure, (execute images arguments files console read).1 = .reported failure) ∧
        (o.SystemTakes files → o.Remains images console read files
          (execute images arguments files console read).2.state) ∨
      ∃ failure, (execute images arguments files console read).1 = .escaped failure := by
  have heffect := (leaves_precompute images hformat console read files).start
  rcases hrun : Run.start files (precompute images o console read) with ⟨failure | path, journal⟩
  · rw [hrun] at heffect
    rw [execute_of_error hrequest hrun]
    cases isReported failure.kind
    · exact .inr (.inr ⟨failure, rfl⟩)
    · exact .inr (.inl ⟨⟨failure, rfl⟩, heffect⟩)
  · rw [hrun] at heffect
    have hlast : (Run.announce console (.written path) : Run α _ Unit).Leaves journal.state
        fun _ files' => files' = journal.state :=
      Run.leaves_announce (fun _ => rfl) fun _ _ => rfl
    have hsame := hlast journal.events
    simp only [execute, hrequest, hrun]
    rcases hshown : Run.announce console (.written path) journal with ⟨failure | ⟨⟩, journal'⟩
    · exact .inr (.inr ⟨failure, rfl⟩)
    · rw [hshown] at hsame
      refine .inl ⟨rfl, ?_⟩
      rw [hsame]
      exact heffect

end CommandLine

/-! ## Commands for the Earth -/

/-- Sizes of up to a thousand have few digits. -/
theorem Value.hasLongInteger_integer {α : Type} {n : Int} (h : n.natAbs < 10 ^ 3) :
    (Value.integer n : Value α).hasLongInteger = false := by
  have hfew : ∀ digits, 3 ≤ digits → 10 ^ 3 ≤ Nat.pow 10 digits := fun digits hdigits =>
    Nat.pow_le_pow_right (by decide) hdigits
  rw [hasLongInteger, decide_eq_false_iff_not, not_le]
  exact h.trans_le (hfew Numeral.maxDigits (by decide))

theorem Grid.GridSizes.short_standard : ∃ shape, (ofExtents .standard : GridSizes ℝ).shape =
    .ok shape ∧ ¬ (shape.any fun size => size.toValue.hasLongInteger) = true := by
  refine ⟨_, shape_ofExtents .standard, ?_⟩
  simp only [List.any_cons, List.any_nil, Quantity.toValue, Bool.not_eq_true,
    Bool.or_eq_false_iff]
  exact ⟨Value.hasLongInteger_integer (by decide), Value.hasLongInteger_integer (by decide),
    Value.hasLongInteger_integer (by decide), trivial⟩

/-- The standard unit of a model is a length unit. -/
theorem Parameters.toLengthUnitValue_standardUnit {p : Parameters ℝ} (hvalid : p.validate = .ok ())
    (hregular : p.Regular) : ∃ k, 0 < k ∧
      p.toLengthUnitValue Model.standardUnit = .ok (p.inUnit k) := by
  have hunit : (0 : ℝ) < 1000.0 := by norm_num
  obtain ⟨hk, hconverted⟩ := toLengthUnit_eq_ok hvalid hregular hunit
  refine ⟨_, hk, ?_⟩
  have hoperand : (Value.real (1000.0 : ℝ)).operandOrFail = .ok 1000.0 := rfl
  have hpositive : ¬ (1000.0 : ℝ) ≤ 0.0 := by norm_num
  simp [toLengthUnitValue, Model.standardUnit, Value.atMostZero, hoperand, hpositive, hconverted]

/-- A model of checked parameters with regular profiles gets textures on the standard grid. -/
theorem Model.yields_init {p : Parameters ℝ} (hvalid : p.validate = .ok ()) (hregular : p.Regular)
    {effort : Effort ℝ} {height width : Nat} (heffort : effort.Accepted height width)
    (store : ℝ → ℝ) {observer : Option (Observer ℝ)} (hsilent : ∀ o ∈ observer, o.Silent) :
    ∃ textures, (init effort store observer).Yields
      (Model.new p (.ofExtents .standard) standardUnit) ()
      ((Model.new p (.ofExtents .standard) standardUnit).withTextures textures) := by
  obtain ⟨k, hk, hunit⟩ := Parameters.toLengthUnitValue_standardUnit hvalid hregular
  have hmatrix : p.projection.toTensor.shape = [4, 4] := rfl
  obtain ⟨textures, htextures⟩ := Parameters.precompute_yields hvalid hregular .standard heffort
    hmatrix store hsilent PassPlan.checkRoom_standard
  rw [← Parameters.precompute_inUnit hregular hk] at htextures
  obtain ⟨shape, hshape, hshort⟩ := GridSizes.short_standard
  have hprecompute : ((Model.new p (.ofExtents .standard) standardUnit).precompute effort store
      observer).Yields () textures () := by
    refine (Run.yields_tell hsilent _ _).bind <| (Run.yields_lift hunit _).bind <|
      (Run.yields_lift rfl _).bind <| (Run.yields_lift hshape _).bind ?_
    dsimp only
    rw [if_neg hshort]
    exact (Run.yields_note _ _).bind htextures
  exact ⟨textures, (Run.yields_state _).bind <| (hprecompute.within _).bind <|
    (Run.yields_change _ _).bind <| Run.yields_tell hsilent _ _⟩

namespace CommandLine

open Storage

theorem accepted_standard : (Options.standard.effort : Effort ℝ).Accepted 64 256 :=
  { Effort.accepted_standard with workers := rfl }

/-- An archive that can be written at an output is read back. -/
theorem exists_write {α : Type} {made : FileStore α} {output : Text}
    (hwrite : made.CanWrite (Path.join output archiveName)) (textures : TextureSet α) :
    ∃ files', made.write (archivePath (Path.join output archiveName)) (.archive textures.named) =
        .ok files' ∧ loadArchive files' (Path.join output archiveName) = .ok textures := by
  rw [archivePath_join]
  obtain ⟨files', hwritten⟩ := FileStore.exists_write_iff.mpr hwrite
  exact ⟨files', hwritten, loadArchive_of_write hwritten⟩

/-- The system takes an archive at an output if it can be written there. -/
theorem systemTakes_of_canWrite {α : Type} {o : Options} {output : Text} {files made : FileStore α}
    (houtput : o.output = .value output)
    (hmade : FileStore.makeDirectories output files = (.ok (), made))
    (hwrite : made.CanWrite (Path.join output archiveName)) : o.SystemTakes files := by
  intro other hother _ _
  cases houtput.symm.trans hother
  exact ⟨made, hmade, hwrite⟩

variable {images : ImageSupport ℝ} {o : Options} {output : Text} {console : Console}
  {read : DocumentReader ℝ} {files files' made : FileStore ℝ} {arguments : List Text}

/-- A command for the Earth on the standard grid comes to writing a model with textures. -/
theorem exists_precompute (images : ImageSupport ℝ) (console : Console)
    (hearth : o.parameters files read = .ok .earth)
    (hoptions : o = { Options.standard with config := o.config, output := .value output }) :
    ∃ (m : Model ℝ) (textures : TextureSet ℝ),
    m.texturesOrFail = .ok textures ∧
      (∀ path files', (writeBelow m output console).Yields files path files' →
        (precompute images o console read).Yields files path files') ∧
      ∀ failure files', (writeBelow m output console).Fails files failure files' →
        (precompute images o console read).Fails files failure files' := by
  have hsilent : ∀ o ∈ some (Observer.patient : Observer ℝ), o.Silent := by
    rintro _ ⟨⟩ _
    rfl
  obtain ⟨textures, hinit⟩ := Model.yields_init Parameters.validate_earth Parameters.regular_earth
    accepted_standard (images.round .single) hsilent
  rw [hoptions] at hearth ⊢
  refine ⟨(Model.new .earth (.ofExtents .standard) Model.standardUnit).withTextures textures,
    textures, rfl, fun path files' hrest => ?_, fun failure files' hrest => ?_⟩
  · exact (Run.yields_state _).bind <| (Run.yields_lift hearth _).bind <|
      (Run.yields_lift rfl _).bind <| (hinit.within _).bind <| (Run.yields_lift rfl _).bind hrest
  · exact (Run.yields_state _).bind_fails <| (Run.yields_lift hearth _).bind_fails <|
      (Run.yields_lift rfl _).bind_fails <| (hinit.within _).bind_fails <|
      (Run.yields_lift rfl _).bind_fails hrest

/-- A command for the Earth is done if its archive can be written and the console shows every
line. -/
theorem execute_earth (images : ImageSupport ℝ) (hrequest : Request.ofArguments arguments = .run o)
    (hearth : o.parameters files read = .ok .earth)
    (hoptions : o = { Options.standard with config := o.config, output := .value output })
    (hmade : FileStore.makeDirectories output files = (.ok (), made))
    (hwrite : made.CanWrite (Path.join output archiveName)) :
    (execute images arguments files .complete read).1 = .done := by
  obtain ⟨m, textures, htextures, hyields, -⟩ := exists_precompute images .complete hearth hoptions
  obtain ⟨files', hwritten, -⟩ := exists_write hwrite textures
  have hrest : (writeBelow m output .complete).Yields files (Path.join output archiveName) files' :=
    (yields_attempt hmade).bind <|
      ((Run.yields_lift htextures _).bind (yields_saveArchive hwritten rfl)).bind <|
      Run.yields_pure _ _
  obtain ⟨journal, hrun, -⟩ := (hyields _ _ hrest).start
  simp only [execute, hrequest, hrun]
  rfl

/-- A command whose writing fails leaves what has been written, and reports the failure if it is of
a class that is reported. -/
theorem execute_of_fails {failure : Failure ℝ} (hrequest : Request.ofArguments arguments = .run o)
    (hrun : (precompute images o console read).Fails files failure files')
    (hreported : isReported failure.kind = true) :
    (execute images arguments files console read).1.exitCode? = some 1 ∧
      (execute images arguments files console read).2.state = files' := by
  obtain ⟨events, hrun⟩ := hrun #[]
  rw [execute_of_error hrequest hrun, if_pos hreported]
  exact ⟨rfl, rfl⟩

/-! ## Every command -/

/-- What a command that writes an archive does to the files. If it ends with the code 1 and the
system refuses nothing, then no file or directory has been made or changed, unless the output is no
path, or the console cannot show the path of the archive. In the first case only directories may
have been made, in the second one the archive has been written. The failure has been reported. If
the command ends with the code 0, then the archive at the output holds the textures that a model
computes for the parameters and the sizes that the options name, with their counts, whatever the
number of workers is and whoever watches. -/
theorem execute_effects {arguments : List Text} {o : Options}
    (hrequest : Request.ofArguments arguments = .run o) (hformat : o.format ≠ .value .images) :
    (∀ {α : Type} [Scalar α] [Inhabited α] (images : ImageSupport α) (files : FileStore α)
        (console : Console) (read : DocumentReader α),
      let run := execute images arguments files console read
      (run.1.exitCode? = some 1 → o.SystemTakes files →
        run.2.state = files ∨ ∃ output, o.output = .value output ∧
          (¬ Path.Passable output ∧ files.GainsDirectories run.2.state ∨
            console.refusal (archiveLine output) ≠ none ∧
              o.Written images read files run.2.state)) ∧
        (run.1.exitCode? = some 0 → ∃ output p sizes textures,
          o.output = .value output ∧ o.parameters files read = .ok p ∧ o.sizes = .ok sizes ∧
          loadArchive run.2.state (Path.join output archiveName) = .ok textures ∧
          ∀ workers, PassPlan.checkWorkers workers = .ok () →
            ∀ observer : Option (Observer α), (∀ w ∈ observer, w.Silent) →
              let effort : Effort α := ⟨workers, o.blockSize.toValue, o.sampleCount.toValue,
                .integer 256, .integer 64, o.tableSampleCount.toValue⟩
              ∃ journal, Run.start (Model.new p sizes Model.standardUnit)
                  (Model.init effort (images.round .single) observer) = (.ok (), journal) ∧
                journal.state.textures = some textures)) ∧
    ∀ (images : ImageSupport Float) (files : FileStore Float) (console : Console)
        (read : DocumentReader Float),
      (execute images arguments files console read).1.exitCode? = some 1 →
        ∃ failure : Failure Float,
          (execute images arguments files console read).1.complaint? =
            some ("Error: " ++ failure.report) := by
  constructor
  · intro _ _ _ images files console read run
    obtain ⟨hdone, hwritten⟩ | ⟨⟨failure, hreported⟩, hremains⟩ | ⟨failure, hescaped⟩ :=
      execute_cases hrequest hformat images files console read
    · refine ⟨fun hcode => ?_, fun _ => hwritten⟩
      cases (congrArg Outcome.exitCode? hdone).symm.trans hcode
    · refine ⟨fun _ => hremains, fun hcode => ?_⟩
      cases (congrArg Outcome.exitCode? hreported).symm.trans hcode
    · refine ⟨fun hcode => ?_, fun hcode => ?_⟩ <;>
        cases (congrArg Outcome.exitCode? hescaped).symm.trans hcode
  · intro images files console read hcode
    obtain ⟨hdone, -⟩ | ⟨⟨failure, hreported⟩, -⟩ | ⟨failure, hescaped⟩ :=
      execute_cases hrequest hformat images files console read
    · rw [hdone] at hcode
      cases hcode
    · rw [hreported]
      exact ⟨failure, rfl⟩
    · rw [hescaped] at hcode
      cases hcode

/-- The arguments of a command that gives no options. -/
def plainArguments : List Text := ["precompute"]

theorem ofArguments_plainArguments :
    Request.ofArguments plainArguments = .run Options.standard := by
  decide

/-- An archive can be written at a name where there are no files. -/
theorem canWrite_standard {α : Type} : (⟨[(["luts"], .directory)]⟩ : FileStore α).CanWrite
    (Path.join "luts" archiveName) :=
  ⟨rfl, ["luts", "skylight_luts.npz"], rfl, nofun⟩

/-- A command that names a file that is not there leaves the files as they are and reports it; a
command that gives no options leaves the textures that one worker computes for the Earth. -/
theorem execute_effects_standard :
    (execute ⟨false, fun _ x => x⟩ configArguments (⟨[]⟩ : FileStore Float) .characters
      readYaml).2.state = ⟨[]⟩ ∧
    (∃ failure : Failure Float,
      (execute ⟨false, fun _ x => x⟩ configArguments ⟨[]⟩ .characters readYaml).1.complaint? =
        some ("Error: " ++ failure.report)) ∧
    ∃ textures journal,
      loadArchive (execute ⟨false, fun _ x => x⟩ plainArguments (⟨[]⟩ : FileStore ℝ) .complete
        readYaml).2.state (Path.join "luts" archiveName) = .ok textures ∧
      Run.start (Model.new .earth (.ofExtents .standard) Model.standardUnit)
        (Model.init { Options.standard.effort with workers := .integer 1 } id none) =
          (.ok (), journal) ∧
      journal.state.textures = some textures := by
  obtain ⟨hfiles, hreport⟩ := execute_effects ofArguments_configArguments (by decide)
  have hone : (execute ⟨false, fun _ x => x⟩ configArguments (⟨[]⟩ : FileStore Float) .characters
      readYaml).1.exitCode? = some 1 := by
    rw [execute_of_loadParameters ofArguments_configArguments rfl rfl rfl]
    rfl
  have htakes : { Options.standard with config := some (.value "atmosphere.yaml") }.SystemTakes
      (⟨[]⟩ : FileStore Float) := systemTakes_of_canWrite rfl rfl canWrite_standard
  have hsame : (execute ⟨false, fun _ x => x⟩ configArguments (⟨[]⟩ : FileStore Float) .characters
      readYaml).2.state = ⟨[]⟩ := by
    obtain hsame | ⟨output, houtput, ⟨hpath, -⟩ | ⟨hrefused, -⟩⟩ := (hfiles _ _ _ _).1 hone htakes
    · exact hsame
    · cases houtput
      exact absurd (by decide) hpath
    · cases houtput
      exact absurd rfl hrefused
  obtain ⟨hplain, -⟩ := execute_effects ofArguments_plainArguments (by decide)
  have hzero : (execute ⟨false, fun _ x => x⟩ plainArguments (⟨[]⟩ : FileStore ℝ) .complete
      readYaml).1.exitCode? = some 0 := by
    rw [execute_earth _ ofArguments_plainArguments rfl rfl rfl canWrite_standard]
    rfl
  obtain ⟨output, p, sizes, textures, houtput, hparameters, hsizes, harchive, hinit⟩ :=
    (hplain _ _ _ _).2 hzero
  obtain ⟨journal, hstart, htextures⟩ := hinit (.integer 1) rfl none nofun
  cases houtput
  cases hparameters
  cases hsizes
  exact ⟨hsame, hreport _ _ _ _ hone, textures, journal, harchive, hstart, htextures⟩

/-! ## Effects of commands that fail -/

/-- The arguments of a command that gives its output. -/
def outputArguments (output : Text) : List Text := ["precompute", "--output", output]

/-- A path with a zero character in a directory. -/
def zeroOutput : Text := "a/\x00b"

/-- A name that is a single byte, which is no character. -/
def byteOutput : Text := ⟨[.surrogate ⟨0x4ff, by decide⟩]⟩

theorem parameters_outputOptions (output : Text) :
    { Options.standard with output := .value output }.parameters (⟨[]⟩ : FileStore ℝ) readYaml =
      .ok .earth := rfl

theorem ofArguments_zeroOutput : Request.ofArguments (outputArguments zeroOutput) =
    .run { Options.standard with output := .value zeroOutput } := by
  decide

theorem ofArguments_byteOutput : Request.ofArguments (outputArguments byteOutput) =
    .run { Options.standard with output := .value byteOutput } := by
  decide

/-- A directory is left of a command whose output has a zero character. -/
theorem execute_zeroOutput (images : ImageSupport ℝ) :
    (execute images (outputArguments zeroOutput) ⟨[]⟩ .complete readYaml).1.exitCode? = some 1 ∧
      (execute images (outputArguments zeroOutput) ⟨[]⟩ .complete readYaml).2.state =
        ⟨[(["a"], .directory)]⟩ := by
  obtain ⟨m, textures, -, -, hfails⟩ :=
    exists_precompute images .complete (parameters_outputOptions zeroOutput) rfl
  have hmade : FileStore.makeDirectories zeroOutput (⟨[]⟩ : FileStore ℝ) =
      (.error .zeroCharacter, ⟨[(["a"], .directory)]⟩) := rfl
  exact execute_of_fails ofArguments_zeroOutput (hfails _ _ ((fails_attempt hmade).bind _)) rfl

theorem makeDirectories_byteOutput : FileStore.makeDirectories byteOutput (⟨[]⟩ : FileStore ℝ) =
    (.ok (), ⟨[([byteOutput], .directory)]⟩) := rfl

theorem canWrite_byteOutput : (⟨[([byteOutput], .directory)]⟩ : FileStore ℝ).CanWrite
    (Path.join byteOutput archiveName) :=
  ⟨rfl, [byteOutput, "skylight_luts.npz"], rfl, nofun⟩

/-- The archive is left of a command whose output cannot be shown. -/
theorem execute_byteOutput (images : ImageSupport ℝ) :
    (execute images (outputArguments byteOutput) ⟨[]⟩ .characters readYaml).1.exitCode? = some 1 ∧
      ∃ textures, loadArchive
        (execute images (outputArguments byteOutput) ⟨[]⟩ .characters readYaml).2.state
        (Path.join byteOutput archiveName) = .ok textures := by
  obtain ⟨m, textures, htextures, -, hfails⟩ :=
    exists_precompute images .characters (parameters_outputOptions byteOutput) rfl
  obtain ⟨files', hwritten, hread⟩ := exists_write canWrite_byteOutput textures
  obtain ⟨reason, hrefused⟩ : ∃ reason,
      Console.characters.refusal (archiveLine byteOutput) = some reason := ⟨_, rfl⟩
  have hrest : (writeBelow m byteOutput .characters).Fails ⟨[]⟩ (.encoding reason) files' :=
    (yields_attempt makeDirectories_byteOutput).bind_fails <|
      ((Run.yields_lift htextures _).bind_fails (fails_saveArchive hwritten hrefused)).bind _
  obtain ⟨hcode, hstate⟩ := execute_of_fails ofArguments_byteOutput (hfails _ _ hrest) rfl
  exact ⟨hcode, textures, hstate ▸ hread⟩

/-- The arguments of a command that names an empty path for its configuration. -/
def emptyConfigArguments : List Text := ["precompute", "--config", ""]

theorem ofArguments_emptyConfigArguments : Request.ofArguments emptyConfigArguments =
    .run { Options.standard with config := some (.value "") } := by
  decide

/-- Commands end with the code 1 and have made a directory or written an archive, although the
system refuses nothing. A command that names an empty path for its configuration is done, although
no configuration is loaded from there. -/
theorem failed_commands_change_files :
    let images : ImageSupport ℝ := ⟨false, fun _ x => x⟩
    let zero := execute images (outputArguments zeroOutput) ⟨[]⟩ .complete readYaml
    let byte := execute images (outputArguments byteOutput) ⟨[]⟩ .characters readYaml
    let empty := execute images emptyConfigArguments ⟨[]⟩ .complete readYaml
    (∀ output ∈ [zeroOutput, byteOutput], ∃ o,
      Request.ofArguments (outputArguments output) = .run o ∧ o.format = .value .archive ∧
        o.SystemTakes (⟨[]⟩ : FileStore ℝ)) ∧
    (zero.1.exitCode? = some 1 ∧ zero.2.state = ⟨[(["a"], .directory)]⟩) ∧
    (byte.1.exitCode? = some 1 ∧
      ∃ textures, loadArchive byte.2.state (Path.join byteOutput archiveName) = .ok textures) ∧
    empty.1.exitCode? = some 0 ∧
      loadParameters (⟨[]⟩ : FileStore ℝ) "" readYaml = .error (.missingConfig "") := by
  intro images zero byte empty
  have hzero : { Options.standard with output := .value zeroOutput }.SystemTakes
      (⟨[]⟩ : FileStore ℝ) := by
    intro output houtput _ hpath
    cases houtput
    exact absurd hpath (by decide)
  have hbyte : { Options.standard with output := .value byteOutput }.SystemTakes
      (⟨[]⟩ : FileStore ℝ) :=
    systemTakes_of_canWrite rfl makeDirectories_byteOutput canWrite_byteOutput
  have hempty : empty.1 = .done :=
    execute_earth _ ofArguments_emptyConfigArguments rfl rfl rfl canWrite_standard
  refine ⟨?_, execute_zeroOutput images, execute_byteOutput images, by rw [hempty]; rfl, rfl⟩
  simp only [List.forall_mem_cons, List.not_mem_nil, false_imp_iff, implies_true, and_true]
  exact ⟨⟨_, ofArguments_zeroOutput, rfl, hzero⟩, ⟨_, ofArguments_byteOutput, rfl, hbyte⟩⟩

end CommandLine

end Airlight
