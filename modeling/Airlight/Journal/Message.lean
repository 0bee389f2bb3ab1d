import Airlight.Decimal.Notation
import Airlight.Journal.Console

/-!
# Texts of events

The line by which each event is shown. Radii have one decimal place and luminances six significant
digits; progress is shown in whole percents, rounded down.
-/

namespace Airlight

/-- The line of a notice. -/
def Notice.message (n : Notice Float) : Text :=
  let body : Text := match n with
  | precomputing bottom top unit grid =>
    "Precomputing LUTs: bottom=" ++ Decimal.withPlaces 1 bottom ++ ", top=" ++
      Decimal.withPlaces 1 top ++ " (unit=" ++ Decimal.withSignificant 6 unit ++ " m), grid=" ++
      showGrid (grid.map Quantity.toValue)
  | tableStarted width height count =>
    "Transmittance: " ++ width.display ++ "x" ++ height.display ++ ", " ++ count.display ++
      " samples"
  | tableDone largest smallest =>
    "Transmittance done, max: " ++ Decimal.withPlaces 4 largest ++ ", min: " ++
      Decimal.withPlaces 6 smallest
  | passStarted voxels blocks workers =>
    ↑("Single scattering: " ++ toString voxels ++ " voxels in " ++ toString blocks ++
      " blocks, n_jobs=") ++ workers.display
  | passDone largest =>
    "Single scattering done, max scattering: " ++ Decimal.withSignificant 6 largest
  | file notice => notice.body
  noticeMark ++ body

/-- The text of a stage. -/
def Stage.message : Stage → String
  | initializing => "Initializing atmosphere model..."
  | transmittance => "Computing transmittance LUT..."
  | block done total => "Single scattering block " ++ toString done ++ "/" ++ toString total
  | complete => "Precomputation complete"

/-- A number padded with spaces in front to three characters. -/
def padded (n : Nat) : String :=
  let digits := toString n
  "".pushn ' ' (3 - digits.length) ++ digits

/-- The line that shows progress. -/
def Progress.message (p : Progress Float) : String :=
  "  [" ++ padded (p.fraction * 100.0).toUInt64.toNat ++ "%] " ++ p.stage.message

/-- The line of an event. -/
def Event.message : Event Float → Text
  | .notice n => n.message
  | .progress p => p.message

end Airlight
