import Airlight.Document.Json
import Airlight.Document.Nested
import Airlight.Grid.RayArrays
import Airlight.Journal.Message
import Airlight.Main
import Airlight.Proofs.ArchiveRoundTrip
import Airlight.Proofs.CentreCoordinates
import Airlight.Proofs.ChannelIndependence
import Airlight.Proofs.ConfigurationFaults
import Airlight.Proofs.DefinedLight
import Airlight.Proofs.DefinedRays
import Airlight.Proofs.DepthSlices
import Airlight.Proofs.FailedPass
import Airlight.Proofs.FloatDivision
import Airlight.Proofs.ImageRoundTrip
import Airlight.Proofs.LayerSelection
import Airlight.Proofs.Lockstep
import Airlight.Proofs.LowerRays
import Airlight.Proofs.PartialReals
import Airlight.Proofs.PassSequences
import Airlight.Proofs.ProgramEffects
import Airlight.Proofs.RayIntegrals
import Airlight.Proofs.RayLimits
import Airlight.Proofs.RayOrder
import Airlight.Proofs.ReadingFailures
import Airlight.Proofs.ScatteringBounds
import Airlight.Proofs.SpectralIntegral
import Airlight.Proofs.SunDisc
import Airlight.Proofs.TableLookup
import Airlight.Proofs.TextureSizes
import Airlight.Proofs.TransmittanceBounds
import Airlight.Proofs.TrapezoidalRule
import Airlight.Proofs.UnitChanges
import Airlight.Proofs.UnitConfiguration
import Airlight.Proofs.UnitIndependence
import Airlight.Proofs.WellFormed
import Airlight.Proofs.WorkerPool
import Airlight.Proofs.WriteOnce
import Airlight.Scattering.Batch
import Airlight.Version
