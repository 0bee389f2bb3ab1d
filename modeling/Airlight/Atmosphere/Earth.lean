import Airlight.Atmosphere.Layer
import Airlight.Spectrum

/-!
# The atmosphere of the Earth

Measured constants, in metres and per metre; wavelengths are in nanometres.
-/

namespace Airlight.Earth

open Scalar

variable {α : Type} [Scalar α]

def radius : α := 6360000.0

def topRadius : α := radius + 60000.0

/-- The angular radius of the sun. -/
def sunAngularRadius : α := 0.00935 / 2.0

/-- The largest angle between the sun and the zenith that the tables hold. -/
def maxSunZenithAngle : α := 102.0 / 180.0 * pi

def rayleighScaleHeight : α := 8000.0

/-- Molecular scattering at a wavelength of one micrometre. -/
def rayleighStrength : α := 1.24062e-6

def mieScaleHeight : α := 1200.0

/-- The exponent of the turbidity formula. -/
def angstromAlpha : α := 0.0

/-- The strength of the turbidity formula. -/
def angstromBeta : α := 5.328e-3

/-- The part of the aerosol extinction that is scattering. -/
def mieSingleScatteringAlbedo : α := 0.9

def miePhaseAsymmetry : α := 0.8

/-- The altitude at which ozone is densest. -/
def ozoneCenterAltitude : α := 25000.0

/-- The distance over which ozone thins out, on either side of its peak. -/
def ozoneWidth : α := 15000.0

def groundAlbedo : α := 0.1

def redWavelength : α := 680.0

def greenWavelength : α := 550.0

def blueWavelength : α := 440.0

def violetWavelength : α := 400.0

/-- The wavelengths of the channels. -/
def wavelengths : Spectrum α :=
  #v[redWavelength, greenWavelength, blueWavelength, violetWavelength]

/-- The shortest wavelength that contributes to luminance. -/
def shortestWavelength : α := 360.0

/-- The longest wavelength that contributes to luminance. -/
def longestWavelength : α := 720.0

/-- The bandwidth that a channel stands for. -/
def channelBandwidth : α := (longestWavelength - shortestWavelength) / ((4 : Nat) : α)

/-- Solar irradiance at the top of the atmosphere. -/
def solarIrradiance : Spectrum α := #v[1.474, 1.8504, 1.91198, 1.72765]

/-- Absorption by ozone where it is densest. -/
def ozoneAbsorption : Spectrum α := #v[0.650e-6, 1.881e-6, 0.085e-6, 0.0]

/-- Molecular scattering at sea level; it falls with the fourth power of the wavelength. -/
@[specialize] def rayleighScattering (wavelength : α) : α :=
  rayleighStrength * pow (wavelength * 1e-3) (-4.0)

/-- Aerosol scattering by the turbidity formula of strength `beta`. -/
@[specialize] def mieScattering (beta wavelength : α) : α :=
  beta / mieScaleHeight * pow (wavelength * 1e-3) (-angstromAlpha) * mieSingleScatteringAlbedo

/-- The tent-shaped ozone layer. -/
def ozoneProfile : Profile α :=
  [{ DensityLayer.empty with
      width := ozoneCenterAltitude
      linearTerm := 1.0 / ozoneWidth
      constantTerm := -2.0 / 3.0 },
    { DensityLayer.empty with
      linearTerm := -1.0 / ozoneWidth
      constantTerm := 8.0 / 3.0 }]

end Airlight.Earth
