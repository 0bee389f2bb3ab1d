import Airlight.Tensor

/-!
# Sets of textures

A precomputation results in up to five textures: the transmittance table and four grids.
-/

namespace Airlight

/-- The textures of an atmosphere. -/
inductive TextureName where
  | transmittance
  | deltaRayleigh
  | deltaMie
  | scattering
  | singleMie
  deriving DecidableEq, Repr

namespace TextureName

/-- The name under which a texture is stored. -/
def text : TextureName → String
  | transmittance => "transmittance"
  | deltaRayleigh => "delta_rayleigh"
  | deltaMie => "delta_mie"
  | scattering => "scattering"
  | singleMie => "single_mie_scattering"

/-- The textures that every set contains. -/
def grids : List TextureName := [deltaRayleigh, deltaMie, scattering, singleMie]

/-- All textures, in the order in which they are stored. -/
def all : List TextureName := transmittance :: grids

end TextureName

/-- The result of a precomputation. The table is missing when the transmittance was not
tabulated. -/
structure TextureSet (α : Type) where
  transmittance : Option (Tensor α)
  deltaRayleigh : Tensor α
  deltaMie : Tensor α
  scattering : Tensor α
  singleMie : Tensor α

/-- Textures by name, as a file holds them. -/
abbrev NamedTextures (α : Type) := List (TextureName × Tensor α)

namespace TextureSet

variable {α : Type}

/-- The texture of a given name. -/
def get? (t : TextureSet α) : TextureName → Option (Tensor α)
  | .transmittance => t.transmittance
  | .deltaRayleigh => some t.deltaRayleigh
  | .deltaMie => some t.deltaMie
  | .scattering => some t.scattering
  | .singleMie => some t.singleMie

/-- The textures that are there, in the order in which they are stored. -/
def named (t : TextureSet α) : NamedTextures α :=
  TextureName.all.filterMap fun name => (t.get? name).map (name, ·)

/-- The set that consists of given textures; the names of the missing grids if it is not
complete. -/
def ofNamed (textures : NamedTextures α) : Except (List TextureName) (TextureSet α) :=
  match textures.lookup .deltaRayleigh, textures.lookup .deltaMie,
      textures.lookup .scattering, textures.lookup .singleMie with
  | some deltaRayleigh, some deltaMie, some scattering, some singleMie =>
    .ok { transmittance := textures.lookup .transmittance
          deltaRayleigh, deltaMie, scattering, singleMie }
  | _, _, _, _ => .error (TextureName.grids.filter fun name => (textures.lookup name).isNone)

end TextureSet

end Airlight
