import Admission.Profile
import Admission.Role
import Admission.Text.Quoted
import Admission.Token.Claims

/-!
# Identities of users
-/

namespace Admission

/-- How an identity loads its profile. -/
structure Identity.Loader where
  directory : Directory
  timeout : Duration
  /-- The cell that keeps the first answer. -/
  cell : Nat

/-- An admitted user. -/
structure Identity where
  uid : String
  email : Option String
  /-- Normalised roles, sorted. -/
  roles : List String
  locale : Option String
  claims : Token.Claims
  token : String
  loader : Option Identity.Loader

namespace Identity

/-- Whether the user has a role. -/
def hasRole (identity : Identity) (role : String) : Bool :=
  (Role.normalize? role).any identity.roles.contains

/-- Whether the user has at least one of some roles. -/
def hasAnyRole (identity : Identity) (roles : List String) : Bool :=
  roles.any identity.hasRole

/-- How an identity appears in messages: without claims and token. -/
def shown (identity : Identity) : String :=
  "Identity \x7b uid: " ++ Text.quoted identity.uid ++
    ", email: " ++ Text.quotedOption identity.email ++
    ", roles: " ++ Text.quotedSet identity.roles ++
    ", locale: " ++ Text.quotedOption identity.locale ++ ", .. \x7d"

/-- Bind an identity to a directory, with a cell of its own. -/
def bindDirectory (identity : Identity) (cells : ProfileCells) (directory : Option Directory)
    (timeout : Duration) : Identity × ProfileCells :=
  match directory with
  | none => (identity, cells)
  | some directory =>
      let (cell, cells) := cells.allocate
      ({ identity with loader := some ⟨directory, timeout, cell⟩ }, cells)

/-- Load the profile of an identity when the directory gives an answer. -/
def loadWith (identity : Identity) (cells : ProfileCells) (answer : ProfileAnswer) :
    ProfileCells.Load :=
  match identity.loader with
  | none => ⟨.error .notConfigured, cells, false⟩
  | some loader => cells.load loader.cell identity.uid loader.timeout answer

/-- The profile of an identity. -/
def user (identity : Identity) (cells : ProfileCells) : ProfileCells.Load :=
  match identity.loader with
  | none => ⟨.error .notConfigured, cells, false⟩
  | some loader => identity.loadWith cells (loader.directory.answer identity.uid)

/-- The profile of an identity, asked for several times. -/
def userRepeatedly (identity : Identity) (cells : ProfileCells) :
    Nat → List ProfileCells.Load
  | 0 => []
  | count + 1 =>
      let load := identity.user cells
      load :: identity.userRepeatedly load.cells count

end Identity
end Admission
