import Harvest.Settings.Basic
import Harvest.Translation.Request

/-!
What follows from settings: the path of the database file, the options of the database server, the way in
which records are translated.
-/

namespace Harvest.Settings

/-- A path below a directory, unless the path is absolute. -/
def joinPath (dir path : String) : String :=
  if path.startsWith "/" then path
  else if dir.isEmpty ∨ dir.endsWith "/" then dir ++ path
  else dir ++ "/" ++ path

/-- The directory below the user's data directory that is used where none is set. -/
def dataDirName : String := "config-spider"

/-- The name under which the database server knows this program. -/
def appName : String := "config-spider"

def Store.databasePath (s : Store) (userData : String) : String :=
  joinPath (s.dataDir.getD (joinPath userData dataDirName)) (s.database ++ ".db")

structure Credential where
  username : String
  password : String
  source : String
deriving DecidableEq, Repr

structure ServerOptions where
  host : String
  port : UInt16
  appName : String
  credential : Option Credential
deriving DecidableEq, Repr

/-- Credentials are sent only where a user name is set. -/
def Store.serverOptions (s : Store) : ServerOptions :=
  ⟨s.host, s.port, appName,
    if s.username.isEmpty then none else some ⟨s.username, s.password, s.authSource⟩⟩

def ServerOptions.address (o : ServerOptions) : String := s!"{o.host}:{o.port.toNat}"

def Translating.credentials (t : Translating) : Translation.Credentials := ⟨t.appId, t.secret⟩

def Translating.effectiveEndpoint (t : Translating) : String :=
  if t.endpoint.isEmpty then defaultEndpoint else t.endpoint

end Harvest.Settings
