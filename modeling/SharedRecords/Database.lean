import SharedRecords.Manager.Exchange
import SharedRecords.Settings.Basic

/-!
A database: one manager, set up from settings, and the way its clients wait.
-/

namespace SharedRecords

structure Database where
  manager : Manager
  clientOptions : Client.Options

namespace Database

/-- Errors of the layers, each with its own message. -/
inductive Error where
  | session (error : Session.Error)
  | client (error : Client.Error)
  | settings (error : Settings.Error)
  | region (error : Region.Error)
  deriving DecidableEq, Repr, Inhabited

def Error.layer : Error → String
  | .session _ => "Server"
  | .client _ => "Client"
  | .settings _ => "Config"
  | .region _ => "Region"

def Error.message : Error → String
  | .session error => error.message
  | .client error => error.message
  | .settings error => error.message
  | .region error => error.message

def pool (settings : Settings) (volume : Region.Volume) : Except Region.Error Region.Pool :=
  match settings.region.backing with
  | .anonymous => .ok (Region.Pool.anonymous volume none)
  | .file => Region.Pool.inFolder volume settings.region.directory

/-- Sets up a database; a schema without tables is left to be installed later. -/
def ofSettings (backend : Store.Backend) (volume : Region.Volume) (settings : Settings) :
    Except Error Database :=
  match settings.validate with
  | .error error => .error (.settings error)
  | .ok () =>
    match pool settings volume with
    | .error error => .error (.region error)
    | .ok pool =>
      let manager := Manager.new backend pool settings.sessionOptions
      if settings.schema.tables.isEmpty then .ok ⟨manager, settings.clientOptions⟩
      else
        match manager.installSchema settings.schema.schema with
        | (.error error, _) => .error (.session error)
        | (.ok (), installed) => .ok ⟨installed, settings.clientOptions⟩

def inProcess (schema : Schema) : Except Error Database :=
  ofSettings ⟨.empty, fun _ => none⟩ .empty { schema := ⟨schema.location, schema.tables⟩ }

def installSchema (database : Database) (schema : Schema) : Except Error Unit × Database :=
  let (result, manager) := database.manager.installSchema schema
  (result.mapError .session, { database with manager })

def connect (database : Database) : Except Error Client × Database :=
  match database.manager.spawn with
  | (.error error, manager) => (.error (.session error), { database with manager })
  | (.ok address, spawned) =>
    let (result, manager) := spawned.connect address database.clientOptions
    (result.mapError .client, { database with manager })

def description (database : Database) : String :=
  "Shmdb \x7b manager: " ++ database.manager.description ++ ", client_config: " ++
    database.clientOptions.description ++ " \x7d"

end Database

end SharedRecords
