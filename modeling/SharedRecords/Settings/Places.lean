import SharedRecords.Settings.Error
import SharedRecords.Text.Path

/-!
Where the files of settings are looked for.
-/

namespace SharedRecords.Settings.Places

open Text

def accountHome : String := "/root"

/-- The user's own folder: below the folder for settings if that is named by an absolute path, and
else below the hidden one of the home folder. An empty name is no home, so the account's own takes
its place. -/
def userFolder (settingsHome : Option String) (home : String) : String :=
  let home := if home.isEmpty then accountHome else home
  let base := (settingsHome.filter Path.isAbsolute).getD (Path.join home ".config")
  Path.join base "shmdb"

def userFile (settingsHome : Option String) (home : String) : String :=
  Path.join (userFolder settingsHome home) "config.toml"

def projectFile (directory : String) : String := Path.join directory "shmdb.toml"

def localFile (directory : String) : String := Path.join directory "shmdb.local.toml"

end SharedRecords.Settings.Places
