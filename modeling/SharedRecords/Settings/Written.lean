import SharedRecords.Settings.Basic
import SharedRecords.Settings.Tree

/-!
Settings as a tree, under the names that sources use.
-/

namespace SharedRecords

open Settings (Tree)

def Table.tree (table : Table) : Tree :=
  .table [("name", .text table.name), ("columns", .list (table.columns.map .text))]

def Schema.tree (schema : Schema) : Tree :=
  .table [("tables", .list (schema.tables.map Table.tree)), ("location", .text schema.location)]

namespace Settings

def Regions.tree (regions : Regions) : Tree :=
  .table [("capacity", .integer regions.capacity), ("backing", .text regions.backing.name),
    ("directory", .text regions.directory)]

def Sessions.tree (sessions : Sessions) : Tree :=
  .table [("wait", .text sessions.wait.name), ("sleep_micros", .integer sessions.sleepMicroseconds),
    ("spin_limit", .integer sessions.spinLimit),
    ("poll_timeout_ms", .integer sessions.pollTimeoutMilliseconds),
    ("thread_name_prefix", .text sessions.namePrefix)]

/-- Settings in full, the built-in values included. -/
def tree (settings : Settings) : Tree :=
  .table [("region", settings.region.tree), ("session", settings.session.tree),
    ("schema", settings.schema.schema.tree)]

end Settings

end SharedRecords
