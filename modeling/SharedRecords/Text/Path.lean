/-!
Paths as text. Joining puts one slash between the parts, and an absolute part replaces what
stands before it.
-/

namespace SharedRecords.Text.Path

def isAbsolute (path : String) : Bool := path.startsWith "/"

def join (base path : String) : String :=
  if isAbsolute path then path
  else if base.isEmpty || base.endsWith "/" then base ++ path
  else base ++ "/" ++ path

/-- The names between the slashes, the empty ones included. -/
def names (path : String) : List String := path.splitOn "/"

/-- Neither a repeated slash nor a dot leads anywhere. -/
def isStep (name : String) : Bool := name != "" && name != "."

def steps (path : String) : List String :=
  match names path with
  | "." :: rest => "." :: rest.filter isStep
  | all => all.filter isStep

/-- Whether two paths lead through the same names. -/
def agree (first second : String) : Bool :=
  isAbsolute first == isAbsolute second && steps first == steps second

end SharedRecords.Text.Path
