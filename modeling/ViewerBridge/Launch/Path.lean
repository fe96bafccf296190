/-!
# Paths

The path of a file in a directory.
-/
namespace ViewerBridge.Path

/-- Puts a path behind a directory. An absolute path stands alone, and a separator goes between
unless the directory is empty or ends in one. -/
def join (directory path : String) : String :=
  if path.startsWith "/" then path
  else if directory.isEmpty ∨ directory.endsWith "/" then directory ++ path
  else directory ++ "/" ++ path

end ViewerBridge.Path
