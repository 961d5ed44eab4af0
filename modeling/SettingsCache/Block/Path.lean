import SettingsCache.Error

/-!
# Paths of block files

A path says where in a directory a file lies. Before the file's name a path may take any number of
steps that stay in the directory, each a full stop and at least one slash, so that several paths
lead to one file. A path that leads out of the directory, or through a file, leads nowhere.
-/

namespace SettingsCache

/-- The most bytes that a file's name can have. -/
def nameLimit : Nat := 255

/-- The most bytes that a path can have. -/
def pathLimit : Nat := 4095

/-- What is left of a path after the steps that stay in the directory; the flag tells whether such
a step precedes. -/
def afterStays (stayed : Bool) : List Char → List Char
  | '.' :: '/' :: rest => afterStays true rest
  | '/' :: rest => if stayed then afterStays true rest else '/' :: rest
  | name => name

/-- Whether a file can have a name. -/
def isFileName (name : String) : Bool :=
  !name.isEmpty && name != "." && name != ".." && name.utf8ByteSize ≤ nameLimit &&
    !name.toList.contains '/'

/-- The name of the file that a path leads to. -/
def fileName? (path : String) : Option String :=
  let name := String.ofList (afterStays false path.toList)
  if isFileName name && path.utf8ByteSize ≤ pathLimit then some name else none

/-- Refuse a path that holds a zero character, which no path can. -/
def checkPath (path : String) : Except ArrayError Unit :=
  if path.toList.contains '\x00' then
    .error (.io "file name contained an unexpected NUL byte")
  else .ok ()

end SettingsCache
