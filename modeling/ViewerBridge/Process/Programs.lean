import ViewerBridge.Process.Basic
/-!
# Programs

The viewer programs that a system has, and what comes of starting one of them by its name or path.
-/
namespace ViewerBridge

inductive Program where
  | connects
  | mute
  | exits
  deriving DecidableEq, Repr

/-- The programs of a system, by the executable that finds each. -/
abbrev Programs := String → Option Program

namespace Programs

def standardDirectories : List (List String) :=
  [[], ["bin"], ["boot"], ["dev"], ["etc"], ["home"], ["lib"], ["media"], ["mnt"], ["opt"],
    ["proc"], ["root"], ["run"], ["sbin"], ["srv"], ["sys"], ["tmp"], ["usr"], ["usr", "bin"],
    ["usr", "lib"], ["usr", "local"], ["usr", "local", "bin"], ["usr", "sbin"], ["usr", "share"],
    ["var"], ["var", "lib"], ["var", "log"], ["var", "tmp"]]

def standardFiles : List (List String) :=
  [["dev", "null"], ["dev", "zero"], ["etc", "group"], ["etc", "hostname"], ["etc", "hosts"],
    ["etc", "passwd"]]

inductive Destination where
  | directory
  | file
  | nowhere
  /-- A part of the path stands below a file. -/
  | belowFile
  /-- The path cannot be followed, because it or one of its parts is too long. -/
  | tooLong
  deriving DecidableEq, Repr

def maxPath : Nat := 4095

def maxPart : Nat := 255

def maxArgument : Nat := 131071

/-- The directory in which the system looks for what is called by a name alone. -/
def searched : List String := ["usr", "bin"]

/-- The current directory. It lies somewhere below the root, and the names on the way there are not
known; an empty one is no part of any path. -/
def current : List String := List.replicate 8 ""

/-- Follows a path from a directory, part by part, as far as directories are known. -/
def follow (place : List String) : List String → Destination
  | [] => .directory
  | "" :: parts | "." :: parts => follow place parts
  | ".." :: parts => follow place.dropLast parts
  | part :: parts =>
    if maxPart < part.utf8ByteSize then .tooLong
    else if (place ++ [part]) ∈ standardDirectories then follow (place ++ [part]) parts
    else if (place ++ [part]) ∈ standardFiles then if parts.isEmpty then .file else .belowFile
    else .nowhere

def destination (path : String) : Destination :=
  if maxPath < path.utf8ByteSize then .tooLong
  else
    match path.splitOn "/" with
    | [""] => .nowhere
    | [name] => follow searched [name]
    | "" :: parts => follow [] parts
    | parts => follow current parts

/-- Why the system does not start a program, if it does not. The command line is looked at first,
for a zero would end one of its texts early. -/
def refusal? (programs : Programs) (launch : Launch) : Option String :=
  if launch.executable.toList.contains '\x00' ∨ launch.style.toList.contains '\x00' then
    some "nul byte found in provided data"
  else if (programs launch.executable).isSome then
    if maxArgument < launch.style.utf8ByteSize then some "Argument list too long (os error 7)"
    else none
  else
    match destination launch.executable with
    | .directory | .file => some "Permission denied (os error 13)"
    | .nowhere => some "No such file or directory (os error 2)"
    | .belowFile => some "Not a directory (os error 20)"
    | .tooLong => some "File name too long (os error 36)"

def spawner (programs : Programs) : Spawner := fun launch =>
  match programs.refusal? launch with
  | some text => .error (.failed launch.executable ⟨.other, text⟩)
  | none => .ok ()

end Programs

def Spawner.refusing (reason : String) : Spawner := fun _ => .error (.refused reason)

end ViewerBridge
