import Yql.Config.Basic
import Yql.Text.Joined

/-!
# Finding the configuration

The configuration is taken from the file that is asked for; or else from the
one that the environment names; or else from the nearest directory, the
working directory first and then those around it, that holds a file of the
configuration's name. Once one of these applies, what goes wrong with the file
is an error and nothing further is tried. Without any of them the built-in
defaults hold.

What an error is caused by is known outside only: the file system says why a
text cannot be read, and the reader of TOML what is wrong with a document. Both
are told as they come.
-/

namespace Yql

/-- The files as the program finds them. -/
structure Files where
  /-- Whether a file stands at the path, readable or not. -/
  isFile : String → Bool
  /-- The text at the path, or why it cannot be read. -/
  read : String → Except String String
  /-- What is wrong with a text that gives no configuration. -/
  complaint : String → String

inductive Directory where
  | root
  | sub (outer : Directory) (name : String)

namespace Directory

/-- The path of a directory. That of the root is empty, since a slash comes
before every name. -/
def path : Directory → String
  | root => ""
  | sub outer name => outer.path ++ "/" ++ name

def ofNames (names : List String) : Directory :=
  names.foldl sub root

end Directory

namespace Config

inductive LoadError where
  | noDirectory (cause : String)
  | unreadable (path cause : String)
  | unparsable (path cause : String)
  deriving DecidableEq

def LoadError.message : LoadError → String
  | noDirectory cause => "Failed to get current directory: " ++ cause
  | unreadable path cause => "Failed to read config file " ++ path ++ ": " ++ cause
  | unparsable path cause => "Failed to parse config file " ++ path ++ ": " ++ cause

/-- The defaults that hold, and the file they were read from. -/
structure Loaded where
  path : Option String := none
  defaults : Defaults := {}

def ofFile (files : Files) (path : String) : Except LoadError Loaded :=
  match files.read path with
  | .error cause => .error (.unreadable path cause)
  | .ok content =>
      match read? content with
      | some defaults => .ok ⟨some path, defaults⟩
      | none => .error (.unparsable path (files.complaint content))

/-- Where the configuration file of a directory would be. -/
def candidate (directory : Directory) : String :=
  directory.path ++ "/" ++ fileName

/-- The configuration file of the nearest directory that has one. -/
def find? (files : Files) (directory : Directory) : Option String :=
  if files.isFile (candidate directory) then some (candidate directory)
  else
    match directory with
    | .root => none
    | .sub outer _ => find? files outer

/-- The configuration that holds: of the file asked for, of the file that the
environment names, of the nearest directory, or none. Only the search needs the
working directory. -/
def resolve (files : Files) (place : Except String Directory) (asked named : Option String) :
    Except LoadError Loaded :=
  match asked with
  | some path => ofFile files path
  | none =>
      match named.filter (· ≠ "") with
      | some path => ofFile files path
      | none =>
          match place with
          | .error cause => .error (.noDirectory cause)
          | .ok directory =>
              match find? files directory with
              | some path => ofFile files path
              | none => .ok {}

/-- The configuration files of a directory and of those around it, there or
not. -/
def candidatesFrom : Directory → List String
  | .root => [candidate .root]
  | .sub outer name => candidate (.sub outer name) :: candidatesFrom outer

/-- The paths that may be looked at on the way to the configuration. -/
def candidates (place : Except String Directory) (asked named : Option String) : List String :=
  asked.toList ++ named.toList
    ++ match place with
      | .error _ => []
      | .ok directory => candidatesFrom directory

end Config

end Yql
