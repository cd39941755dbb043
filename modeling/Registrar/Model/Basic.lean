import Registrar.Model.Declaration
/-!
# The model

The declarations of all files of a source tree. Files are added one at a time; each list of
entities is the concatenation of the files' lists, and a package is identified by its name and its
directory.
-/
namespace Registrar

/-- A package: the files of one directory that share a package name. -/
structure PackageInfo where
  name : String
  directory : String
  files : List String
deriving DecidableEq, Repr

structure Model where
  root : String
  packages : List PackageInfo := []
  structs : List Struct := []
  operations : List Operation := []
  interfaces : List Interface := []
  typedefs : List Typedef := []
  enums : List Enum := []
deriving DecidableEq, Repr

namespace Model

/-- Adds a file to the package it belongs to, or opens that package. -/
def addToPackage (name directory file : String) : List PackageInfo → List PackageInfo
  | [] => [{ name, directory, files := [file] }]
  | p :: ps =>
    if p.name = name ∧ p.directory = directory then { p with files := p.files ++ [file] } :: ps
    else p :: addToPackage name directory file ps

def addFile (m : Model) (f : Declarations) : Model :=
  { m with
    packages := addToPackage f.packageName (Path.directoryOf f.filename) f.filename m.packages
    structs := m.structs ++ f.structs
    operations := m.operations ++ f.operations
    interfaces := m.interfaces ++ f.interfaces
    typedefs := m.typedefs ++ f.typedefs
    enums := m.enums ++ f.enums }

def findPackage? (m : Model) (name directory : String) : Option PackageInfo :=
  m.packages.find? fun p => p.name == name && p.directory == directory

/-- Where the files of a package are. -/
def packagePath (m : Model) (p : PackageInfo) : String :=
  if p.directory.isEmpty then m.root else Path.join m.root p.directory

/-- The operations linked to a struct; positions outside the model are skipped. -/
def structOperations (m : Model) (s : Struct) : List Operation :=
  s.operations.filterMap fun i => m.operations[i]?

/-- The number of files that belong to some package. -/
def fileCount (m : Model) : Nat := (m.packages.flatMap (·.files)).length

end Model
end Registrar
