import Registrar.Channel
/-!
# Registrations

What has been collected for the generated files: for each package and channel the imports, in byte
order and without repetition, and the records, one per handler key in the order in which the keys
first appeared. A record maps field names to text.
-/
namespace Registrar

/-! ## Records -/

/-- The fields of one registration, in the order of their names. -/
structure Record where
  fields : List (String × String) := []
deriving DecidableEq, Repr

namespace Record

def get? (r : Record) (field : String) : Option String := r.fields.lookup field

/-- Writes a value over the one a field has, or adds the field in the order of names. -/
def putField (field value : String) : List (String × String) → List (String × String)
  | [] => [(field, value)]
  | (f, v) :: rest =>
    if field = f then (field, value) :: rest
    else if field < f then (field, value) :: (f, v) :: rest
    else (f, v) :: putField field value rest

def put (r : Record) (field value : String) : Record := ⟨putField field value r.fields⟩

def putIfAbsent (r : Record) (field value : String) : Record :=
  if (r.get? field).isSome then r else r.put field value

def size (r : Record) : Nat := r.fields.length

end Record

/-! ## One channel of a package -/

/-- Inserts into a strictly ascending list, which stays strictly ascending. -/
def insertSorted (s : String) : List String → List String
  | [] => [s]
  | t :: ts => if s < t then s :: t :: ts else if s = t then t :: ts else t :: insertSorted s ts

structure ChannelEntries where
  imports : List String := []
  records : List (String × Record) := []
deriving DecidableEq, Repr

namespace ChannelEntries

/-- The path inside blanks and quotes. -/
def importPath (path : String) : String :=
  Text.onChars (fun s => Text.dropQuotes (Text.trim s)) path

/-- Keeps an import in double quotes; an empty path is no import. -/
def addImport (c : ChannelEntries) (path : String) : ChannelEntries :=
  let path := importPath path
  if path.isEmpty then c
  else { c with imports := insertSorted ("\"" ++ path ++ "\"") c.imports }

def record? (c : ChannelEntries) (key : String) : Option Record := c.records.lookup key

def keys (c : ChannelEntries) : List String := c.records.map (·.1)

def isEmpty (c : ChannelEntries) : Bool := c.records.isEmpty

/-- Changes the record of a key, starting it empty at the end when there is none. -/
def updateRecords (key : String) (f : Record → Record) :
    List (String × Record) → List (String × Record)
  | [] => [(key, f {})]
  | (k, r) :: rest =>
    if k = key then (k, f r) :: rest else (k, r) :: updateRecords key f rest

def update (c : ChannelEntries) (key : String) (f : Record → Record) : ChannelEntries :=
  { c with records := updateRecords key f c.records }

/-- Makes sure that the key has a record. -/
def ensure (c : ChannelEntries) (key : String) : ChannelEntries := c.update key id

end ChannelEntries

/-! ## Packages -/

/-- The collected registrations of one package in one directory. -/
structure PackageEntries where
  name : String
  directory : String
  http : ChannelEntries
  tcp : ChannelEntries
  udp : ChannelEntries
deriving DecidableEq, Repr

namespace PackageEntries

/-- A package without registrations: each channel imports the framework. -/
def empty (name directory framework : String) : PackageEntries :=
  let start := ({} : ChannelEntries).addImport framework
  { name, directory, http := start, tcp := start, udp := start }

def channel (p : PackageEntries) : Channel → ChannelEntries
  | .http => p.http
  | .tcp => p.tcp
  | .udp => p.udp

def updateChannel (p : PackageEntries) (c : Channel) (f : ChannelEntries → ChannelEntries) :
    PackageEntries :=
  match c with
  | .http => { p with http := f p.http }
  | .tcp => { p with tcp := f p.tcp }
  | .udp => { p with udp := f p.udp }

/-- The channels with at least one record. -/
def active (p : PackageEntries) : List Channel :=
  Channel.all.filter fun c => !(p.channel c).isEmpty

def isEmpty (p : PackageEntries) : Bool :=
  Channel.all.all fun c => (p.channel c).isEmpty

def isAt (p : PackageEntries) (name directory : String) : Bool :=
  p.name == name && p.directory == directory

end PackageEntries

/-- The packages in the order in which they first appeared, each name and directory once. -/
structure Registry where
  packages : List PackageEntries := []
deriving DecidableEq, Repr

namespace Registry

def get? (r : Registry) (name directory : String) : Option PackageEntries :=
  r.packages.find? fun p => p.isAt name directory

/-- Changes a package, starting it at the end when there is none. -/
def updatePackages (name directory framework : String) (f : PackageEntries → PackageEntries) :
    List PackageEntries → List PackageEntries
  | [] => [f (PackageEntries.empty name directory framework)]
  | p :: ps =>
    if p.isAt name directory then f p :: ps
    else p :: updatePackages name directory framework f ps

def update (r : Registry) (name directory framework : String)
    (f : PackageEntries → PackageEntries) : Registry :=
  ⟨updatePackages name directory framework f r.packages⟩

/-- Makes sure that the package is there. -/
def ensure (r : Registry) (name directory framework : String) : Registry :=
  r.update name directory framework id

def size (r : Registry) : Nat := r.packages.length

def isEmpty (r : Registry) : Bool := r.packages.isEmpty

end Registry
end Registrar
