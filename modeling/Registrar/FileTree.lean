import Registrar.Path
import Registrar.Text.Utf8
/-!
# File trees

Directories and files below a working directory, as one list of places in the order in which a walk
meets them: a directory before what it holds, and the entries of a directory by the bytes of their
names. A place that no file system has cannot be in a tree. Reading and writing fail as they do on a
file system.
-/
namespace Registrar

/-- What keeps an access from succeeding. -/
inductive SystemError where
  | notFound
  | notADirectory
  | isADirectory
  | notText
deriving DecidableEq, Repr

def SystemError.text : SystemError → String
  | notFound => "No such file or directory (os error 2)"
  | notADirectory => "Not a directory (os error 20)"
  | isADirectory => "Is a directory (os error 21)"
  | notText => "stream did not contain valid UTF-8"

/-- The names that lead from the working directory to an entry. The order of places is the order of
a walk: a directory before what it holds, and names by their bytes. -/
abbrev Place := List String

namespace Place

/-- Whether an entry of a directory can have the name. -/
def isName (e : String) : Bool := !(e == "" || e == "." || e == ".." || e.toList.contains '/')

/-- Whether an entry can be at the place. Only a place given from the root on starts with a slash. -/
def isProper : Place → Bool
  | [] => false
  | e :: rest => (e == "/" || isName e) && rest.all isName

/-- The place that two dots lead to. Nothing is above the root. -/
def parent (p : Place) : Place := if p = ["/"] then p else p.dropLast

end Place

inductive FileNode where
  | directory
  | file (content : List UInt8)
deriving DecidableEq, Repr

/-- Puts a node at its place among entries in the order of a walk. -/
def FileNode.insert (p : Place) (n : FileNode) : List (Place × FileNode) → List (Place × FileNode)
  | [] => [(p, n)]
  | e :: es =>
    if p = e.1 then (p, n) :: es
    else if p < e.1 then (p, n) :: e :: es
    else e :: FileNode.insert p n es

theorem FileNode.mem_insert {p : Place} {n : FileNode} {es : List (Place × FileNode)}
    {x : Place × FileNode} (h : x ∈ FileNode.insert p n es) : x = (p, n) ∨ x ∈ es := by
  induction es with
  | nil => exact .inl (by simpa [FileNode.insert] using h)
  | cons e es ih =>
    unfold FileNode.insert at h
    split at h
    · rcases List.mem_cons.1 h with h | h
      · exact .inl h
      · exact .inr (List.mem_cons_of_mem _ h)
    · split at h
      · rcases List.mem_cons.1 h with h | h
        · exact .inl h
        · exact .inr h
      · rcases List.mem_cons.1 h with h | h
        · exact .inr (h ▸ List.mem_cons_self)
        · exact (ih h).imp id (List.mem_cons_of_mem _)

/-- Entries in the order of a walk, each place once. -/
def FileNode.Ordered (es : List (Place × FileNode)) : Prop := es.Pairwise fun a b => a.1 < b.1

theorem FileNode.ordered_nil : Ordered [] := List.Pairwise.nil

theorem FileNode.proper_nil : ∀ e ∈ ([] : List (Place × FileNode)), Place.isProper e.1 :=
  fun _ h => nomatch h

theorem FileNode.Ordered.insert {es : List (Place × FileNode)} (h : Ordered es) (p : Place)
    (n : FileNode) : Ordered (FileNode.insert p n es) := by
  induction es with
  | nil => exact List.pairwise_singleton _ _
  | cons e es ih =>
    obtain ⟨before, rest⟩ := List.pairwise_cons.1 h
    unfold FileNode.insert
    split
    · rename_i hp
      exact List.pairwise_cons.2 ⟨fun x hx => hp ▸ before x hx, rest⟩
    · split
      · rename_i hp
        refine List.pairwise_cons.2 ⟨fun x hx => ?_, h⟩
        rcases List.mem_cons.1 hx with rfl | hx
        · exact hp
        · exact List.lt_trans hp (before x hx)
      · rename_i hne hlt
        have hp : e.1 < p :=
          Classical.byContradiction fun hgt => hne (Std.Trichotomous.trichotomous p e.1 hlt hgt)
        refine List.pairwise_cons.2 ⟨fun x hx => ?_, ih rest⟩
        rcases FileNode.mem_insert hx with rfl | hx
        · exact hp
        · exact before x hx

/-- The entries below the working directory and below the root, in the order of a walk. -/
structure FileTree where
  entries : List (Place × FileNode) := []
  ordered : FileNode.Ordered entries := by exact FileNode.ordered_nil
  proper : ∀ e ∈ entries, Place.isProper e.1 := by exact FileNode.proper_nil
deriving DecidableEq, Repr

namespace FileTree

/-! ## Entries by place -/

/-- The node at a place. The working directory itself is always there. -/
def get? (t : FileTree) (p : Place) : Option FileNode :=
  if p.isEmpty then some .directory else t.entries.lookup p

/-- Puts a node at a place over what is there. Nothing can be put where no entry can be. -/
def put (t : FileTree) (p : Place) (n : FileNode) : FileTree :=
  if h : Place.isProper p then
    { entries := FileNode.insert p n t.entries
      ordered := t.ordered.insert p n
      proper := fun e he => by
        rcases FileNode.mem_insert he with rfl | he
        · exact h
        · exact t.proper e he }
  else t

/-- The entries below a place, each with the names that lead to it from there. The root is not
below the working directory. -/
def below (t : FileTree) (p : Place) : List (Place × FileNode) :=
  t.entries.filterMap fun (q, n) =>
    let inner := q.drop p.length
    if p.isPrefixOf q && !inner.isEmpty && inner.head? != some "/" then some (inner, n) else none

/-- The tree without a place and what is below it. -/
def without (t : FileTree) (p : Place) : FileTree :=
  { entries := t.entries.filter fun e => !p.isPrefixOf e.1
    ordered := t.ordered.filter _
    proper := fun e he => t.proper e (List.mem_filter.1 he).1 }

/-! ## Access by path -/

/-- The place reached from a directory by the elements of a path. Each element is looked up in a
directory; the last one need not exist. -/
def walk (t : FileTree) (p : Place) : List String → Except SystemError Place
  | [] => .ok p
  | e :: rest =>
    match t.get? p with
    | none => .error .notFound
    | some (.file _) => .error .notADirectory
    | some .directory =>
      if e == "" || e == "." then walk t p rest
      else if e == ".." then walk t (Place.parent p) rest
      else walk t (p ++ [e]) rest

/-- The place that a path names. Absolute paths start at a place of their own. -/
def locate (t : FileTree) (path : String) : Except SystemError Place :=
  if path.isEmpty then .error .notFound
  else
    let start := if Path.isAbsolute path then ["/"] else []
    walk t start ((Text.split '/' path.toList).map String.ofList)

def isDirectory (t : FileTree) (path : String) : Bool :=
  match t.locate path with
  | .ok p => t.get? p == some .directory
  | .error _ => false

def read (t : FileTree) (path : String) : Except SystemError (List UInt8) :=
  match t.locate path with
  | .error e => .error e
  | .ok p =>
    match t.get? p with
    | none => .error .notFound
    | some .directory => .error .isADirectory
    | some (.file content) => .ok content

def readText (t : FileTree) (path : String) : Except SystemError String :=
  match t.read path with
  | .error e => .error e
  | .ok content =>
    match Text.Utf8.decode? content with
    | some text => .ok text
    | none => .error .notText

/-- Writes a file over the one at its place. The directory must be there. -/
def write (t : FileTree) (path : String) (content : List UInt8) : Except SystemError FileTree :=
  match t.locate path with
  | .error e => .error e
  | .ok p =>
    match t.get? p, t.get? p.dropLast with
    | some .directory, _ => .error .isADirectory
    | some (.file _), _ | none, some .directory => .ok (t.put p (.file content))
    | none, some (.file _) => .error .notADirectory
    | none, none => .error .notFound

/-- Makes the directories that a path names, one below the other. -/
def makeDirectories (t : FileTree) (p : Place) : List String → FileTree
  | [] => t
  | e :: rest =>
    if e == "" || e == "." then makeDirectories t p rest
    else if e == ".." then makeDirectories t (Place.parent p) rest
    else
      let q := p ++ [e]
      makeDirectories (if (t.get? q).isSome then t else t.put q .directory) q rest

def makeDirectory (t : FileTree) (path : String) : FileTree :=
  t.makeDirectories [] ((Text.split '/' path.toList).map String.ofList)

/-- Writes a file after making the directories above it. -/
def writeBelow (t : FileTree) (path : String) (content : List UInt8) :
    Except SystemError FileTree :=
  (t.makeDirectory (Path.directoryOf path)).write path content

/-- Removes what a path names; `none` when there is nothing. -/
def remove? (t : FileTree) (path : String) : Option FileTree :=
  match t.locate path with
  | .error _ => none
  | .ok p => if (t.get? p).isSome then some (t.without p) else none

/-- The text of a place; a directory ends in a slash. -/
def placeText : Place × FileNode → String
  | (p, .directory) => Text.joinWith "/" p ++ "/"
  | (p, .file _) => Text.joinWith "/" p

/-- All entries as text, by their bytes. -/
def listing (t : FileTree) : List String :=
  (t.entries.map placeText).mergeSort fun a b => !Text.bytesLt b a

end FileTree
end Registrar
