import LineMachine.Text.Basic

/-!
Directories of input files, and how a path is followed in one.  A path is a row of
names between slashes; it is followed name by name, and a name can only be followed
from a directory.
-/

namespace LineMachine

/-- Why the file at a path cannot be read as a text. -/
inductive ReadFault where
  | notFound
  | isDirectory
  /-- A file stands where the path needs a directory. -/
  | notDirectory
  /-- The bytes of the file are no text. -/
  | invalidText
  /-- Any other reason, in the words of the system. -/
  | other (reason : String)
deriving DecidableEq, Repr

def ReadFault.message : ReadFault → String
  | .notFound => "No such file or directory (os error 2)"
  | .isDirectory => "Is a directory (os error 21)"
  | .notDirectory => "Not a directory (os error 20)"
  | .invalidText => "stream did not contain valid UTF-8"
  | .other reason => reason

/-- What a path leads to. -/
inductive Entry where
  | file (content : ByteArray)
  | directory

/-- A directory as the entries in it and below it, each under the path that leads to
it. -/
structure Directory where
  entries : List (String × Entry)

namespace Directory

/-- The names along a path. -/
def names (path : String) : List String :=
  (Text.splitOn '/' path.toList).map String.ofList

/-- What the given names lead to from the top.  A directory is there as soon as
something below it is. -/
def entry? (directory : Directory) (place : List String) : Option Entry :=
  if place = [] then some .directory
  else
    match directory.entries.find? fun entry => names entry.1 = place with
    | some entry => some entry.2
    | none =>
        if directory.entries.any fun entry => place.isPrefixOf (names entry.1) then
          some .directory
        else none

/-- Where a path has led to: a place below the top, or somewhere above it. -/
inductive Place where
  | below (names : List String)
  | above
deriving DecidableEq, Repr

/-- Follows one name from a place. -/
def follow (directory : Directory) (place : Place) (name : String) : Except ReadFault Place :=
  match place with
  | .above =>
      if name = "" ∨ name = "." ∨ name = ".." then .ok .above else .error .notFound
  | .below names =>
      match directory.entry? names with
      | none => .error .notFound
      | some (.file _) => .error .notDirectory
      | some .directory =>
          if name = "" ∨ name = "." then .ok place
          else if name = ".." then
            .ok (if names = [] then .above else .below names.dropLast)
          else if (directory.entry? (names ++ [name])).isSome then
            .ok (.below (names ++ [name]))
          else .error .notFound

/-- Where a path begins: a slash at its front leads out of the directory. -/
def origin (path : String) : Place :=
  if path.startsWith "/" then .above else .below []

/-- The text of the file at a path. -/
def read (directory : Directory) (path : String) : Except ReadFault String := do
  if path = "" then throw .notFound
  let place ← (names path).foldlM directory.follow (origin path)
  match place with
  | .above => throw .isDirectory
  | .below names =>
      match directory.entry? names with
      | none => throw .notFound
      | some .directory => throw .isDirectory
      | some (.file content) =>
          match String.fromUTF8? content with
          | some text => pure text
          | none => throw .invalidText

example : follow ⟨[("d/a", .file .empty)]⟩ (.below ["d"]) "a" = .ok (.below ["d", "a"]) := by rfl

example : follow ⟨[("a", .file .empty)]⟩ (.below ["a"]) ".." = .error .notDirectory := by rfl

end Directory

end LineMachine
