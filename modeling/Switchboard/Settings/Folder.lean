import Switchboard.Text.Split

/-!
# Folders

A folder in which a program runs, and the file system around it.  A path is followed name by name,
from the root if it starts with a slash and else from the folder: a single dot stays where it is, two
dots lead back, and only a folder has something below it.
-/

namespace Switchboard

/-- A folder, and the file system around it.  All names lead from the root. -/
structure Folder where
  /-- The names that lead to the folder. -/
  here : List String
  /-- The names that lead to each file, and its text. -/
  files : List (List String × String)
  /-- Further folders, such as those in which nothing stands. -/
  folders : List (List String) := []
  /-- The names of files that cannot be read, and what the system says of it. -/
  unreadable : List (List String × String) := []
  /-- The names that no file can be written to, and what the system says of it. -/
  unwritable : List (List String × String) := []
deriving DecidableEq, Repr

namespace Folder

/-- The parts of a path between its slashes. -/
def parts (path : String) : List String :=
  (Text.split (· == '/') path.toList).map String.ofList

/-- The names of a path without empty parts and single dots. -/
def names (path : String) : List String :=
  (parts path).filter fun part => part != "" && part != "."

/-- A path without empty parts and single dots. -/
def tidy (path : String) : String :=
  Text.listed "/" (names path)

/-- Whether a path starts at the root. -/
def isRooted (path : String) : Bool := path.front == '/'

/-- A folder with files that are given by their paths, and nothing beside it. -/
def ofFiles (here : List String) (files : List (String × String)) : Folder where
  here := here
  files := files.map fun (path, text) => (here ++ names path, text)

/-- The text of the file that names lead to. -/
def text? (folder : Folder) (names : List String) : Option String :=
  (folder.files.find? (·.1 == names)).map (·.2)

/-- Whether names lead to a folder. -/
def hasFolder (folder : Folder) (names : List String) : Bool :=
  names.isPrefixOf folder.here || folder.folders.any names.isPrefixOf ||
    folder.files.any fun file => names.isPrefixOf file.1 && names.length < file.1.length

/-- What a path leads to. -/
inductive Place where
  | file (names : List String) (text : String)
  | folder
  /-- Nothing yet, inside a folder. -/
  | free (names : List String)
  /-- Nothing, and no folder for it. -/
  | missing
  /-- Something below what is a file. -/
  | blocked
deriving DecidableEq, Repr

/-- What the parts of a path lead to from the names on, which lead to a folder; the last name first.
From the root two dots lead to the root. -/
def follow (folder : Folder) : List String → List String → Place
  | _, [] => .folder
  | back, part :: rest =>
    if part == "" || part == "." then follow folder back rest
    else if part == ".." then follow folder back.tail rest
    else
      let names := (part :: back).reverse
      if folder.hasFolder names then follow folder (part :: back) rest
      else
        match folder.text? names, rest with
        | some text, [] => .file names text
        | some _, _ => .blocked
        | none, [] => .free names
        | none, _ => .missing

/-- The names that parts of a path pass from the names on, the last one first. -/
def passed : List String → List String → List (List String)
  | _, [] => []
  | back, part :: rest =>
    if part == "" || part == "." then passed back rest
    else if part == ".." then passed back.tail rest
    else (part :: back).reverse :: passed (part :: back) rest

/-- The names from which a path is followed, the last name first. -/
def start (folder : Folder) (path : String) : List String :=
  if isRooted path then [] else folder.here.reverse

/-- What a path leads to. -/
def look (folder : Folder) (path : String) : Place :=
  if path.isEmpty then .missing else follow folder (folder.start path) (parts path)

/-! ### Reading -/

/-- What reading the file with some names and a text comes to: the text, or what the system says. -/
def read (folder : Folder) (names : List String) (text : String) : Except String String :=
  match folder.unreadable.lookup names with
  | some reason => .error reason
  | none => .ok text

/-- The file of a name that is nearest to the folder to which names lead, the last one first: there,
or in a folder above it. -/
def nearest? (folder : Folder) (name : String) : List String → Option (List String × String)
  | [] => file? [name]
  | last :: above => (file? (name :: last :: above).reverse).or (nearest? folder name above)
where
  /-- The file with some names. -/
  file? (names : List String) : Option (List String × String) :=
    if folder.hasFolder names then none else (folder.text? names).map (names, ·)

/-! ### Writing -/

/-- Why a text cannot be written. -/
inductive WriteFault where
  | missing
  | blocked
  | isFolder
  /-- A path with a null character, which no name has. -/
  | null
  /-- There is a place, but the system does not let anybody write there. -/
  | refused (reason : String)
deriving DecidableEq, Repr

def WriteFault.message : WriteFault → String
  | .missing => "No such file or directory (os error 2)"
  | .blocked => "Not a directory (os error 20)"
  | .isFolder => "Is a directory (os error 21)"
  | .null => "file name contained an unexpected NUL byte"
  | .refused reason => reason

/-- The names of the file that a text written to a path goes to. -/
def target (folder : Folder) (path : String) : Except WriteFault (List String) :=
  if path.toList.contains '\x00' then .error .null
  else
    match path.toList.reverse with
    | '/' :: rest =>
      -- A path with a slash at its end can only be a folder.
      match (rest.dropWhile (· == '/')).reverse with
      | [] => .error .isFolder
      | stem =>
        match folder.look (String.ofList stem) with
        | .missing => .error .missing
        | .blocked => .error .blocked
        | _ => .error .isFolder
    | _ =>
      match folder.look path with
      | .file names _ | .free names =>
        match folder.unwritable.lookup names with
        | some reason => .error (.refused reason)
        | none => .ok names
      | .folder => .error .isFolder
      | .missing => .error .missing
      | .blocked => .error .blocked

/-- The folder after a text is put at some names. -/
def put (folder : Folder) (names : List String) (text : String) : Folder :=
  { folder with files := folder.files.filter (·.1 != names) ++ [(names, text)] }

/-! ### Paths as texts -/

/-- The last name of a path without the slashes and single dots behind it, if it is a name, and the
path up to there. -/
def lastName? (path : String) : Option (String × String) :=
  let trailing := (parts path).reverse.takeWhile fun part => part == "" || part == "."
  let kept := (parts path).take ((parts path).length - trailing.length)
  match kept.getLast? with
  | none | some ".." => none
  | some name => some (Text.listed "/" kept, name)

/-- The extension of a name: what follows its last dot, unless that is its first character. -/
def extension? (name : String) : Option String :=
  match (name.toList.reverse.span (· != '.')) with
  | (_, []) | (_, [_]) => none
  | (extension, _) => some (String.ofList extension.reverse)

/-- The names that lead from one folder to what other names lead to from the root. -/
def way : List String → List String → List String
  | [], names => names
  | here, [] => here.map fun _ => ".."
  | step :: here, name :: names =>
    if step = name then way here names else ((step :: here).map fun _ => "..") ++ name :: names

/-- A path as it is told from the folder. -/
def told (folder : Folder) (path : String) : String :=
  if isRooted path then Text.listed "/" (way folder.here (names path)) else tidy path

/-- The path from the root that has some names. -/
def rooted (names : List String) : String :=
  "/" ++ Text.listed "/" names

/-- A path with a name: one without names leads to the folder and has the names of that. -/
def named (folder : Folder) (path : String) : String :=
  if isRooted path || !(names path).isEmpty then path else rooted folder.here

end Folder
end Switchboard
