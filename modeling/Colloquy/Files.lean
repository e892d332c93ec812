import Colloquy.Text.Basic

/-!
# Files — the files of a system as a value

A `FileTree` has the files of a whole system by the names that lead to them from the root, and the
working directory of a program. A folder is there because something lies in it, because it is listed
as one, or because it is the working directory. A path is walked name by name, from the root if it is
absolute and else from the working directory, and every place on the way has to be a folder. Every
file can be read, and every place in a folder that is not a folder itself can be written to, wherever
it lies: links and permissions are left out.
-/

namespace Colloquy

/-- Why a file cannot be read. -/
inductive ReadFault where
  /-- There is no such file. -/
  | missing
  /-- A part of the path is a file and not a folder. -/
  | notFolder
  /-- The path is that of a folder. -/
  | isFolder
  /-- A name in the path, or the path, is longer than the system allows. -/
  | tooLong
  /-- The file is not text. -/
  | notText
  /-- The system gives another reason. -/
  | refused (reason : String)
  deriving DecidableEq, Repr

/-- A fault as the system words it. -/
def ReadFault.message : ReadFault → String
  | .missing => "No such file or directory (os error 2)"
  | .notFolder => "Not a directory (os error 20)"
  | .isFolder => "Is a directory (os error 21)"
  | .tooLong => "File name too long (os error 36)"
  | .notText => "stream did not contain valid UTF-8"
  | .refused reason => reason

/-- The names that lead to a file or folder from the root. -/
abbrev Place := List String

/-- The files of a system, seen from a working directory. -/
structure FileTree where
  /-- The bytes of the files by place. -/
  files : List (Place × ByteArray) := []
  /-- Folders that are there even if nothing lies in them. -/
  folders : List Place := []
  /-- The working directory, where relative paths start. -/
  home : Place := []

namespace FileTree

/-- The null device: it reads as an empty file, and nothing of what is written to it is kept. -/
def nullDevice : Place := ["dev", "null"]

/-- The files, the null device among them. -/
def entries (t : FileTree) : List (Place × ByteArray) := (nullDevice, .empty) :: t.files

/-- The bytes of the file at a place. -/
def contents? (t : FileTree) (place : Place) : Option ByteArray := t.entries.lookup place

/-- Whether there is a folder at a place. -/
def isFolder (t : FileTree) (place : Place) : Bool :=
  (t.home :: t.folders).any place.isPrefixOf ||
    t.entries.any fun file => place.isPrefixOf file.1 && file.1 ≠ place

/-- The tree with a file put at a place. -/
def put (t : FileTree) (place : Place) (bytes : ByteArray) : FileTree :=
  if place = nullDevice then t
  else { t with files := (place, bytes) :: t.files.filter fun file => file.1 ≠ place }

/-! ## Paths -/

/-- The names in a path. -/
def names (path : String) : List String := (Text.pieces '/' path.toList).map String.ofList

/-- Whether a path starts at the root. -/
def isAbsolute (path : String) : Bool := path.toList.head? = some '/'

/-- Where names lead from a place. The root is the folder above itself, and a name may have 255
bytes. -/
def walk (t : FileTree) : Place → List String → Except ReadFault Place
  | here, [] => .ok here
  | here, name :: rest =>
    if !t.isFolder here then .error (if (t.contents? here).isSome then .notFolder else .missing)
    else if name = "" ∨ name = "." then t.walk here rest
    else if name = ".." then t.walk here.dropLast rest
    else if 255 < name.utf8ByteSize then .error .tooLong
    else t.walk (here ++ [name]) rest

/-- Where a path leads. A path may have 4095 bytes. -/
def locate (t : FileTree) (path : String) : Except ReadFault Place :=
  if '\x00' ∈ path.toList then .error (.refused "file name contained an unexpected NUL byte")
  else if path = "" then .error .missing
  else if 4095 < path.utf8ByteSize then .error .tooLong
  else t.walk (if isAbsolute path then [] else t.home) (names path)

/-- What reading a path gives. -/
def read (t : FileTree) (path : String) : Except ReadFault String :=
  match t.locate path with
  | .error fault => .error fault
  | .ok place =>
    if t.isFolder place then .error .isFolder
    else match t.contents? place with
      | none => .error .missing
      | some bytes =>
        match String.fromUTF8? bytes with
        | some text => .ok text
        | none => .error .notText

/-- The tree after a text is written to a path, if that is possible. -/
def write? (t : FileTree) (path text : String) : Option FileTree :=
  match t.locate path with
  | .error _ => none
  | .ok place => if t.isFolder place then none else some (t.put place text.toUTF8)

/-- The place that a relative path names from a folder, where each name before the last is that of a
folder. -/
def placeFrom (home : Place) (path : String) : Place :=
  (names path).foldl (fun here name =>
    if name = "" ∨ name = "." then here
    else if name = ".." then here.dropLast
    else here ++ [name]) home

/-- The tree with files at paths relative to its working directory. -/
def ofList (files : List (String × ByteArray)) : FileTree :=
  files.foldl (fun t file => t.put (placeFrom t.home file.1) file.2) { home := ["tmp", "work"] }

/-! ## What putting a file does to a look-up -/

theorem lookup_filter_ne_self {place other : Place} (h : other ≠ place)
    (files : List (Place × ByteArray)) :
    (files.filter fun file => file.1 ≠ place).lookup other = files.lookup other := by
  induction files with
  | nil => rfl
  | cons file rest ih =>
    obtain ⟨p, bytes⟩ := file
    by_cases hp : p = place
    · have hb : (other == p) = false := by simpa [hp] using h
      rw [List.lookup_cons, hb, ← ih]
      simp [hp]
    · rw [List.filter_cons_of_pos (by simpa using hp), List.lookup_cons, List.lookup_cons, ih]

/-- The file that is put is there, and every other one is as it was. -/
theorem contents?_put {place : Place} (hplace : place ≠ nullDevice) (t : FileTree) (other : Place)
    (bytes : ByteArray) :
    (t.put place bytes).contents? other =
      if other = place then some bytes else t.contents? other := by
  have hentries : (t.put place bytes).entries =
      (nullDevice, .empty) :: (place, bytes) :: t.files.filter fun file => file.1 ≠ place := by
    rw [put, if_neg hplace]
    rfl
  rw [contents?, hentries]
  split
  · next h =>
    rw [h, List.lookup_cons, beq_eq_false_iff_ne.2 hplace]
    exact List.lookup_cons_self
  · next h =>
    have hrest := lookup_filter_ne_self h t.files
    simp only [contents?, entries, List.lookup_cons, beq_eq_false_iff_ne.2 h, hrest]

end FileTree

end Colloquy
