import Dissect.Path
import Dissect.Text.Quoted

/-!
A tree of directories and files below a working directory, with the causes for which opening,
making and writing fail.
-/

namespace Dissect

inductive FileCause
  | noEntry
  | exists
  | notDirectory
  | isDirectory
  | nameTooLong
  | nulCharacter
deriving DecidableEq, Repr

/-- The number of a cause; a path that no file can have is refused without one. -/
def FileCause.number? : FileCause → Option Nat
  | .noEntry => some 2
  | .exists => some 17
  | .notDirectory => some 20
  | .isDirectory => some 21
  | .nameTooLong => some 36
  | .nulCharacter => none

def FileCause.message : FileCause → String
  | .noEntry => "No such file or directory"
  | .exists => "File exists"
  | .notDirectory => "Not a directory"
  | .isDirectory => "Is a directory"
  | .nameTooLong => "File name too long"
  | .nulCharacter => "embedded null byte"

structure FileFault where
  cause : FileCause
  path : String
deriving DecidableEq, Repr

/-- The wording of a failed file operation: a cause with a number is shown with it and the path. -/
def FileFault.message (f : FileFault) : String :=
  match f.cause.number? with
  | some n => "[Errno " ++ toString n ++ "] " ++ f.cause.message ++ ": " ++ Text.quoted f.path
  | none => f.cause.message

/-- The failure is the answer of the file system, rather than a path that cannot be asked for. -/
def FileFault.isAnswer (f : FileFault) : Bool := f.cause.number?.isSome

/-- A place in the tree: the names that lead to it, with no dots but double ones in front. -/
abbrev Location := List String

def Location.up (loc : Location) : Location :=
  match loc.getLast? with
  | none => [".."]
  | some ".." => loc ++ [".."]
  | some "/" => loc
  | some _ => loc.dropLast

def Location.toText (loc : Location) : String :=
  match loc with
  | [] => "."
  | "/" :: names => "/" ++ "/".intercalate names
  | names => "/".intercalate names

/-- Directories and files by their places. The working directory and what lies above it exist. -/
structure FileTree where
  dirs : List Location
  files : List (Location × Bytes)
deriving Inhabited

namespace FileTree

def empty : FileTree := ⟨[], []⟩

def fileAt? (t : FileTree) (loc : Location) : Option Bytes := t.files.lookup loc

def isDirAt (t : FileTree) (loc : Location) : Bool :=
  loc.all (· == "..") || loc == ["/"] || t.dirs.contains loc

def nameLimit : Nat := 255
def pathLimit : Nat := 4095

/-- Step to a name inside a directory; a single dot stays there. -/
def step (t : FileTree) (loc : Location) (name : String) : Except FileCause Location :=
  if !t.isDirAt loc then .error (if (t.fileAt? loc).isSome then .notDirectory else .noEntry)
  else if nameLimit < name.utf8ByteSize then .error .nameTooLong
  else if name == "." then .ok loc
  else if name == ".." then .ok loc.up
  else .ok (loc ++ [name])

/-- What no path can have: a NUL character, or more octets than the limit. -/
def checkText (text : String) : Except FileCause Unit :=
  if text.toList.contains '\x00' then .error .nulCharacter
  else if pathLimit < text.utf8ByteSize then .error .nameTooLong
  else .ok ()

def walk (t : FileTree) (root : String) (names : List String) : Except FileCause Location :=
  names.foldlM t.step (if root.isEmpty then [] else ["/"])

def locate (t : FileTree) (p : Path) : Except FileCause Location := do
  checkText p.toText
  t.walk p.root p.parts

/-- The place that a text leads to, each of its dots a step and an empty text nowhere. -/
def locateText (t : FileTree) (text : String) : Except FileCause Location := do
  checkText text
  if text.isEmpty then .error .noEntry
  else t.walk (Path.rootOf text.toList) (Path.stepsOf text.toList)

/-- Whether a path leads to a file. A name that is too long is an error, other failures are not. -/
def isFile (t : FileTree) (p : Path) : Except FileFault Bool :=
  match t.locate p with
  | .ok loc => .ok (t.fileAt? loc).isSome
  | .error .nameTooLong => .error ⟨.nameTooLong, p.toText⟩
  | .error _ => .ok false

def isDir (t : FileTree) (p : Path) : Except FileFault Bool :=
  match t.locate p with
  | .ok loc => .ok (t.isDirAt loc)
  | .error .nameTooLong => .error ⟨.nameTooLong, p.toText⟩
  | .error _ => .ok false

def contentAt (t : FileTree) (place : Except FileCause Location) (shown : String) :
    Except FileFault Bytes :=
  match place with
  | .error cause => .error ⟨cause, shown⟩
  | .ok loc =>
      match t.fileAt? loc with
      | some content => .ok content
      | none => .error ⟨if t.isDirAt loc then .isDirectory else .noEntry, shown⟩

def read (t : FileTree) (p : Path) : Except FileFault Bytes := t.contentAt (t.locate p) p.toText

def readText (t : FileTree) (text : String) : Except FileFault Bytes :=
  t.contentAt (t.locateText text) text

def makeDir (t : FileTree) (p : Path) : Except FileCause FileTree :=
  match t.locate p with
  | .error cause => .error cause
  | .ok loc =>
      if t.isDirAt loc || (t.fileAt? loc).isSome then .error .exists
      else .ok { t with dirs := t.dirs ++ [loc] }

def acceptDir (t : FileTree) (p : Path) (cause : FileCause) : Except FileFault Unit :=
  match t.isDir p with
  | .ok true => .ok ()
  | .ok false => .error ⟨cause, p.toText⟩
  | .error f => .error f

/-- Make a directory and those above it that are missing, `height` of them at most. Directories made
before a failure stay. -/
def makeDirsUpTo : Nat → FileTree → Path → FileTree × Except FileFault Unit
  | height, t, p =>
      match t.makeDir p with
      | .ok t => (t, .ok ())
      | .error .noEntry =>
          match height with
          | 0 => (t, .error ⟨.noEntry, p.toText⟩)
          | height + 1 =>
              match makeDirsUpTo height t p.parent with
              | (t, .error f) => (t, .error f)
              | (t, .ok ()) =>
                  match t.makeDir p with
                  | .ok t => (t, .ok ())
                  | .error .noEntry => (t, .error ⟨.noEntry, p.toText⟩)
                  | .error cause => (t, t.acceptDir p cause)
      | .error cause => (t, t.acceptDir p cause)

def makeDirs (t : FileTree) (p : Path) : FileTree × Except FileFault Unit :=
  makeDirsUpTo p.parts.length t p

/-- The files with the content of a place set: in its old place if there is one, else at the end. -/
def setFile (loc : Location) (content : Bytes) :
    List (Location × Bytes) → List (Location × Bytes)
  | [] => [(loc, content)]
  | (l, old) :: rest =>
      if l == loc then (l, content) :: rest else (l, old) :: setFile loc content rest

def put (t : FileTree) (p : Path) (content : Bytes) : FileTree × Except FileFault Unit :=
  match t.locate p with
  | .error cause => (t, .error ⟨cause, p.toText⟩)
  | .ok loc =>
      if t.isDirAt loc then (t, .error ⟨.isDirectory, p.toText⟩)
      else ({ t with files := setFile loc content t.files }, .ok ())

/-- Write a file, in a directory that is made first. -/
def write (t : FileTree) (p : Path) (content : Bytes) : FileTree × Except FileFault Unit :=
  match t.makeDirs p.parent with
  | (t, .error f) => (t, .error f)
  | (t, .ok ()) => t.put p content

def remove (t : FileTree) (p : Path) : FileTree × Except FileFault Unit :=
  match t.locate p with
  | .error cause => (t, .error ⟨cause, p.toText⟩)
  | .ok loc =>
      if t.isDirAt loc || (t.fileAt? loc).isSome then
        (⟨t.dirs.filter fun l => !loc.isPrefixOf l, t.files.filter fun f => !loc.isPrefixOf f.1⟩,
          .ok ())
      else (t, .error ⟨.noEntry, p.toText⟩)

/-- The names of the files inside the directory that a path leads to, in no particular order. -/
def fileNames (t : FileTree) (p : Path) : List String :=
  match t.locate p with
  | .error _ => []
  | .ok loc =>
      if t.isDirAt loc then
        t.files.filterMap fun f =>
          if f.1.length == loc.length + 1 && loc.isPrefixOf f.1 then f.1.getLast? else none
      else []

/-- All files below the directory that a path leads to, by the names that lead to them from there.
-/
def below (t : FileTree) (p : Path) : List (List String × Bytes) :=
  match t.locate p with
  | .error _ => []
  | .ok loc =>
      t.files.filterMap fun f =>
        if loc.length < f.1.length && loc.isPrefixOf f.1 then
          some (f.1.drop loc.length, f.2)
        else none

end FileTree

end Dissect
