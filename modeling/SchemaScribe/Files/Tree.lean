import SchemaScribe.Document.Value
import SchemaScribe.Files.Path
import SchemaScribe.Text.Lines
import SchemaScribe.Text.Surrogate
import SchemaScribe.Text.Utf8

/-!
# File trees

Directories and files as a value, with the operations the program needs of them. Reading never changes
the tree. Writing puts the whole content in place at once or leaves the target as it was; the
directories above it may have been made by then. A text with lone surrogates has no bytes, and nothing is
done for it. Symbolic links, permissions and a full disk are left out: a tree has only directories and
regular files, and every path in it may be read and written.
-/

namespace SchemaScribe.Files

open SchemaScribe.Document SchemaScribe.Text

/-- What stands at a place: a regular file or a directory. There are no symbolic links. -/
inductive Entry where
  | file (bytes : ByteArray)
  | directory

instance : DecidableEq Entry
  | .file a, .file b =>
    if h : a.data = b.data then .isTrue (by cases a; cases b; cases h; rfl)
    else .isFalse fun e => h (by cases e; rfl)
  | .directory, .directory => .isTrue rfl
  | .file _, .directory => .isFalse nofun
  | .directory, .file _ => .isFalse nofun

/-- What stands at every place below the root, and the working directory. -/
structure FileTree where
  home : List String := []
  entries : List (List String × Entry) := []

/-- Why an operation on files failed. -/
inductive Cause where
  | missing
  | busy
  | exists
  | notDirectory
  | isDirectory
  | nameTooLong
  | nullCharacter
  | unencodable (fault : EncodeFault)
deriving DecidableEq, Repr

namespace Cause

/-- The number that the system has for a cause. Null characters and lone surrogates do not get as far as the
system. -/
def number? : Cause → Option Nat
  | .missing => some 2
  | .busy => some 16
  | .exists => some 17
  | .notDirectory => some 20
  | .isDirectory => some 21
  | .nameTooLong => some 36
  | .nullCharacter | .unencodable _ => none

/-- Whether a cause is an error of the system. -/
def isSystem (c : Cause) : Bool := c.number?.isSome

/-- The wording of a cause. -/
def wording : Cause → String
  | .missing => "No such file or directory"
  | .busy => "Device or resource busy"
  | .exists => "File exists"
  | .notDirectory => "Not a directory"
  | .isDirectory => "Is a directory"
  | .nameTooLong => "File name too long"
  | .nullCharacter => "embedded null byte"
  | .unencodable fault => fault.message

/-- The kind of a cause in messages. -/
def kindWord : Cause → String
  | .missing => "FileNotFoundError"
  | .busy | .nameTooLong => "OSError"
  | .exists => "FileExistsError"
  | .notDirectory => "NotADirectoryError"
  | .isDirectory => "IsADirectoryError"
  | .nullCharacter => "ValueError"
  | .unencodable _ => "UnicodeEncodeError"

end Cause

/-- What a failed operation was about: a path, a file with a temporary name beside it, or moving that file
to it. -/
inductive Subject where
  | path
  | temporary
  | move
deriving DecidableEq, Repr

/-- A failed operation with the path it was for. -/
structure FileFault where
  cause : Cause
  path : Path
  subject : Subject := .path
deriving DecidableEq, Repr

/-- The files that a fault names. -/
def FileFault.files (f : FileFault) : String :=
  match f.subject with
  | .path => literal f.path.shown
  | .temporary => "<tmp>"
  | .move => "<tmp> -> " ++ literal f.path.shown

/-- The complaint about a failed operation. -/
def FileFault.message (f : FileFault) : String :=
  match f.cause.number? with
  | some n => "[Errno " ++ toString n ++ "] " ++ f.cause.wording ++ ": " ++ f.files
  | none => f.cause.wording

/-- Why a text could not be read. -/
inductive ReadFault where
  | file (fault : FileFault)
  | undecodable (fault : DecodeFault)
deriving DecidableEq, Repr

namespace ReadFault

/-- The complaint about a text that could not be read. -/
def message : ReadFault → String
  | .file fault => fault.message
  | .undecodable fault => fault.message

/-- The kind of a fault in messages. -/
def kindWord : ReadFault → String
  | .file fault => fault.cause.kindWord
  | .undecodable _ => "UnicodeDecodeError"

end ReadFault

namespace FileTree

/-- What stands at a place. The root is a directory. -/
def entry? (t : FileTree) (place : List String) : Option Entry :=
  if place.isEmpty then some .directory else entryAt? place t.entries

/-- Puts something at a place. -/
def put (t : FileTree) (place : List String) (e : Entry) : FileTree :=
  { t with entries := setEntry place e t.entries }

/-- Takes away what stands at a place and below it. -/
def remove (t : FileTree) (place : List String) : FileTree :=
  { t with entries := t.entries.filter fun entry => !place.isPrefixOf entry.1 }

/-- The most bytes that a name may have. -/
def nameLimit : Nat := 255

/-- The directory that parts lead to from a directory. -/
def walk (t : FileTree) (place : List String) : List String → Except Cause (List String)
  | [] => .ok place
  | part :: rest =>
    if part = ".." then walk t place.dropLast rest
    else if nameLimit < part.utf8ByteSize then .error .nameTooLong
    else
      match t.entry? (place ++ [part]) with
      | some .directory => walk t (place ++ [part]) rest
      | some (.file _) => .error .notDirectory
      | none => .error .missing

/-- Where a path starts. -/
def start (t : FileTree) (p : Path) : List String := if p.absolute then [] else t.home

/-- The place of a path: everything but its last part must be there and a directory. -/
def locate (t : FileTree) (p : Path) : Except Cause (List String) :=
  if p.hasNull then .error .nullCharacter
  else if p.isTooLong then .error .nameTooLong
  else
    match p.parts.getLast? with
    | none => .ok (t.start p)
    | some last => do
      let above ← t.walk (t.start p) p.parts.dropLast
      if last = ".." then return above.dropLast
      else if nameLimit < last.utf8ByteSize then .error .nameTooLong
      else return above ++ [last]

/-- What stands at a path, if the path leads anywhere. -/
def at? (t : FileTree) (p : Path) : Option Entry := (t.locate p).toOption.bind t.entry?

/-- Whether a path leads to anything. A path with a name that is too long is a fault. -/
def holds (t : FileTree) (p : Path) : Except FileFault Bool :=
  match t.locate p with
  | .error .nameTooLong => .error ⟨.nameTooLong, p, .path⟩
  | .error _ => .ok false
  | .ok place => .ok (t.entry? place).isSome

/-- Whether a path leads to a directory. -/
def isDirectory (t : FileTree) (p : Path) : Bool := t.at? p = some .directory

/-- Whether a path leads to a file. -/
def isFile (t : FileTree) (p : Path) : Bool :=
  match t.at? p with
  | some (.file _) => true
  | _ => false

/-- The absolute path that a path spells. -/
def resolve (t : FileTree) (p : Path) : Except FileFault Path :=
  if p.hasNull then .error ⟨.nullCharacter, p, .path⟩ else .ok (p.resolve t.home)

/-- Whether something stands in a directory. -/
def isFilled (t : FileTree) (p : Path) : Bool :=
  match t.locate p with
  | .ok place => t.entries.any fun entry => place.isPrefixOf entry.1 && place.length < entry.1.length
  | .error _ => false

/-! ## Reading -/

/-- The bytes of a file. -/
def read (t : FileTree) (p : Path) : Except FileFault ByteArray :=
  match t.locate p with
  | .error cause => .error ⟨cause, p, .path⟩
  | .ok place =>
    match t.entry? place with
    | some (.file bytes) => .ok bytes
    | some .directory => .error ⟨.isDirectory, p, .path⟩
    | none => .error ⟨.missing, p, .path⟩

/-- The text that bytes encode, with every line ending as a line feed. -/
def textOf (bytes : ByteArray) : Except DecodeFault String :=
  (decode bytes).map fun text => .ofList (unifyNewlines text.toList)

/-- The text of a file. -/
def readText (t : FileTree) (p : Path) : Except ReadFault String :=
  match t.read p with
  | .error fault => .error (.file fault)
  | .ok bytes => (textOf bytes).mapError .undecodable

/-- The text of a file, or nothing if there is none at the path. -/
def readText? (t : FileTree) (p : Path) : Except ReadFault (Option String) :=
  match t.read p with
  | .error fault => if fault.cause = .missing then .ok none else .error (.file fault)
  | .ok bytes => ((textOf bytes).mapError .undecodable).map some

/-! ## Writing -/

/-- A directory at a path where there was nothing. -/
def makeDirectory (t : FileTree) (p : Path) : Except FileFault FileTree :=
  match t.locate p with
  | .error cause => .error ⟨cause, p, .path⟩
  | .ok place =>
    if (t.entry? place).isSome then .error ⟨.exists, p, .path⟩ else .ok (t.put place .directory)

/-- Makes a directory; one that is there will do. -/
def acceptDirectory (t : FileTree) (p : Path) : FileTree × Except FileFault Unit :=
  match t.makeDirectory p with
  | .ok made => (made, .ok ())
  | .error fault => (t, if t.isDirectory p then .ok () else .error fault)

/-- Makes a directory, given by its parts from the last one up, and those above it. -/
def ensureParts (t : FileTree) (absolute : Bool) :
    List String → FileTree × Except FileFault Unit
  | [] => t.acceptDirectory ⟨absolute, []⟩
  | last :: above =>
    let p : Path := ⟨absolute, (last :: above).reverse⟩
    match t.makeDirectory p with
    | .ok made => (made, .ok ())
    | .error fault =>
      if fault.cause = .missing then
        match t.ensureParts absolute above with
        | (made, .ok ()) => made.acceptDirectory p
        | failed => failed
      else (t, if t.isDirectory p then .ok () else .error fault)

/-- Makes a directory and those above it; what is there already will do. -/
def ensureDirectory (t : FileTree) (p : Path) : FileTree × Except FileFault Unit :=
  t.ensureParts p.absolute p.parts.reverse

/-- How many bytes a temporary name has beyond the name that it stands for: two dots, eight characters, and
an ending. -/
def temporaryExcess : Nat := 14

/-- Whether a temporary name beside a path is too long, alone or with the directories above it. -/
def isCramped (p : Path) : Bool :=
  nameLimit < p.name.utf8ByteSize + temporaryExcess ||
    Path.lengthLimit ≤ p.shown.utf8ByteSize + temporaryExcess

/-- Moves finished content, which has a temporary name first, to a path in a directory that is there. -/
def replace (t : FileTree) (p : Path) (bytes : ByteArray) : Except FileFault FileTree :=
  if isCramped p then .error ⟨.nameTooLong, p, .temporary⟩
  else if p.parts.isEmpty || p.name = ".." then .error ⟨.busy, p, .move⟩
  else
    match t.locate p with
    | .error cause => .error ⟨cause, p, .move⟩
    | .ok place =>
      match t.entry? place with
      | some .directory => .error ⟨.isDirectory, p, .move⟩
      | _ => .ok (t.put place (.file bytes))

/-- Writes a file with the directories above it. -/
def write (t : FileTree) (p : Path) (bytes : ByteArray) : FileTree × Except FileFault Unit :=
  match t.ensureDirectory p.parent with
  | (made, .ok ()) =>
    match made.replace p bytes with
    | .ok written => (written, .ok ())
    | .error fault => (made, .error fault)
  | failed => failed

/-- Writes a text. One that cannot be encoded leaves everything as it was. -/
def writeText (t : FileTree) (p : Path) (text : String) (standIns : StandIns := []) :
    FileTree × Except FileFault Unit :=
  match standIns.encode text with
  | .error fault => (t, .error ⟨.unencodable fault, p, .path⟩)
  | .ok bytes => t.write p bytes

end FileTree

end SchemaScribe.Files
