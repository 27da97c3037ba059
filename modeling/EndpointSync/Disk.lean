/-!
# The output file

The file is replaced as a whole: readers see the old text or the new one, never a part. The text
goes into a temporary file in the same directory, which then takes the place of the output file.
Whether that succeeds depends on what the place allows; if a phase of it fails, the temporary file
is deleted again and the output file stays as it was.
-/

namespace EndpointSync

/-- What is at the place of the output file, and how it takes a new one. -/
inductive Place where
  /-- A file, or nothing. -/
  | free
  /-- The directory is missing, or no file can be created in it. -/
  | noDirectory
  /-- There is no room for the text. -/
  | full
  /-- What is written does not reach the disk. -/
  | unsynced
  /-- Permissions cannot be set. -/
  | unpermitted
  /-- A directory stands where the file should be. -/
  | occupied
deriving DecidableEq, Repr, Inhabited

/-- The output file. -/
structure Disk where
  place : Place := .free
  contents : Option String := none
deriving DecidableEq, Repr, Inhabited

/-- Why the file was not written. -/
inductive WriteFailure where
  | unrenderable
  | noDirectory
  | notFilled
  | notSynced
  | notPermitted
  | notReplaced
deriving DecidableEq, Repr

/-- The message for a failure. That of the file system itself is not known here. -/
def WriteFailure.message? : WriteFailure → Option String
  | .unrenderable => some "failed to render endpoints"
  | .noDirectory | .notFilled | .notSynced | .notPermitted => none
  | .notReplaced => some "failed to replace output file"

/-! ## Replacing the file -/

inductive Phase where
  /-- The temporary file is created. -/
  | create
  /-- The text is written to it. -/
  | fill
  /-- The text is made sure to be on the disk. -/
  | sync
  /-- Everyone is allowed to read it. -/
  | permit
  /-- It takes the place of the output file. -/
  | rename
deriving DecidableEq, Repr

def Phase.all : List Phase := [.create, .fill, .sync, .permit, .rename]

/-- What it means that a phase fails. -/
def Phase.failure : Phase → WriteFailure
  | .create => .noDirectory
  | .fill => .notFilled
  | .sync => .notSynced
  | .permit => .notPermitted
  | .rename => .notReplaced

def Place.obstacle? : Place → Option Phase
  | .free => none
  | .noDirectory => some .create
  | .full => some .fill
  | .unsynced => some .sync
  | .unpermitted => some .permit
  | .occupied => some .rename

namespace Disk

def replace (d : Disk) (text : String) : Except WriteFailure Disk :=
  match d.place.obstacle? with
  | none => .ok { d with contents := some text }
  | some phase => .error phase.failure

def delete (d : Disk) : Disk := { d with contents := none }

/-- The names in the directory of a file called `name`. -/
def names (d : Disk) (name : String) : List String :=
  if d.place = .occupied || d.contents.isSome then [name] else []

/-- The permissions of the file: everyone may read it. -/
def mode? (d : Disk) : Option String := d.contents.map fun _ ↦ "644"

end Disk

/-! ## What happens in the directory

A phase is not one motion of the file system: the text is written piece by piece, and when there is
no room for all of it some of the pieces have been written. -/

/-- A file with its permissions. -/
structure File where
  bytes : List UInt8
  mode : String
deriving DecidableEq, Repr

/-- The file that a text ends up in: everyone may read it. -/
def File.ofText (text : String) : File := ⟨text.toUTF8.toList, "644"⟩

/-- The directory of the output file. -/
structure Folder where
  output : Option File := none
  /-- The temporary file. -/
  draft : Option File := none
deriving DecidableEq, Repr

/-- A motion of the file system. -/
inductive Motion where
  | create
  | append (piece : List UInt8)
  | sync
  | permit
  | rename
  | discard
deriving DecidableEq, Repr

/-- The directory after a motion. -/
def Folder.perform (f : Folder) : Motion → Folder
  | .create => { f with draft := some ⟨[], "600"⟩ }
  | .append piece => { f with draft := f.draft.map fun d ↦ { d with bytes := d.bytes ++ piece } }
  | .sync => f
  | .permit => { f with draft := f.draft.map fun d ↦ { d with mode := "644" } }
  | .rename => { output := f.draft.or f.output }
  | .discard => { f with draft := none }

/-- The directory after some motions. -/
def Folder.performAll (f : Folder) (motions : List Motion) : Folder := motions.foldl perform f

/-- The pieces in which some bytes are written: of these sizes, and the last one with all the
rest. -/
def pieces : List Nat → List UInt8 → List (List UInt8)
  | [], bytes => [bytes]
  | size :: sizes, bytes => bytes.take size :: pieces sizes (bytes.drop size)

/-- The motions of a phase, where the text is written in these pieces. -/
def Phase.motions (pieces : List (List UInt8)) : Phase → List Motion
  | .create => [.create]
  | .fill => pieces.map .append
  | .sync => [.sync]
  | .permit => [.permit]
  | .rename => [.rename]

/-- What a phase that fails has done: of the text, all pieces but the last one are written, for
which there was no room. -/
def Phase.remains (pieces : List (List UInt8)) : Phase → List Motion
  | .fill => pieces.dropLast.map .append
  | _ => []

/-- Everything that happens while the file is replaced. -/
def Place.course (p : Place) (pieces : List (List UInt8)) : List Motion :=
  match p.obstacle? with
  | none => Phase.all.flatMap (·.motions pieces)
  | some phase =>
    (Phase.all.takeWhile (· ≠ phase)).flatMap (·.motions pieces) ++ phase.remains pieces ++
      [.discard]

end EndpointSync
