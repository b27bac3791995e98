import PageObjects.Files.Tree
import PageObjects.Json.Parser

/-!
# The machine under a batch run

A tree of files does not tell all that can stop a document. Files may not be readable or writable for
want of permission, a disk may be full, the reader of JSON has only so many levels left, and the
encoding of the machine may lack a character. A `Machine` says where it stops which document. Its
answers are those that it gives when it is asked, and may be any: what is proved of a run is proved for
every machine. One of which nothing else is said stops nothing. The specification names what a failing
operation on files comes to (6 and 7: `WriterError`), and not when one fails.

Left out: a file that stands under several names, links among them, and directories that cannot be
listed, which a search passes over.

* `Refusal`: the points at which the writing of a file can be stopped, in their order.
* `Refusal.left`, `Refusal.reported`: what is left of a text, and what is reported.
-/

namespace PageObjects

/-- Where a machine stops the writing of a file: once the outermost `depth` directories on the way are
there, at opening the file, at encoding the text, or after `kept` bytes. A file that was opened is
emptied. -/
inductive Refusal where
  | directories (depth : Nat) (e : FileError)
  | opening (e : FileError)
  | encoding
  | writing (kept : Nat) (e : FileError)
  deriving DecidableEq, Repr

/-- What goes wrong in writing a file: an operation on files fails, or the text cannot be encoded. -/
inductive WriteFault where
  | file (path : Path) (e : FileError)
  | unencodable
  deriving DecidableEq, Repr

namespace Refusal

/-- The file has been opened when the writing is stopped. -/
def isOpened : Refusal → Bool
  | .encoding | .writing .. => true
  | .directories .. | .opening _ => false

/-- The bytes that an opened file is left with. -/
def left (refusal? : Option Refusal) (bytes : List UInt8) : List UInt8 :=
  match refusal? with
  | some .encoding => []
  | some (.writing kept _) => bytes.take kept
  | _ => bytes

/-- What is reported of a file that was opened. -/
def reported (refusal? : Option Refusal) (path : Path) : Except WriteFault Unit :=
  match refusal? with
  | some .encoding => .error .unencodable
  | some (.writing _ e) => .error (.file path e)
  | _ => .ok ()

end Refusal

/-- What a machine refuses: the levels of JSON that its reader goes down, the documents that it cannot
read, and where it stops the writing of a file for a document. -/
structure Machine where
  levels : Nat := Json.usualLevels
  unreadable? : Path → Option FileError := fun _ => none
  refusal? : Path → Path → Option Refusal := fun _ _ => none

instance : Inhabited Machine := ⟨{}⟩

end PageObjects
