/-!
Byte buffers, and writing texts to them.

A buffer may have room for so many bytes only. A piece that does not fit is stored as far as there is
room for it, and whoever writes it is told.
-/

namespace FlowPriority.Report

structure Buffer where
  /-- Nothing where the buffer grows with what is written. -/
  capacity : Option Nat
  bytes : ByteArray

inductive WriteError where
  | full
deriving DecidableEq

def WriteError.message : WriteError → String
  | full => "failed to write whole buffer"

namespace Buffer

def unbounded : Buffer := ⟨none, .empty⟩

def ofCapacity (capacity : Nat) : Buffer := ⟨some capacity, .empty⟩

/-- Adds bytes as far as they fit. -/
def append (buffer : Buffer) (added : ByteArray) : Except WriteError Unit × Buffer :=
  match buffer.capacity with
  | none => (.ok (), { buffer with bytes := buffer.bytes ++ added })
  | some capacity =>
    let room := capacity - buffer.bytes.size
    if added.size ≤ room then (.ok (), { buffer with bytes := buffer.bytes ++ added })
    else (.error .full, { buffer with bytes := buffer.bytes ++ added.extract 0 room })

def text (buffer : Buffer) : String := (String.fromUTF8? buffer.bytes).getD ""

end Buffer

/-- Writing to a buffer, which ends at the first piece that does not fit. -/
abbrev Writing := ExceptT WriteError (StateM Buffer)

def putPiece (piece : String) : Writing Unit := fun buffer => buffer.append piece.toUTF8

/-- Writes one text, which is made up of pieces. -/
def put (pieces : List String) : Writing Unit := pieces.forM putPiece

/-- There is nothing left to do for a buffer, which holds all of its bytes itself. -/
def flush : Writing Unit := pure ()

def writeTo (buffer : Buffer) (writing : Writing Unit) : Except WriteError Unit × Buffer :=
  writing.run.run buffer

def written (writing : Writing Unit) : String := (writeTo .unbounded writing).2.text

end FlowPriority.Report
