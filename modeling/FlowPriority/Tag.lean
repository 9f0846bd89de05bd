import FlowPriority.Bytes
import FlowPriority.Level

/-!
The wire form of the two tags that travel with a packet.

A priority tag is one byte, its level. A flow size tag is one word, the total size of a flow in
bytes. Neither form is delimited: a reader has to know which kind of tag comes next.
-/

namespace FlowPriority

inductive Tag where
  | priority (level : Level)
  | flowSize (bytes : UInt32)
deriving DecidableEq

namespace Tag

inductive Kind where
  | priority
  | flowSize
deriving DecidableEq

def Kind.length : Kind → Nat
  | priority => 1
  | flowSize => 4

def kind : Tag → Kind
  | .priority _ => .priority
  | .flowSize _ => .flowSize

inductive ReadError where
  | truncated (expected actual : Nat)
  | invalidLevel (byte : UInt8)
deriving DecidableEq

def ReadError.message : ReadError → String
  | truncated expected actual => s!"Tag truncated: expected {expected} bytes, got {actual}"
  | invalidLevel byte => s!"Invalid priority level: {byte.toNat}"

def readLevel (byte : UInt8) : Except ReadError Level :=
  match Level.ofNumber? byte with
  | some level => .ok level
  | none => .error (.invalidLevel byte)

section Buffer

variable {Buffer : Type}

def encode (sink : Sink Buffer) (buffer : Buffer) : Tag → Buffer
  | .priority level => sink.putByte buffer level.toByte
  | .flowSize bytes => sink.putWord buffer bytes

def encodeAll (sink : Sink Buffer) (buffer : Buffer) (tags : List Tag) : Buffer :=
  tags.foldl (encode sink) buffer

/-- One read of a stream: what came out of it, and what is left after it. -/
structure Reading (Buffer : Type) where
  outcome : Except ReadError Tag
  rest : Buffer

variable (source : Source Buffer)

/--
Reads a tag of the given kind from the front. A truncated tag consumes nothing, an invalid level
consumes its byte. There is no reading at all if the buffer breaks down.
-/
def decode (kind : Kind) (buffer : Buffer) : Option (Reading Buffer) :=
  if source.remaining buffer < kind.length then
    some ⟨.error (.truncated kind.length (source.remaining buffer)), buffer⟩
  else
    match kind with
    | .priority => do
      let (byte, rest) ← source.takeByte buffer
      return ⟨(readLevel byte).map .priority, rest⟩
    | .flowSize => do
      let (bytes, rest) ← source.takeWord buffer
      return ⟨.ok (.flowSize bytes), rest⟩

/-- Reads tags of the given kinds one after the other, going on after a failure. -/
def decodeAll (kinds : List Kind) (buffer : Buffer) : Option (List (Reading Buffer)) :=
  match kinds with
  | [] => some []
  | kind :: later => do
    let reading ← decode source kind buffer
    let readings ← decodeAll later reading.rest
    return reading :: readings

end Buffer

end Tag

end FlowPriority
