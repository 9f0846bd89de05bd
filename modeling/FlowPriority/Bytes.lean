/-!
Buffers of bytes: values are put in at one end and taken out at the other.

What a tag needs of a buffer stands apart from the buffers there are. Lists of bytes are the plainest
of them.
-/

namespace FlowPriority

/-- Puts values at the end of a buffer, which grows with them. -/
structure Sink (Buffer : Type) where
  putByte : Buffer → UInt8 → Buffer
  putWord : Buffer → UInt32 → Buffer

/-- Takes values from the front of a buffer. What takes more than there is breaks down. -/
structure Source (Buffer : Type) where
  remaining : Buffer → Nat
  takeByte : Buffer → Option (UInt8 × Buffer)
  takeWord : Buffer → Option (UInt32 × Buffer)

namespace Bytes

def bigEndian (first second third fourth : UInt8) : UInt32 :=
  (first.toUInt32 <<< 24) ||| (second.toUInt32 <<< 16) ||| (third.toUInt32 <<< 8) |||
    fourth.toUInt32

def ofWord (word : UInt32) : List UInt8 :=
  [(word >>> 24).toUInt8, (word >>> 16).toUInt8, (word >>> 8).toUInt8, word.toUInt8]

def sink : Sink (List UInt8) where
  putByte bytes byte := bytes ++ [byte]
  putWord bytes word := bytes ++ ofWord word

def takeByte : List UInt8 → Option (UInt8 × List UInt8)
  | byte :: rest => some (byte, rest)
  | [] => none

def takeWord : List UInt8 → Option (UInt32 × List UInt8)
  | first :: second :: third :: fourth :: rest => some (bigEndian first second third fourth, rest)
  | _ => none

def source : Source (List UInt8) where
  remaining := List.length
  takeByte := takeByte
  takeWord := takeWord

end Bytes

end FlowPriority
