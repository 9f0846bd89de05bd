/-!
Flow identity: the five header fields that name a connection, and the key they are hashed to.

What a hash makes of the fields is up to the hasher. A key is the hash with its upper half folded
into its lower half, so that both halves contribute. Two connections that hash to the same key are
one flow.
-/

namespace FlowPriority

structure FlowKey where
  hash : UInt32
deriving DecidableEq

namespace FlowKey

instance : Ord FlowKey := ⟨compareOn (·.hash)⟩

instance : Std.TransOrd FlowKey := inferInstanceAs (Std.TransCmp (compareOn _))

instance : Std.LawfulEqOrd FlowKey where
  eq_of_compare {first second} same := by
    have : first.hash = second.hash := Std.LawfulEqOrd.eq_of_compare same
    cases first
    cases second
    simp_all

instance : ToString FlowKey := ⟨fun key => toString key.hash.toNat⟩

def ofHash (hash : UInt64) : FlowKey := ⟨(hash ^^^ (hash >>> 32)).toUInt32⟩

end FlowKey

inductive HashInput where
  | byte (value : UInt8)
  | half (value : UInt16)
  | word (value : UInt32)
  | long (value : UInt64)
  | wide (low high : UInt64)

/-- The hash of the numbers that a new hasher takes in one after the other. -/
abbrev Hasher := List HashInput → UInt64

inductive Address where
  | v4 (octets : Vector UInt8 4)
  | v6 (octets : Vector UInt8 16)
deriving DecidableEq

def littleEndian (bytes : List UInt8) : UInt64 :=
  bytes.foldr (fun byte rest => rest * 256 + byte.toUInt64) 0

/-- What an address contributes to a hash: its family, then the address itself. -/
def Address.hashInputs : Address → List HashInput
  | v4 octets => [.long 0, .word (littleEndian octets.toList).toUInt32]
  | v6 octets =>
    [.long 1, .wide (littleEndian (octets.toList.take 8)) (littleEndian (octets.toList.drop 8))]

def tcpProtocol : UInt8 := 6

def udpProtocol : UInt8 := 17

structure FiveTuple where
  source : Address
  destination : Address
  sourcePort : UInt16
  destinationPort : UInt16
  protocol : UInt8 := tcpProtocol
deriving DecidableEq

namespace FiveTuple

def hashInputs (tuple : FiveTuple) : List HashInput :=
  tuple.source.hashInputs ++ tuple.destination.hashInputs ++
    [.half tuple.sourcePort, .half tuple.destinationPort, .byte tuple.protocol]

def key (hasher : Hasher) (tuple : FiveTuple) : FlowKey := .ofHash (hasher tuple.hashInputs)

end FiveTuple

end FlowPriority
