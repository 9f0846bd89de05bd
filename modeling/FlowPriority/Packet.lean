import FlowPriority.Flow.Key
import FlowPriority.Level

/-!
Packets as the filters see them: a size, a flow, the transport header fields that matter, and the
two pieces of metadata that travel along, a size hint and a priority tag.
-/

namespace FlowPriority

structure ControlFlags where
  bits : UInt8
deriving DecidableEq

namespace ControlFlags

def none : ControlFlags := ⟨0⟩

def fin : ControlFlags := ⟨1⟩

def syn : ControlFlags := ⟨2⟩

def rst : ControlFlags := ⟨4⟩

def psh : ControlFlags := ⟨8⟩

def ack : ControlFlags := ⟨16⟩

def contains (flags other : ControlFlags) : Bool := flags.bits &&& other.bits == other.bits

def intersects (flags other : ControlFlags) : Bool := flags.bits &&& other.bits != 0

def union (flags other : ControlFlags) : ControlFlags := ⟨flags.bits ||| other.bits⟩

instance : HOr ControlFlags ControlFlags ControlFlags := ⟨union⟩

def isHandshake (flags : ControlFlags) : Bool := flags.intersects (syn ||| fin)

end ControlFlags

structure Transport where
  sourcePort : UInt16 := 0
  destinationPort : UInt16 := 0
  flags : ControlFlags := .none
deriving DecidableEq

structure Packet where
  size : UInt32
  /-- The flow it belongs to, unless its header could not be recognized. -/
  flow : Option FlowKey := none
  transport : Option Transport := none
  sizeHint : Option UInt32 := none
  priority : Option Level := none
deriving DecidableEq

namespace Packet

def ofFlow (key : FlowKey) (size : UInt32) : Packet := { size, flow := some key }

def ofTuple (hasher : Hasher) (tuple : FiveTuple) (size : UInt32) : Packet where
  size := size
  flow := some (tuple.key hasher)
  transport := some { sourcePort := tuple.sourcePort, destinationPort := tuple.destinationPort }

def unrecognized (size : UInt32) : Packet := { size }

def withTransport (packet : Packet) (transport : Transport) : Packet :=
  { packet with transport := some transport }

/-- Sets the control flags, on an otherwise empty header where there is none yet. -/
def withFlags (packet : Packet) (flags : ControlFlags) : Packet :=
  { packet with transport := some { packet.transport.getD {} with flags } }

def withSizeHint (packet : Packet) (flowSize : UInt32) : Packet :=
  { packet with sizeHint := some flowSize }

def tagged (packet : Packet) (level : Level) : Packet := { packet with priority := some level }

def withoutSizeHint (packet : Packet) : Packet := { packet with sizeHint := none }

end Packet

end FlowPriority
