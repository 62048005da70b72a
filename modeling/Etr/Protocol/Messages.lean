import Etr.Library.OneofSchema
import Etr.Session.State

/-!
Contract: the message types of `src/protocol/mod.rs` with their field tags.

Owns the eight messages, their schemas, the enumerations carried in integer
fields, and the watermark tables the handshake and heartbeat messages carry.

Does not own the envelope. Enumeration fields keep any 32-bit integer, as the
generated code does.
-/

namespace Etr.Protocol

open Etr.Library

/-! ## Enumerations -/

/-- Transport protocol for a port-forward stream. -/
inductive ForwardProto where
  | tcp
  | udp
deriving DecidableEq, Repr

/-- `proto as i32`. -/
def ForwardProto.toInt32 : ForwardProto → Int32
  | .tcp => 0
  | .udp => 1

/-- `ForwardProto::try_from`. -/
def ForwardProto.ofInt32? (number : Int32) : Option ForwardProto :=
  if number = 0 then some .tcp else if number = 1 then some .udp else none

@[simp] theorem ForwardProto.ofInt32?_toInt32 (proto : ForwardProto) :
    ofInt32? proto.toInt32 = some proto := by
  cases proto <;> rfl

theorem ForwardProto.toInt32_of_ofInt32? {number : Int32} {proto : ForwardProto}
    (converted : ofInt32? number = some proto) : number = proto.toInt32 := by
  unfold ofInt32? at converted
  split at converted
  · cases converted
    assumption
  · split at converted
    · cases converted
      assumption
    · contradiction

/-- `stream_type as i32`. -/
def streamTypeToInt32 : Session.StreamType → Int32
  | .terminal => 0
  | .portForward => 1
  | .x11 => 2

/-! ## Messages -/

/-- Highest sequence number received, per stream. -/
abbrev WatermarkTable := Std.ExtTreeMap UInt32 UInt64

/-- The table as session code reads it. -/
def WatermarkTable.toWatermarkMap (table : WatermarkTable) : Session.WatermarkMap :=
  fun streamId =>
    if streamId < 2 ^ 32 then
      (table[UInt32.ofNat streamId]?).map UInt64.toNat
    else
      none

/-- Sent by the client on the control stream to resume or open a session. -/
structure SessionOpen where
  sessionId : List UInt8
  passkey : String
  lastReceivedSeq : WatermarkTable
  reverseForwards : List String
  gatewayPorts : Bool
  x11Enabled : Bool
  x11AuthProto : String
  x11AuthCookie : List UInt8

/-- Sent by the server in reply to `SessionOpen`. -/
structure SessionAccept where
  lastReceivedSeq : WatermarkTable

/-- Header of a forward stream. -/
structure StreamOpen where
  streamId : UInt32
  streamType : Int32
  remoteHost : String
  remotePort : UInt32
  forwardProto : Int32
deriving DecidableEq, Repr

/-- Close a forward stream; a nonzero code signals an error. -/
structure StreamClose where
  streamId : UInt32
  errorCode : UInt32
deriving DecidableEq, Repr

structure TerminalResize where
  rows : UInt32
  cols : UInt32
deriving DecidableEq, Repr

structure Heartbeat where
  lastReceivedSeq : WatermarkTable

/-- Clean-disconnect signal. -/
structure Disconnect where
deriving DecidableEq, Repr

/-- One UDP datagram on a shared forward stream. -/
structure UdpDatagram where
  peerAddr : String
  peerPort : UInt32
  data : List UInt8
deriving DecidableEq, Repr

/-! ## Schemas -/

/-- Order in which a writer's hash map yields its entries. -/
abbrev MapOrder := IterationOrder UInt32 UInt64

abbrev Schema (Message : Type) := MessageSchema MapOrder Message

/-- `map = "uint32, uint64"`. -/
def watermarkCodec : FieldCodec MapOrder WatermarkTable :=
  FieldCodec.map .uint32 .uint64 length_encode_integer_entry

def SessionOpen.schema : Schema SessionOpen where
  default := ⟨[], "", ∅, [], false, false, "", []⟩
  fields :=
    [{ Value := _, tag := 1, codec := .bytes
       get := sessionId, set := fun message value => { message with sessionId := value } },
     { Value := _, tag := 2, codec := .string
       get := passkey, set := fun message value => { message with passkey := value } },
     { Value := _, tag := 3, codec := watermarkCodec
       get := lastReceivedSeq
       set := fun message value => { message with lastReceivedSeq := value } },
     { Value := _, tag := 4, codec := .repeatedString
       get := reverseForwards
       set := fun message value => { message with reverseForwards := value } },
     { Value := _, tag := 5, codec := .bool
       get := gatewayPorts, set := fun message value => { message with gatewayPorts := value } },
     { Value := _, tag := 6, codec := .bool
       get := x11Enabled, set := fun message value => { message with x11Enabled := value } },
     { Value := _, tag := 7, codec := .string
       get := x11AuthProto, set := fun message value => { message with x11AuthProto := value } },
     { Value := _, tag := 8, codec := .bytes
       get := x11AuthCookie
       set := fun message value => { message with x11AuthCookie := value } }]
  tagsInRange := by simp [TagInRange]
  tagsDistinct := by simp
  independent := by simp [Field.Independent]
  fresh := by simp [FieldCodec.bytes, FieldCodec.string, FieldCodec.bool,
    FieldCodec.repeatedString, FieldCodec.scalar, watermarkCodec, FieldCodec.map]
  complete := by
    intro message
    simp only [List.foldl_cons, List.foldl_nil]

def SessionAccept.schema : Schema SessionAccept where
  default := ⟨∅⟩
  fields :=
    [{ Value := _, tag := 1, codec := watermarkCodec
       get := lastReceivedSeq
       set := fun message value => { message with lastReceivedSeq := value } }]
  tagsInRange := by simp [TagInRange]
  tagsDistinct := by simp
  independent := by simp
  fresh := by simp [watermarkCodec, FieldCodec.map]
  complete := fun _ => rfl

def StreamOpen.schema : Schema StreamOpen where
  default := ⟨0, 0, "", 0, 0⟩
  fields :=
    [{ Value := _, tag := 1, codec := .uint32
       get := streamId, set := fun message value => { message with streamId := value } },
     { Value := _, tag := 2, codec := .enumeration
       get := streamType, set := fun message value => { message with streamType := value } },
     { Value := _, tag := 3, codec := .string
       get := remoteHost, set := fun message value => { message with remoteHost := value } },
     { Value := _, tag := 4, codec := .uint32
       get := remotePort, set := fun message value => { message with remotePort := value } },
     { Value := _, tag := 5, codec := .enumeration
       get := forwardProto, set := fun message value => { message with forwardProto := value } }]
  tagsInRange := by simp [TagInRange]
  tagsDistinct := by simp
  independent := by simp [Field.Independent]
  fresh := by simp [FieldCodec.uint32, FieldCodec.enumeration, FieldCodec.string,
    FieldCodec.scalar]
  complete := fun _ => rfl

def StreamClose.schema : Schema StreamClose where
  default := ⟨0, 0⟩
  fields :=
    [{ Value := _, tag := 1, codec := .uint32
       get := streamId, set := fun message value => { message with streamId := value } },
     { Value := _, tag := 2, codec := .uint32
       get := errorCode, set := fun message value => { message with errorCode := value } }]
  tagsInRange := by simp [TagInRange]
  tagsDistinct := by simp
  independent := by simp [Field.Independent]
  fresh := by simp [FieldCodec.uint32, FieldCodec.scalar]
  complete := fun _ => rfl

def TerminalResize.schema : Schema TerminalResize where
  default := ⟨0, 0⟩
  fields :=
    [{ Value := _, tag := 1, codec := .uint32
       get := rows, set := fun message value => { message with rows := value } },
     { Value := _, tag := 2, codec := .uint32
       get := cols, set := fun message value => { message with cols := value } }]
  tagsInRange := by simp [TagInRange]
  tagsDistinct := by simp
  independent := by simp [Field.Independent]
  fresh := by simp [FieldCodec.uint32, FieldCodec.scalar]
  complete := fun _ => rfl

def Heartbeat.schema : Schema Heartbeat where
  default := ⟨∅⟩
  fields :=
    [{ Value := _, tag := 1, codec := watermarkCodec
       get := lastReceivedSeq
       set := fun message value => { message with lastReceivedSeq := value } }]
  tagsInRange := by simp [TagInRange]
  tagsDistinct := by simp
  independent := by simp
  fresh := by simp [watermarkCodec, FieldCodec.map]
  complete := fun _ => rfl

def Disconnect.schema : Schema Disconnect where
  default := ⟨⟩
  fields := []
  tagsInRange := by simp
  tagsDistinct := by simp
  independent := List.Pairwise.nil
  fresh := by simp
  complete := fun _ => rfl

def UdpDatagram.schema : Schema UdpDatagram where
  default := ⟨"", 0, []⟩
  fields :=
    [{ Value := _, tag := 1, codec := .string
       get := peerAddr, set := fun message value => { message with peerAddr := value } },
     { Value := _, tag := 2, codec := .uint32
       get := peerPort, set := fun message value => { message with peerPort := value } },
     { Value := _, tag := 3, codec := .bytes
       get := data, set := fun message value => { message with data := value } }]
  tagsInRange := by simp [TagInRange]
  tagsDistinct := by simp
  independent := by simp [Field.Independent]
  fresh := by simp [FieldCodec.uint32, FieldCodec.bytes, FieldCodec.string, FieldCodec.scalar]
  complete := fun _ => rfl

end Etr.Protocol
