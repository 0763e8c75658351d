import Lkrequest.Foundations.Grouping

namespace Lkrequest
namespace Pcap

open Foundations

/-!
# Captured frames

What `dpkt` makes of a frame, as far as the extractors look at it.  A capture
is a list of packets: a frame and the flow it belongs to, which no extractor sees.
-/

abbrev Bytes := List UInt8

/-- `dpkt.tcp.TCP`. -/
structure Tcp where
  sport : Nat
  dport : Nat
  seq : Nat
  data : Bytes
deriving DecidableEq

inductive Transport
  | tcp (segment : Tcp)
  | other
deriving DecidableEq

/-- `dpkt.ip.IP` and `dpkt.ip6.IP6`. -/
structure Ip where
  src : Bytes
  dst : Bytes
  data : Transport
deriving DecidableEq

inductive Network
  | ip (packet : Ip)
  | ip6 (packet : Ip)
  | other
deriving DecidableEq

/-- A frame, or `NeedData` or `UnpackError`. -/
inductive Frame
  | undecodable
  | ethernet (data : Network)
deriving DecidableEq

/-- The segment that an extractor finds in a frame. -/
def tcpOf : Frame -> Option (Ip × Tcp)
  | .undecodable => none
  | .ethernet (.ip ip) =>
      match ip.data with
      | .tcp tcp => some (ip, tcp)
      | .other => none
  | .ethernet (.ip6 _) => none
  | .ethernet .other => none

def payloadOf (frame : Frame) : Option Bytes := (tcpOf frame).map (fun found => found.2.data)

/-! ## Flows -/

section Flows

variable {Flow : Type}

structure Packet (Flow : Type) where
  flow : Flow
  frame : Frame
deriving DecidableEq

def frames (packets : List (Packet Flow)) : List Frame := packets.map Packet.frame

/-- The payloads that an extractor finds. -/
def payloads (packets : List (Packet Flow)) : List Bytes := packets.filterMap (fun packet => payloadOf packet.frame)

/-- The packets of one flow. -/
def ofFlow [DecidableEq Flow] (flow : Flow) (packets : List (Packet Flow)) : List (Packet Flow) :=
  group Packet.flow flow packets

end Flows

end Pcap
end Lkrequest
