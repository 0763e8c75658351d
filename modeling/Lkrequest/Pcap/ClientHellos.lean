import Lkrequest.Pcap.Frames
import Mathlib.Algebra.Group.Nat.Defs

namespace Lkrequest
namespace Pcap

open Foundations

/-!
# `_extract_client_hellos`

The extractor looks at every segment alone.  It finds the ClientHello of each
flow exactly when one segment of the flow holds all of it and no other segment
of the capture looks like one.
-/

/-! ## The extractor -/

/-- `struct.unpack("!H", …)[0]`. -/
def unpackH : Bytes -> Nat
  | [high, low] => high.toNat * 256 + low.toNat
  | _ => 0

/-- What is asked of a payload. -/
def looksLikeHello (payload : Bytes) : Bool :=
  if payload.length < 6 then false
  else if payload[0]? ≠ some 0x16 ∨ payload[1]? ≠ some 0x03 then false
  else
    let recordLen := unpackH ((payload.take 5).drop 3)
    if payload.length < 5 + recordLen then false
    else
      let handshake := (payload.take (5 + recordLen)).drop 5
      if handshake.length < 1 then false else handshake[0]? = some 0x01

def extractClientHellos (capture : List Frame) : List Bytes :=
  capture.foldl (fun hellos frame =>
    match tcpOf frame with
    | none => hellos
    | some (_, tcp) => if looksLikeHello tcp.data then hellos ++ [tcp.data] else hellos) []

/-! ## TLS records -/

/-- A number in two bytes. -/
def twoBytes (number : Nat) : Bytes := [UInt8.ofNat (number / 256), UInt8.ofNat (number % 256)]

/-- A handshake record.  An empty one is not allowed. -/
structure Record where
  minor : UInt8
  fragment : Bytes
  nonempty : fragment ≠ []
  short : fragment.length < 2 ^ 16

def Record.wire (record : Record) : Bytes :=
  [0x16, 0x03, record.minor] ++ twoBytes record.fragment.length ++ record.fragment

structure ClientHello where
  body : Bytes
  short : body.length < 2 ^ 24

/-- The handshake message: its type, its length in three bytes and its body. -/
def ClientHello.wire (hello : ClientHello) : Bytes :=
  [0x01, UInt8.ofNat (hello.body.length / 2 ^ 16)] ++ twoBytes (hello.body.length % 2 ^ 16) ++ hello.body

/-- The data begins with handshake records that hold the whole ClientHello. -/
def Holds (data : Bytes) (hello : ClientHello) : Prop :=
  ∃ (records : List Record) (rest more : Bytes), data = records.flatMap Record.wire ++ rest ∧
    records.flatMap Record.fragment = hello.wire ++ more

theorem unpackH_twoBytes {number : Nat} (short : number < 2 ^ 16) : unpackH (twoBytes number) = number := by
  unfold twoBytes unpackH
  dsimp only
  rw [UInt8.toNat_ofNat', UInt8.toNat_ofNat']
  omega

/-- The first record of what holds a ClientHello is taken for one. -/
theorem looksLikeHello_wire (record : Record) {rest fragment : Bytes}
    (begins : record.fragment = 0x01 :: fragment) : looksLikeHello (record.wire ++ rest) = true := by
  have bytes : record.wire ++ rest =
      [0x16, 0x03, record.minor] ++ twoBytes record.fragment.length ++ (record.fragment ++ rest) :=
    List.append_assoc ..
  have counted : (((record.wire ++ rest).take 5).drop 3) = twoBytes record.fragment.length := by
    rw [bytes]
    rfl
  have length : (record.wire ++ rest).length = 5 + record.fragment.length + rest.length := by
    rw [bytes, List.length_append, List.length_append, List.length_append, ← Nat.add_assoc]
    rfl
  have inside : ((record.wire ++ rest).take (5 + record.fragment.length)).drop 5 = record.fragment := by
    rw [List.drop_take, Nat.add_sub_cancel_left, bytes]
    exact List.take_left' rfl
  have holds : 0 < record.fragment.length := List.length_pos_iff.mpr record.nonempty
  have marked : ¬ ((record.wire ++ rest)[0]? ≠ some 0x16 ∨ (record.wire ++ rest)[1]? ≠ some 0x03) := by
    rw [bytes]
    exact not_or.mpr ⟨not_not.mpr rfl, not_not.mpr rfl⟩
  unfold looksLikeHello
  rw [counted, unpackH_twoBytes record.short]
  dsimp only
  rw [inside, length, if_neg (by omega), if_neg marked, if_neg (by omega), if_neg (by omega),
    begins]
  rfl

theorem Holds.looks {data : Bytes} {hello : ClientHello} (holds : Holds data hello) :
    looksLikeHello data = true := by
  rcases holds with ⟨records, rest, more, rfl, fragments⟩
  cases records with
  | nil => cases fragments
  | cons record later =>
      rw [List.flatMap_cons, List.append_assoc]
      rw [List.flatMap_cons] at fragments
      cases begins : record.fragment with
      | nil => exact absurd begins record.nonempty
      | cons byte fragment =>
          rw [begins] at fragments
          have first : byte = 0x01 := (List.cons.inj fragments).1
          exact looksLikeHello_wire record (first ▸ begins)

/-! ## What is found of a capture -/

theorem extractClientHellos_eq (capture : List Frame) :
    extractClientHellos capture = (capture.filterMap payloadOf).filter looksLikeHello := by
  have grows : forall hellos : List Bytes, capture.foldl (fun hellos frame =>
      match tcpOf frame with
      | none => hellos
      | some (_, tcp) => if looksLikeHello tcp.data then hellos ++ [tcp.data] else hellos) hellos =
        hellos ++ (capture.filterMap payloadOf).filter looksLikeHello := by
    induction capture with
    | nil => exact fun hellos => (List.append_nil hellos).symm
    | cons frame rest ih =>
        intro hellos
        rw [List.foldl_cons, ih, List.filterMap_cons]
        unfold payloadOf
        cases tcpOf frame with
        | none => rfl
        | some found =>
            dsimp only [Option.map_some]
            by_cases looks : looksLikeHello found.2.data = true
            · rw [if_pos looks, List.filter_cons_of_pos looks, List.append_assoc]
              rfl
            · rw [if_neg looks, List.filter_cons_of_neg looks]
  exact (grows []).trans (List.nil_append _)

section Flows

variable {Flow : Type} {packets : List (Packet Flow)}

/-- What is found, with the flow it is of. -/
def hellosOf (packets : List (Packet Flow)) : List (Flow × Bytes) :=
  packets.filterMap (fun packet =>
    ((payloadOf packet.frame).filter looksLikeHello).map (fun payload => (packet.flow, payload)))

theorem extract_payloads (packets : List (Packet Flow)) :
    extractClientHellos (frames packets) = (payloads packets).filter looksLikeHello := by
  rw [extractClientHellos_eq]
  unfold frames payloads
  rw [List.filterMap_map]
  rfl

theorem extract_hellosOf (packets : List (Packet Flow)) :
    extractClientHellos (frames packets) = (hellosOf packets).map Prod.snd := by
  rw [extract_payloads]
  unfold hellosOf payloads
  rw [List.filter_filterMap, List.map_filterMap]
  congr 1
  funext packet
  cases payloadOf packet.frame with
  | none => rfl
  | some payload => cases looks : looksLikeHello payload <;> simp [Option.filter, looks]

theorem mem_hellosOf {packet : Packet Flow} {payload : Bytes} (among : packet ∈ packets)
    (found : payloadOf packet.frame = some payload) (looks : looksLikeHello payload = true) :
    (packet.flow, payload) ∈ hellosOf packets := by
  apply List.mem_filterMap.mpr
  exact ⟨packet, among, by rw [found, Option.filter_some_pos looks]; rfl⟩

/-- One segment is found exactly if it alone looks like a ClientHello. -/
theorem extract_eq_singleton_iff {segment : Bytes} :
    extractClientHellos (frames packets) = [segment] <-> looksLikeHello segment = true ∧
      ∃ early late, payloads packets = early ++ segment :: late ∧
        ∀ other ∈ early ++ late, looksLikeHello other = false := by
  rw [extract_payloads, List.filter_eq_cons_iff]
  constructor
  · rintro ⟨early, late, split, before, looks, after⟩
    refine ⟨looks, early, late, split, ?_⟩
    intro other inRest
    rcases List.mem_append.mp inRest with isEarly | isLate
    · exact Bool.eq_false_iff.mpr (before other isEarly)
    · exact Bool.eq_false_iff.mpr (List.filter_eq_nil_iff.mp after other isLate)
  · rintro ⟨looks, early, late, split, rest⟩
    refine ⟨early, late, split, ?_, looks, List.filter_eq_nil_iff.mpr ?_⟩
    · intro other isEarly
      exact Bool.eq_false_iff.mp (rest other (List.mem_append_left _ isEarly))
    · intro other isLate
      exact Bool.eq_false_iff.mp (rest other (List.mem_append_right _ isLate))

/-- Only flows of `clients` are found exactly if no segment of another looks like a ClientHello. -/
theorem hellosOf_known_iff {clients : List Flow} :
    (∀ item ∈ hellosOf packets, item.1 ∈ clients) <->
      ∀ packet ∈ packets, packet.flow ∉ clients ->
        ∀ payload ∈ payloadOf packet.frame, looksLikeHello payload = false := by
  constructor
  · intro known packet among foreign payload found
    apply Bool.eq_false_iff.mpr
    intro looks
    exact foreign (known _ (mem_hellosOf among found looks))
  · intro others item among
    rcases List.mem_filterMap.mp among with ⟨packet, inCapture, seen⟩
    rcases Option.map_eq_some_iff.mp seen with ⟨payload, looks, rfl⟩
    rcases Option.filter_eq_some_iff.mp looks with ⟨read, looks⟩
    by_contra foreign
    exact Bool.eq_false_iff.mp (others packet inCapture foreign payload read) looks

variable [DecidableEq Flow]

theorem group_hellosOf (flow : Flow) (packets : List (Packet Flow)) :
    group Prod.fst flow (hellosOf packets) =
      (extractClientHellos (frames (ofFlow flow packets))).map (fun data => (flow, data)) := by
  have own : group Prod.fst flow (hellosOf packets) = hellosOf (ofFlow flow packets) := by
    apply group_filterMap
    intro packet item made
    rcases Option.map_eq_some_iff.mp made with ⟨_, _, rfl⟩
    rfl
  rw [own, extract_hellosOf, List.map_map]
  refine (List.map_id _).symm.trans (List.map_congr_left ?_)
  intro item among
  rw [← own] at among
  exact Prod.ext (mem_group.mp among).2 rfl

/-! ## The contract -/

/-- One ClientHello is found for each flow, and of the flow alone it is found too. -/
def FindsEach (clients : List Flow) (hello : Flow -> ClientHello) (packets : List (Packet Flow)) : Prop :=
  ∃ found : Flow -> Bytes, (extractClientHellos (frames packets)).Perm (clients.map found) ∧
    ∀ flow ∈ clients, extractClientHellos (frames (ofFlow flow packets)) = [found flow] ∧
      Holds (found flow) (hello flow)

/-- One segment of each flow holds its ClientHello, and no other looks like one. -/
structure InOneSegment (clients : List Flow) (hello : Flow -> ClientHello) (packets : List (Packet Flow)) :
    Prop where
  own : ∀ flow ∈ clients, ∃ early segment late,
    payloads (ofFlow flow packets) = early ++ segment :: late ∧ Holds segment (hello flow) ∧
      ∀ other ∈ early ++ late, looksLikeHello other = false
  others : ∀ packet ∈ packets, packet.flow ∉ clients ->
    ∀ payload ∈ payloadOf packet.frame, looksLikeHello payload = false

/-- Every ClientHello is found exactly when none is cut and nothing else is taken for one. -/
theorem client_hellos_are_found_iff {clients : List Flow} (distinct : clients.Nodup) (hello : Flow -> ClientHello)
    (packets : List (Packet Flow)) :
    FindsEach clients hello packets <-> InOneSegment clients hello packets := by
  constructor
  · rintro ⟨found, all, each⟩
    have count : (hellosOf packets).length = clients.length := by
      have same := all.length_eq
      rw [extract_hellosOf, List.length_map, List.length_map] at same
      exact same
    have groups : ∀ flow ∈ clients, (group Prod.fst flow (hellosOf packets)).length = 1 := by
      intro flow among
      rw [group_hellosOf, (each flow among).1]
      rfl
    refine ⟨?_, hellosOf_known_iff.mp (known_of_groups distinct groups count)⟩
    intro flow among
    rcases each flow among with ⟨own, holds⟩
    rcases extract_eq_singleton_iff.mp own with ⟨_, early, late, split, rest⟩
    exact ⟨early, found flow, late, split, holds, rest⟩
  · intro whole
    have each : forall flow, ∃ data, flow ∈ clients ->
        extractClientHellos (frames (ofFlow flow packets)) = [data] ∧ Holds data (hello flow) := by
      intro flow
      by_cases among : flow ∈ clients
      · rcases whole.own flow among with ⟨early, segment, late, split, holds, rest⟩
        have own := extract_eq_singleton_iff.mpr ⟨holds.looks, early, late, split, rest⟩
        exact ⟨segment, fun _ => ⟨own, holds⟩⟩
      · exact ⟨[], fun client => absurd client among⟩
    choose found finds using each
    refine ⟨found, ?_, finds⟩
    have one : ∀ flow ∈ clients, group Prod.fst flow (hellosOf packets) = [(flow, found flow)] := by
      intro flow among
      rw [group_hellosOf, (finds flow among).1]
      rfl
    have known := hellosOf_known_iff.mpr whole.others
    have perm := (perm_of_groups distinct known one).map Prod.snd
    rw [List.map_map] at perm
    rw [extract_hellosOf]
    exact perm

end Flows

/-! ## A ClientHello in one segment and in two -/

/-- Version, random, no session, one cipher suite and no compression. -/
def exampleHello : ClientHello where
  body := [3, 3] ++ List.replicate 32 7 ++ [0, 0, 2, 0x13, 1, 1, 0]
  short := by decide

def exampleRecord : Record where
  minor := 1
  fragment := exampleHello.wire
  nonempty := by decide
  short := by decide

theorem exampleRecord_holds (rest : Bytes) : Holds (exampleRecord.wire ++ rest) exampleHello := by
  refine ⟨[exampleRecord], rest, [], ?_, rfl⟩
  rw [List.flatMap_singleton]

def segmentFrom (sport : Nat) (data : Bytes) : Frame :=
  .ethernet (.ip ⟨[10, 0, 0, 1], [10, 0, 0, 2], .tcp ⟨sport, 443, 0, data⟩⟩)

/-- Two flows, the first of which sends more with its ClientHello, and a packet of neither. -/
def wholeHellos : List (Packet Nat) :=
  [⟨0, segmentFrom 5000 (exampleRecord.wire ++ [20, 3, 3])⟩, ⟨2, segmentFrom 443 [22, 3, 3, 0, 2, 2, 0]⟩,
    ⟨1, segmentFrom 5001 []⟩, ⟨1, segmentFrom 5001 exampleRecord.wire⟩, ⟨0, segmentFrom 5000 [0, 1, 1]⟩]

theorem whole_hellos_are_found : FindsEach [0, 1] (fun _ => exampleHello) wholeHellos := by
  apply (client_hellos_are_found_iff (by decide) _ _).mpr
  constructor
  · intro flow among
    rcases List.mem_cons.mp among with rfl | among
    · exact ⟨[], exampleRecord.wire ++ [20, 3, 3], [[0, 1, 1]], by decide +kernel, exampleRecord_holds _,
        by decide⟩
    · rcases List.mem_singleton.mp among with rfl
      refine ⟨[[]], exampleRecord.wire, [], by decide +kernel, ?_, by decide⟩
      have holds := exampleRecord_holds []
      rw [List.append_nil] at holds
      exact holds
  · decide +kernel

/-- A ClientHello in two segments, in order. -/
def cutHello : List (Packet Unit) :=
  [⟨(), segmentFrom 5000 (exampleRecord.wire.take 20)⟩, ⟨(), segmentFrom 5000 (exampleRecord.wire.drop 20)⟩]

theorem cut_hello_is_missed : Holds (payloads (ofFlow () cutHello)).flatten exampleHello ∧
    ¬ FindsEach [()] (fun _ => exampleHello) cutHello := by
  constructor
  · have whole : (payloads (ofFlow () cutHello)).flatten = exampleRecord.wire ++ [] := by decide +kernel
    rw [whole]
    exact exampleRecord_holds []
  · rintro ⟨found, all, _⟩
    have nothing : extractClientHellos (frames cutHello) = [] := by decide +kernel
    rw [nothing] at all
    exact (nomatch all.length_eq)

end Pcap
end Lkrequest
