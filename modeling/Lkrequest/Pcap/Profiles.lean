import Lkrequest.Pcap.ClientHellos
import Lkrequest.Pcap.Http2Streams

namespace Lkrequest
namespace Pcap

open Foundations

/-!
# `profiles_from_pcap`

The capture is read twice, once for the ClientHellos and once for the HTTP/2
streams.  Every ClientHello that parses becomes a profile, under a name with its
number when there are several; the HTTP/2 profile is that of one stream, and all
TLS profiles get it.
-/

/-- `TlsProfile.from_client_hello` and `H2Profile.from_h2_frames`; nothing where they raise. -/
structure Parsers (Tls H2 : Type) where
  fromClientHello : Bytes -> String -> Option Tls
  fromH2Frames : Bytes -> Option H2

/-- The name of a profile, of the `i`-th ClientHello among `hellos`. -/
def suffixed (name : String) (hellos i : Nat) : String :=
  name ++ (if hellos > 1 then "_" ++ toString i else "")

section Profiles

variable {Tls H2 : Type} (parsers : Parsers Tls H2)

def h2ProfileOf (capture : List Frame) : Option H2 :=
  match extractH2PrefaceAndFrames capture with
  | [] => none
  | data :: _ => parsers.fromH2Frames data

def profilesFromPcap (capture : List Frame) (name : String) : List (Tls × Option H2) :=
  let hellos := extractClientHellos capture
  let h2Profile := h2ProfileOf parsers capture
  hellos.zipIdx.foldl (fun results entry =>
    match parsers.fromClientHello entry.1 (suffixed name hellos.length entry.2) with
    | some tls => results ++ [(tls, h2Profile)]
    | none => results) []

theorem profilesFromPcap_eq (capture : List Frame) (name : String) :
    profilesFromPcap parsers capture name =
      (extractClientHellos capture).zipIdx.filterMap (fun entry =>
        (parsers.fromClientHello entry.1 (suffixed name (extractClientHellos capture).length entry.2)).map
          (fun tls => (tls, h2ProfileOf parsers capture))) := by
  unfold profilesFromPcap
  dsimp only
  generalize (extractClientHellos capture).length = count
  have grows : forall (entries : List (Bytes × Nat)) (results : List (Tls × Option H2)),
      entries.foldl (fun results entry =>
        match parsers.fromClientHello entry.1 (suffixed name count entry.2) with
        | some tls => results ++ [(tls, h2ProfileOf parsers capture)]
        | none => results) results =
      results ++ entries.filterMap (fun entry =>
        (parsers.fromClientHello entry.1 (suffixed name count entry.2)).map
          (fun tls => (tls, h2ProfileOf parsers capture))) := by
    intro entries
    induction entries with
    | nil => exact fun results => (List.append_nil results).symm
    | cons entry rest ih =>
        intro results
        rw [List.foldl_cons, ih, List.filterMap_cons]
        cases parsers.fromClientHello entry.1 (suffixed name count entry.2) with
        | none => rfl
        | some tls => exact List.append_assoc ..
  exact (grows _ []).trans (List.nil_append _)

/-! ## Names -/

theorem toString_injective {i j : Nat} (same : toString i = toString j) : i = j := by
  have digits := congrArg String.toList same
  change (Nat.repr i).toList = (Nat.repr j).toList at digits
  rw [Nat.toList_repr, Nat.toList_repr] at digits
  have number : Nat.ofDigitChars 10 (Nat.toDigits 10 i) 0 = Nat.ofDigitChars 10 (Nat.toDigits 10 j) 0 :=
    congrArg (fun list => Nat.ofDigitChars 10 list 0) digits
  rw [Nat.ofDigitChars_ten_toDigits, Nat.ofDigitChars_ten_toDigits] at number
  exact number

/-- No two profiles of a capture have the same name. -/
theorem suffixed_injective {name : String} {hellos i j : Nat} (first : i < hellos) (second : j < hellos)
    (same : suffixed name hellos i = suffixed name hellos j) : i = j := by
  unfold suffixed at same
  by_cases several : hellos > 1
  · rw [if_pos several, if_pos several] at same
    have parts := congrArg String.toList same
    rw [String.toList_append, String.toList_append, String.toList_append, String.toList_append] at parts
    have numbers := List.append_cancel_left (List.append_cancel_left parts)
    exact toString_injective (String.toList_inj.mp numbers)
  · omega

/-! ## The HTTP/2 stream that is taken -/

/-- The address pair of a segment that starts with the preface. -/
def opener (frame : Frame) : Option Address :=
  (tcpOf frame).bind (fun found =>
    if h2Preface <+: found.2.data then some (addressOf found.1 found.2) else none)

theorem h2Preface_ne_nil : h2Preface ≠ [] := by decide

theorem keys_keep (streams : OrderedDict Address Bytes) (key : Address) (payload : Bytes) :
    (keep streams key payload).entries.map Prod.fst =
      if h2Preface <+: payload ∧ key ∉ streams.entries.map Prod.fst then streams.entries.map Prod.fst ++ [key]
      else streams.entries.map Prod.fst := by
  unfold keep
  by_cases empty : payload = []
  · have no : ¬ (h2Preface <+: payload ∧ key ∉ streams.entries.map Prod.fst) := by
      rintro ⟨begins, -⟩
      rw [empty] at begins
      exact h2Preface_ne_nil (List.prefix_nil.mp begins)
    rw [if_pos empty, if_neg no]
  · rw [if_neg empty]
    cases there : streams.getItem key with
    | none =>
        have absent := OrderedDict.getItem_eq_none_iff.mp there
        dsimp only
        by_cases begins : h2Preface <+: payload
        · rw [if_pos begins, if_pos ⟨begins, absent⟩]
          change (OrderedDict.setEntry key payload streams.entries).map Prod.fst = _
          rw [OrderedDict.keys_setEntry, if_neg absent]
        · rw [if_neg begins, if_neg (fun both => begins both.1)]
    | some data =>
        have known : key ∈ streams.entries.map Prod.fst := by
          by_contra absent
          rw [OrderedDict.getItem_eq_none_iff.mpr absent] at there
          cases there
        dsimp only
        rw [if_neg (fun both => both.2 known)]
        change (OrderedDict.setEntry key (data ++ payload) streams.entries).map Prod.fst = _
        rw [OrderedDict.keys_setEntry, if_pos known]

theorem streamsOf_snoc (capture : List Frame) (frame : Frame) : streamsOf (capture ++ [frame]) =
    match tcpOf frame with
    | none => streamsOf capture
    | some (ip, tcp) => keep (streamsOf capture) (addressOf ip tcp) tcp.data := by
  unfold streamsOf
  rw [List.foldl_append]
  rfl

theorem eraseDups_snoc (addresses : List Address) (address : Address) :
    (addresses ++ [address]).eraseDups =
      if address ∉ addresses then addresses.eraseDups ++ [address] else addresses.eraseDups := by
  rw [List.eraseDups_append]
  by_cases known : address ∈ addresses
  · have gone : [address].removeAll addresses = [] := by simp [List.removeAll, known]
    rw [if_neg (not_not.mpr known), gone, List.eraseDups_nil, List.append_nil]
  · have kept : [address].removeAll addresses = [address] := by simp [List.removeAll, known]
    rw [if_pos known, kept]
    rfl

/-- The streams are in the order in which their prefaces were captured. -/
theorem keys_streamsOf (capture : List Frame) :
    (streamsOf capture).entries.map Prod.fst = (capture.filterMap opener).eraseDups := by
  induction capture using List.reverseRecOn with
  | nil => rfl
  | append_singleton capture frame ih =>
      rw [streamsOf_snoc, List.filterMap_append]
      cases read : tcpOf frame with
      | none =>
          have closed : [frame].filterMap opener = [] := by simp [opener, read]
          rw [closed, List.append_nil]
          exact ih
      | some found =>
          dsimp only
          rw [keys_keep, ih]
          by_cases begins : h2Preface <+: found.2.data
          · have opened : [frame].filterMap opener = [addressOf found.1 found.2] := by
              simp [opener, read, begins]
            rw [opened, eraseDups_snoc]
            simp only [begins, true_and, List.mem_eraseDups]
          · have closed : [frame].filterMap opener = [] := by simp [opener, read, begins]
            rw [closed, List.append_nil, if_neg (fun both => begins both.1)]

/-- The streams that are yielded, address pair by address pair. -/
theorem extract_in_order (capture : List Frame) :
    extractH2PrefaceAndFrames capture =
      (capture.filterMap opener).eraseDups.flatMap (fun address => yielded (payloadsUnder address capture)) := by
  rw [extract_yieldedEntries, ← keys_streamsOf]
  unfold yieldedEntries
  rw [← OrderedDict.flatMap_select_keys (streamsOf capture), List.filter_flatMap, List.map_flatMap]
  rw [OrderedDict.flatMap_select_keys]
  apply List.flatMap_congr
  intro address _
  rw [select_streamsOf, entryFor_yielded, List.map_map]
  exact List.map_id _

/-- The HTTP/2 profile is of the first stream that has more than the preface. -/
theorem h2ProfileOf_eq (capture : List Frame) : h2ProfileOf parsers capture =
    ((capture.filterMap opener).eraseDups.flatMap
      (fun address => yielded (payloadsUnder address capture))).head?.bind parsers.fromH2Frames := by
  rw [← extract_in_order]
  unfold h2ProfileOf
  cases extractH2PrefaceAndFrames capture <;> rfl

end Profiles

/-! ## What is returned -/

section Clients

variable {Flow : Type} {clients : List Flow} {packets : List (Packet Flow)}

/-- A packet whose payload looks like a ClientHello. -/
def Packet.isHello (packet : Packet Flow) : Bool := (payloadOf packet.frame).any looksLikeHello

/-- The flows of the packets that look like ClientHellos, in the order of the capture. -/
def helloFlows (packets : List (Packet Flow)) : List Flow :=
  (packets.filter Packet.isHello).map Packet.flow

theorem hellosOf_flows (packets : List (Packet Flow)) :
    (hellosOf packets).map Prod.fst = helloFlows packets := by
  unfold helloFlows
  induction packets with
  | nil => rfl
  | cons packet rest ih =>
      unfold hellosOf at ih ⊢
      rw [List.filterMap_cons]
      cases read : payloadOf packet.frame with
      | none =>
          have no : ¬ packet.isHello = true := by simp [Packet.isHello, read]
          rw [List.filter_cons_of_neg no]
          exact ih
      | some payload =>
          by_cases looks : looksLikeHello payload = true
          · have yes : packet.isHello = true := by simp [Packet.isHello, read, looks]
            rw [List.filter_cons_of_pos yes, Option.filter_some_pos looks]
            exact congrArg (packet.flow :: ·) ih
          · have no : ¬ packet.isHello = true := by simp [Packet.isHello, read, looks]
            rw [List.filter_cons_of_neg no, Option.filter_some_neg (Bool.eq_false_iff.mpr looks)]
            exact ih

variable [DecidableEq Flow]

/-- What is found of a flow alone. -/
def foundOf (packets : List (Packet Flow)) (flow : Flow) : Bytes :=
  (extractClientHellos (frames (ofFlow flow packets))).headD []

theorem InOneSegment.foundOf {hello : Flow -> ClientHello} (whole : InOneSegment clients hello packets)
    {flow : Flow} (among : flow ∈ clients) :
    extractClientHellos (frames (ofFlow flow packets)) = [foundOf packets flow] ∧
      Holds (foundOf packets flow) (hello flow) := by
  rcases whole.own flow among with ⟨early, segment, late, split, holds, rest⟩
  have own := extract_eq_singleton_iff.mpr ⟨holds.looks, early, late, split, rest⟩
  unfold Pcap.foundOf
  rw [own]
  exact ⟨rfl, holds⟩

/-- One ClientHello is found for each client, and it is the client's own. -/
theorem InOneSegment.hellosOf_perm {hello : Flow -> ClientHello} (whole : InOneSegment clients hello packets)
    (distinct : clients.Nodup) :
    (hellosOf packets).Perm (clients.map (fun flow => (flow, Pcap.foundOf packets flow))) := by
  refine perm_of_groups distinct (hellosOf_known_iff.mpr whole.others) ?_
  intro flow among
  rw [group_hellosOf, (whole.foundOf among).1]
  rfl

theorem InOneSegment.extract_eq {hello : Flow -> ClientHello} (whole : InOneSegment clients hello packets)
    (distinct : clients.Nodup) :
    extractClientHellos (frames packets) = (helloFlows packets).map (Pcap.foundOf packets) := by
  rw [extract_hellosOf, ← hellosOf_flows, List.map_map]
  apply List.map_congr_left
  intro entry among
  rcases List.mem_map.mp ((whole.hellosOf_perm distinct).mem_iff.mp among) with ⟨flow, -, rfl⟩
  rfl

theorem InOneSegment.helloFlows_perm {hello : Flow -> ClientHello} (whole : InOneSegment clients hello packets)
    (distinct : clients.Nodup) : (helloFlows packets).Perm clients := by
  have perm := (whole.hellosOf_perm distinct).map Prod.fst
  rw [hellosOf_flows, List.map_map] at perm
  have same : clients.map (Prod.fst ∘ fun flow => (flow, Pcap.foundOf packets flow)) = clients :=
    List.map_id _
  rw [same] at perm
  exact perm

/-- When each ClientHello is in one segment and nothing else is taken for one,
there is a profile for each client whose ClientHello parses: they come in the
order in which the ClientHellos were captured and under names of their own,
which say how many ClientHellos came before, and all have the HTTP/2 profile of
the stream whose preface was captured first, whosever it is. -/
theorem clients_get_their_profiles {Tls H2 : Type} (parsers : Parsers Tls H2) (distinct : clients.Nodup)
    (hello : Flow -> ClientHello) (whole : InOneSegment clients hello packets) (name : String) :
    (helloFlows packets).Perm clients ∧
    (forall i j : Nat, i < clients.length -> j < clients.length ->
      suffixed name clients.length i = suffixed name clients.length j -> i = j) ∧
    ∃ found : Flow -> Bytes,
      (∀ flow ∈ clients, extractClientHellos (frames (ofFlow flow packets)) = [found flow] ∧
        Holds (found flow) (hello flow)) ∧
      profilesFromPcap parsers (frames packets) name = (helloFlows packets).zipIdx.filterMap (fun entry =>
        (parsers.fromClientHello (found entry.1) (suffixed name clients.length entry.2)).map (fun tls =>
          (tls, ((((frames packets).filterMap opener).eraseDups.flatMap
            (fun address => yielded (payloadsUnder address (frames packets)))).head?).bind
              parsers.fromH2Frames))) := by
  have perm := whole.helloFlows_perm distinct
  have counted : (extractClientHellos (frames packets)).length = clients.length := by
    rw [whole.extract_eq distinct, List.length_map, perm.length_eq]
  refine ⟨perm, fun i j first second => suffixed_injective first second, foundOf packets,
    fun flow among => whole.foundOf among, ?_⟩
  rw [profilesFromPcap_eq, counted, whole.extract_eq distinct, List.zipIdx_map, List.filterMap_map,
    ← h2ProfileOf_eq]
  rfl

/-- What a parser is given stands for the profile. -/
def plainParsers : Parsers (Bytes × String) Bytes where
  fromClientHello := fun data name => some (data, name)
  fromH2Frames := fun data => some data

/-- Two clients, and between them a connection in cleartext. -/
def twoClients : List (Packet Nat) :=
  [⟨0, segmentFrom 5000 (exampleRecord.wire ++ [20, 3, 3])⟩, ⟨2, segmentFrom 5002 (h2Preface ++ [0])⟩,
    ⟨1, segmentFrom 5001 (exampleRecord.wire ++ [])⟩, ⟨0, segmentFrom 5000 [0, 1, 1]⟩]

theorem twoClients_inOneSegment : InOneSegment [0, 1] (fun _ => exampleHello) twoClients := by
  constructor
  · intro flow among
    rcases List.mem_cons.mp among with rfl | among
    · exact ⟨[], exampleRecord.wire ++ [20, 3, 3], [[0, 1, 1]], by decide +kernel, exampleRecord_holds _,
        by decide⟩
    · rcases List.mem_singleton.mp among with rfl
      exact ⟨[], exampleRecord.wire ++ [], [], by decide +kernel, exampleRecord_holds _, by decide⟩
  · decide +kernel

theorem clients_get_their_profiles_in_two_flows :
    helloFlows twoClients = [0, 1] ∧
    (profilesFromPcap plainParsers (frames twoClients) "capture").map
        (fun profile => (profile.1.2, profile.2)) =
      [("capture_0", some (h2Preface ++ [0])), ("capture_1", some (h2Preface ++ [0]))] ∧
    ∃ found : Nat -> Bytes, (∀ flow ∈ [0, 1], Holds (found flow) exampleHello) ∧
      (profilesFromPcap plainParsers (frames twoClients) "capture").map (fun profile => profile.1.1) =
        [found 0, found 1] := by
  have order : helloFlows twoClients = [0, 1] := by decide +kernel
  refine ⟨order, by decide +kernel, ?_⟩
  rcases clients_get_their_profiles plainParsers (by decide) _ twoClients_inOneSegment "capture" with
    ⟨_, _, found, each, profiles⟩
  refine ⟨found, fun flow among => (each flow among).2, ?_⟩
  rw [profiles, order]
  rfl

end Clients

end Pcap
end Lkrequest
