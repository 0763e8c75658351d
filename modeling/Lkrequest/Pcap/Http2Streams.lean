import Lkrequest.Foundations.OrderedDict
import Lkrequest.Pcap.Frames
import Mathlib.Algebra.Group.Nat.Defs
import Mathlib.Data.List.Induction

namespace Lkrequest
namespace Pcap

open Foundations

/-!
# `_extract_h2_preface_and_frames`

The extractor puts together what was captured under an address pair, from the
first segment that starts with the preface on.  What it yields is the stream of
a connection exactly when this is the stream cut into segments.
-/

/-! ## The extractor -/

/-- `H2_PREFACE`. -/
def h2Preface : Bytes := "PRI * HTTP/2.0\r\n\r\nSM\r\n\r\n".toList.map (fun char => UInt8.ofNat char.toNat)

/-- The key of a stream. -/
abbrev Address := Bytes × Nat × Bytes × Nat

def addressOf (ip : Ip) (tcp : Tcp) : Address := (ip.src, tcp.sport, ip.dst, tcp.dport)

/-- What is done with a payload. -/
def keep (streams : OrderedDict Address Bytes) (key : Address) (payload : Bytes) : OrderedDict Address Bytes :=
  if payload = [] then streams
  else
    match streams.getItem key with
    | none => if h2Preface <+: payload then streams.setItem key payload else streams
    | some data => streams.setItem key (data ++ payload)

/-- `streams`, after the packets. -/
def streamsOf (capture : List Frame) : OrderedDict Address Bytes :=
  capture.foldl (fun streams frame =>
    match tcpOf frame with
    | none => streams
    | some (ip, tcp) => keep streams (addressOf ip tcp) tcp.data) OrderedDict.empty

def extractH2PrefaceAndFrames (capture : List Frame) : List Bytes :=
  ((streamsOf capture).entries.map Prod.snd).filter (fun data => data.length > h2Preface.length)

/-! ## One address pair -/

/-- The address pair of a frame. -/
def frameAddress (frame : Frame) : Option Address :=
  (tcpOf frame).map (fun found => addressOf found.1 found.2)

/-- What was captured under an address pair. -/
def under (address : Address) (capture : List Frame) : List Frame := group frameAddress (some address) capture

def payloadsUnder (address : Address) (capture : List Frame) : List Bytes :=
  (under address capture).filterMap payloadOf

/-- The segments from the first that starts with the preface on. -/
def started (segments : List Bytes) : List Bytes :=
  segments.dropWhile (fun segment => !decide (h2Preface <+: segment))

/-- The entry that segments leave. -/
def entryFor (address : Address) (segments : List Bytes) : List (Address × Bytes) :=
  if started segments = [] then [] else [(address, (started segments).flatten)]

theorem started_snoc (segments : List Bytes) (segment : Bytes) : started (segments ++ [segment]) =
    if started segments = [] then (if h2Preface <+: segment then [segment] else [])
    else started segments ++ [segment] := by
  unfold started
  rw [List.dropWhile_append]
  by_cases none : segments.dropWhile (fun segment => !decide (h2Preface <+: segment)) = []
  · rw [none, List.isEmpty_nil, if_pos rfl, if_pos rfl]
    by_cases begins : h2Preface <+: segment <;> simp [begins]
  · rw [if_neg (fun empty => none (List.isEmpty_iff.mp empty)), if_neg none]

theorem select_keep_other {address key : Address} (other : key ≠ address)
    (streams : OrderedDict Address Bytes) (payload : Bytes) :
    (keep streams key payload).select (fun each => each = address) =
      streams.select (fun each => each = address) := by
  have foreign : forall value, (streams.setItem key value).select (fun each => each = address) =
      streams.select (fun each => each = address) := by
    intro value
    apply OrderedDict.select_setItem_of_not
    exact decide_eq_false other
  unfold keep
  split
  · rfl
  · split
    · split
      · exact foreign _
      · rfl
    · exact foreign _

theorem select_keep_own {address : Address} {streams : OrderedDict Address Bytes} {segments : List Bytes}
    (kept : streams.select (fun each => each = address) = entryFor address segments) (payload : Bytes) :
    (keep streams address payload).select (fun each => each = address) =
      entryFor address (segments ++ [payload]) := by
  have sets : forall value, (streams.setItem address value).select (fun each => each = address) =
      [(address, value)] := by
    intro value
    refine OrderedDict.select_setItem_own ?_ ?_ value
    · exact decide_eq_true rfl
    · rw [kept]
      unfold entryFor
      split
      · exact Or.inl rfl
      · exact Or.inr ⟨_, rfl⟩
  have there := streams.getItem_eq_select address
  rw [kept] at there
  unfold keep
  unfold entryFor at kept there ⊢
  rw [started_snoc]
  by_cases empty : payload = []
  · subst empty
    rw [if_pos rfl, kept]
    by_cases none : started segments = []
    · rw [if_pos none, if_pos none]
      rfl
    · rw [if_neg none, if_neg none, if_neg (List.append_ne_nil_of_left_ne_nil none _), List.flatten_append]
      rw [List.flatten_singleton, List.append_nil]
  · rw [if_neg empty]
    by_cases none : started segments = []
    · rw [if_pos none] at there kept ⊢
      rw [there]
      dsimp only [List.head?_nil, Option.map_none]
      by_cases begins : h2Preface <+: payload
      · rw [if_pos begins, if_pos begins, if_neg (List.cons_ne_nil _ _), sets, List.flatten_singleton]
      · rw [if_neg begins, if_neg begins, if_pos rfl, kept]
    · rw [if_neg none] at there ⊢
      rw [there]
      dsimp only [List.head?_cons, Option.map_some]
      rw [sets, if_neg (List.append_ne_nil_of_left_ne_nil none _), List.flatten_append, List.flatten_singleton]

theorem payloadsUnder_snoc (address : Address) (capture : List Frame) (frame : Frame) :
    payloadsUnder address (capture ++ [frame]) = payloadsUnder address capture ++
      (if frameAddress frame = some address then (payloadOf frame).toList else []) := by
  unfold payloadsUnder under
  rw [group_append, List.filterMap_append, group_singleton]
  congr 1
  split
  · rw [List.filterMap_cons]
    cases payloadOf frame <;> rfl
  · rfl

theorem select_streamsOf (address : Address) (capture : List Frame) :
    (streamsOf capture).select (fun each => each = address) =
      entryFor address (payloadsUnder address capture) := by
  induction capture using List.reverseRecOn with
  | nil => rfl
  | append_singleton capture frame ih =>
      rw [payloadsUnder_snoc]
      unfold streamsOf frameAddress payloadOf at *
      rw [List.foldl_append, List.foldl_cons, List.foldl_nil]
      cases tcpOf frame with
      | none =>
          rw [Option.map_none, if_neg nofun, List.append_nil]
          exact ih
      | some found =>
          rw [Option.map_some, Option.map_some]
          by_cases same : addressOf found.1 found.2 = address
          · rw [if_pos (congrArg some same), ← same]
            exact select_keep_own (same ▸ ih) _
          · rw [if_neg (fun equal => same (Option.some.inj equal)), List.append_nil]
            exact (select_keep_other same _ _).trans ih

/-- A stream is of an address pair that a frame has. -/
theorem streamsOf_known {entry : Address × Bytes} {capture : List Frame}
    (among : entry ∈ (streamsOf capture).entries) : ∃ frame ∈ capture, frameAddress frame = some entry.1 := by
  have selected : entry ∈ (streamsOf capture).select (fun each => each = entry.1) :=
    List.mem_filter.mpr ⟨among, decide_eq_true rfl⟩
  rw [select_streamsOf] at selected
  by_contra unknown
  have nothing : under entry.1 capture = [] := by
    apply List.filter_eq_nil_iff.mpr
    intro frame inCapture found
    exact unknown ⟨frame, inCapture, of_decide_eq_true found⟩
  unfold payloadsUnder at selected
  rw [nothing] at selected
  exact absurd selected List.not_mem_nil

/-- What is yielded of segments. -/
def yielded (segments : List Bytes) : List Bytes :=
  if h2Preface.length < (started segments).flatten.length then [(started segments).flatten] else []

theorem entryFor_yielded (address : Address) (segments : List Bytes) :
    (entryFor address segments).filter (fun entry => entry.2.length > h2Preface.length) =
      (yielded segments).map (fun data => (address, data)) := by
  unfold entryFor yielded
  by_cases none : started segments = []
  · rw [if_pos none, none]
    rfl
  · rw [if_neg none]
    generalize (started segments).flatten = data
    by_cases long : h2Preface.length < data.length <;> simp [long]

/-- The streams that are yielded, with their address pairs. -/
def yieldedEntries (capture : List Frame) : List (Address × Bytes) :=
  (streamsOf capture).entries.filter (fun entry => entry.2.length > h2Preface.length)

theorem extract_yieldedEntries (capture : List Frame) :
    extractH2PrefaceAndFrames capture = (yieldedEntries capture).map Prod.snd := by
  unfold extractH2PrefaceAndFrames yieldedEntries
  rw [List.filter_map]
  rfl

theorem group_yieldedEntries (address : Address) (capture : List Frame) :
    group Prod.fst address (yieldedEntries capture) =
      (yielded (payloadsUnder address capture)).map (fun data => (address, data)) := by
  unfold yieldedEntries
  rw [group_filter, ← entryFor_yielded, ← select_streamsOf]
  rfl

/-- Of one address pair alone there is one stream at most. -/
theorem extract_under (address : Address) (capture : List Frame) :
    extractH2PrefaceAndFrames (under address capture) = yielded (payloadsUnder address capture) := by
  have own : group Prod.fst address (yieldedEntries (under address capture)) =
      yieldedEntries (under address capture) := by
    apply List.filter_eq_self.mpr
    intro entry among
    rcases streamsOf_known (List.mem_filter.mp among).1 with ⟨frame, inGroup, found⟩
    exact decide_eq_true (Option.some.inj (found.symm.trans (mem_group.mp inGroup).2))
  have same : payloadsUnder address (under address capture) = payloadsUnder address capture := by
    unfold payloadsUnder under
    rw [group_group]
  rw [extract_yieldedEntries, ← own, group_yieldedEntries, same, List.map_map]
  exact List.map_id _

/-! ## The contract -/

/-- A cleartext connection, with what the client sends. -/
structure Connection where
  address : Address
  stream : Bytes
  begins : h2Preface <+: stream
  more : h2Preface.length < stream.length

/-- The streams of the connections are yielded, and of one address pair alone
those of the connections that have it. -/
structure YieldsEach (connections : List Connection) (capture : List Frame) : Prop where
  all : (extractH2PrefaceAndFrames capture).Perm (connections.map Connection.stream)
  own : forall address, (extractH2PrefaceAndFrames (under address capture)).Perm
    ((group Connection.address address connections).map Connection.stream)

/-- The first segment that starts with the preface, with those before and after it. -/
structure Starts (segments early : List Bytes) (first : Bytes) (late : List Bytes) : Prop where
  split : segments = early ++ first :: late
  before : ∀ other ∈ early, ¬ h2Preface <+: other
  begins : h2Preface <+: first

/-- The stream is cut into segments, of which the first holds the preface. -/
def InOrder (segments : List Bytes) (stream : Bytes) : Prop :=
  ∃ early first late, Starts segments early first late ∧ first ++ late.flatten = stream

/-- Nothing comes after a preface. -/
def Silent (segments : List Bytes) : Prop :=
  forall early first late, Starts segments early first late -> first ++ late.flatten = h2Preface

/-- No two connections have one address pair, each has its stream in order under
it, and nothing else is captured that starts with the preface. -/
structure Undisturbed (connections : List Connection) (capture : List Frame) : Prop where
  distinct : (connections.map Connection.address).Nodup
  inOrder : ∀ connection ∈ connections,
    InOrder (payloadsUnder connection.address capture) connection.stream
  silent : forall address, address ∉ connections.map Connection.address ->
    Silent (payloadsUnder address capture)

theorem Starts.started {segments early late : List Bytes} {first : Bytes}
    (starts : Starts segments early first late) : started segments = first :: late := by
  unfold Pcap.started
  rw [starts.split, List.dropWhile_append_of_pos]
  · exact List.dropWhile_cons_of_neg (by simp [starts.begins])
  · intro other among
    simp [starts.before other among]

theorem starts_of_started {segments late : List Bytes} {first : Bytes}
    (same : started segments = first :: late) : ∃ early, Starts segments early first late := by
  unfold Pcap.started at same
  induction segments with
  | nil => exact (nomatch same)
  | cons segment rest ih =>
      by_cases begins : h2Preface <+: segment
      · rw [List.dropWhile_cons_of_neg (by simp [begins])] at same
        rcases List.cons.inj same with ⟨rfl, rfl⟩
        exact ⟨[], rfl, nofun, begins⟩
      · rw [List.dropWhile_cons_of_pos (by simp [begins])] at same
        rcases ih same with ⟨early, starts⟩
        refine ⟨segment :: early, congrArg _ starts.split, ?_, starts.begins⟩
        exact List.forall_mem_cons.mpr ⟨begins, starts.before⟩

theorem inOrder_iff (segments : List Bytes) (connection : Connection) :
    InOrder segments connection.stream <-> yielded segments = [connection.stream] := by
  unfold yielded
  constructor
  · rintro ⟨early, first, late, starts, whole⟩
    rw [starts.started, List.flatten_cons, whole, if_pos connection.more]
  · intro same
    split at same
    · cases all : started segments with
      | nil =>
          rw [all] at same
          have empty : [] = connection.stream := (List.cons.inj same).1
          have more := connection.more
          rw [← empty] at more
          exact absurd more (Nat.not_lt_zero _)
      | cons first late =>
          rcases starts_of_started all with ⟨early, starts⟩
          rw [all] at same
          exact ⟨early, first, late, starts, (List.cons.inj same).1⟩
    · exact (nomatch same)

theorem silent_iff (segments : List Bytes) : Silent segments <-> yielded segments = [] := by
  unfold yielded
  constructor
  · intro silent
    apply if_neg
    cases all : started segments with
    | nil => exact Nat.not_lt_zero _
    | cons first late =>
        rcases starts_of_started all with ⟨early, starts⟩
        rw [List.flatten_cons, silent early first late starts]
        exact Nat.lt_irrefl _
  · intro none early first late starts
    rw [starts.started, List.flatten_cons] at none
    split at none
    · exact (nomatch none)
    case isFalse short =>
      have begins : h2Preface <+: first ++ late.flatten := starts.begins.trans (List.prefix_append _ _)
      exact (begins.eq_of_length_le (Nat.le_of_not_lt short)).symm

theorem yielded_short (segments : List Bytes) : (yielded segments).length ≤ 1 := by
  unfold yielded
  split
  · exact Nat.le_refl 1
  · exact Nat.zero_le 1

/-- Under every address pair what is yielded is as of the connections that have it. -/
theorem Undisturbed.each {connections : List Connection} {capture : List Frame}
    (undisturbed : Undisturbed connections capture) (address : Address) :
    yielded (payloadsUnder address capture) =
      (group Connection.address address connections).map Connection.stream := by
  by_cases used : address ∈ connections.map Connection.address
  · rcases List.mem_map.mp used with ⟨connection, among, rfl⟩
    rw [group_of_distinct undisturbed.distinct among]
    exact (inOrder_iff _ connection).mp (undisturbed.inOrder connection among)
  · rw [group_of_unused used]
    exact (silent_iff _).mp (undisturbed.silent address used)

theorem Undisturbed.all {connections : List Connection} {capture : List Frame}
    (undisturbed : Undisturbed connections capture) :
    (extractH2PrefaceAndFrames capture).Perm (connections.map Connection.stream) := by
  have groups : forall address, group Prod.fst address (yieldedEntries capture) =
      ((group Connection.address address connections).map Connection.stream).map
        (fun data => (address, data)) := by
    intro address
    rw [group_yieldedEntries, undisturbed.each]
  have known : ∀ entry ∈ yieldedEntries capture, entry.1 ∈ connections.map Connection.address := by
    intro entry among
    have own : entry ∈ group Prod.fst entry.1 (yieldedEntries capture) := mem_group.mpr ⟨among, rfl⟩
    rw [groups, List.map_map] at own
    rcases List.mem_map.mp own with ⟨connection, inGroup, _⟩
    rcases mem_group.mp inGroup with ⟨among, same⟩
    exact List.mem_map.mpr ⟨connection, among, same⟩
  have entries := perm_groups undisturbed.distinct known
  have whole : (connections.map Connection.address).flatMap
      (fun address => group Prod.fst address (yieldedEntries capture)) =
        connections.map (fun connection => (connection.address, connection.stream)) := by
    rw [List.flatMap_map, List.map_eq_flatMap]
    apply List.flatMap_congr
    intro connection among
    rw [groups, group_of_distinct undisturbed.distinct among]
    rfl
  rw [whole] at entries
  rw [extract_yieldedEntries]
  have streams := entries.map Prod.snd
  rw [List.map_map] at streams
  exact streams

/-- The streams are yielded exactly when no preface is cut, nothing is captured
twice and no address pair is used again. -/
theorem h2_streams_are_yielded_iff (connections : List Connection) (capture : List Frame) :
    YieldsEach connections capture <-> Undisturbed connections capture := by
  constructor
  · intro yields
    have own : forall address, (yielded (payloadsUnder address capture)).Perm
        ((group Connection.address address connections).map Connection.stream) := by
      intro address
      rw [← extract_under]
      exact yields.own address
    have distinct : (connections.map Connection.address).Nodup := by
      apply distinct_iff.mpr
      intro address
      have short := yielded_short (payloadsUnder address capture)
      rw [(own address).length_eq, List.length_map] at short
      exact short
    refine ⟨distinct, ?_, ?_⟩
    · intro connection among
      have streams := own connection.address
      rw [group_of_distinct distinct among] at streams
      exact (inOrder_iff _ connection).mpr (List.perm_singleton.mp streams)
    · intro address foreign
      have streams := own address
      rw [group_of_unused foreign] at streams
      exact (silent_iff _).mpr streams.eq_nil
  · intro undisturbed
    refine ⟨undisturbed.all, ?_⟩
    intro address
    rw [extract_under, undisturbed.each]

/-! ## Segments with sequence numbers -/

/-- The segments of a client, captured after those that were sent: each is the
next of the stream, or one that was sent again. -/
inductive Carries (start : Nat) : List Tcp -> List Tcp -> Bytes -> Prop
  | done (sent : List Tcp) : Carries start sent [] (sent.flatMap Tcp.data)
  | next {sent rest : List Tcp} {segment : Tcp} {stream : Bytes}
      (placed : segment.seq = (start + (sent.flatMap Tcp.data).length) % 2 ^ 32)
      (later : Carries start (sent ++ [segment]) rest stream) : Carries start sent (segment :: rest) stream
  | again {sent rest : List Tcp} {segment : Tcp} {stream : Bytes} (before : segment ∈ sent)
      (later : Carries start sent rest stream) : Carries start sent (segment :: rest) stream

theorem Carries.length_le {start : Nat} {sent segments : List Tcp} {stream : Bytes}
    (carries : Carries start sent segments stream) :
    stream.length ≤ ((sent ++ segments).flatMap Tcp.data).length := by
  induction carries with
  | done sent => exact Nat.le_of_eq (congrArg (fun all => (all.flatMap Tcp.data).length) (List.append_nil sent).symm)
  | @next sent rest segment stream placed later ih =>
      rw [List.append_cons]
      exact ih
  | @again sent rest segment stream before later ih =>
      simp only [List.flatMap_append, List.flatMap_cons, List.length_append] at ih ⊢
      omega

/-- When no data was captured twice, the segments are the stream. -/
theorem Carries.whole {start : Nat} {sent segments : List Tcp} {stream : Bytes}
    (carries : Carries start sent segments stream)
    (once : ((sent ++ segments).flatMap Tcp.data).length = stream.length) :
    (sent ++ segments).flatMap Tcp.data = stream := by
  induction carries with
  | done sent => rw [List.append_nil]
  | @next sent rest segment stream placed later ih =>
      rw [List.append_cons] at once ⊢
      exact ih once
  | @again sent rest segment stream before later ih =>
      have longer := later.length_le
      simp only [List.flatMap_append, List.flatMap_cons, List.length_append] at longer once ih ⊢
      have empty : segment.data = [] := List.eq_nil_of_length_eq_zero (by omega)
      rw [empty, List.nil_append]
      exact ih (by omega)

/-- With the preface in the first segment that has data, a stream is in order
exactly when none of its data was captured twice. -/
theorem Carries.inOrder_iff {start : Nat} {empty late : List Tcp} {first : Tcp} {stream : Bytes}
    (carries : Carries start [] (empty ++ first :: late) stream) (silent : ∀ segment ∈ empty, segment.data = [])
    (begins : h2Preface <+: first.data) :
    InOrder ((empty ++ first :: late).map Tcp.data) stream <->
      ((empty ++ first :: late).flatMap Tcp.data).length = stream.length := by
  have nothing : empty.flatMap Tcp.data = [] := List.flatMap_eq_nil_iff.mpr silent
  have starts : Starts ((empty ++ first :: late).map Tcp.data) (empty.map Tcp.data) first.data
      (late.map Tcp.data) := by
    refine ⟨List.map_append, ?_, begins⟩
    intro other among begins
    rcases List.mem_map.mp among with ⟨segment, inFront, rfl⟩
    rw [silent segment inFront, List.prefix_nil] at begins
    exact (nomatch begins)
  have spelled : (empty ++ first :: late).flatMap Tcp.data = first.data ++ (late.map Tcp.data).flatten := by
    rw [List.flatMap_append, nothing, List.flatMap_cons, List.nil_append, List.flatMap_def]
  constructor
  · rintro ⟨early, head, tail, own, whole⟩
    rcases List.cons.inj (starts.started.symm.trans own.started) with ⟨rfl, rfl⟩
    rw [spelled, whole]
  · intro once
    have whole := carries.whole once
    rw [List.nil_append, spelled] at whole
    exact ⟨_, _, _, starts, whole⟩

/-! ## Captures that spoil a stream -/

/-- The preface and an empty `SETTINGS` frame. -/
def exampleConnection : Connection where
  address := ([10, 0, 0, 1], 5000, [10, 0, 0, 2], 80)
  stream := h2Preface ++ [0, 0, 0, 4, 0, 0, 0, 0, 0]
  begins := List.prefix_append _ _
  more := by decide +kernel

/-- A segment of it. -/
def exampleSegment (offset length : Nat) : Tcp :=
  ⟨5000, 80, offset, (exampleConnection.stream.drop offset).take length⟩

def capturedAs (segments : List Tcp) : List Frame :=
  segments.map (fun segment => .ethernet (.ip ⟨[10, 0, 0, 1], [10, 0, 0, 2], .tcp segment⟩))

example : extractH2PrefaceAndFrames (capturedAs [exampleSegment 0 24, exampleSegment 24 9]) =
    [exampleConnection.stream] := by decide +kernel

/-- The preface in two segments, a segment that was sent again, and two
connections one after the other under one address pair. -/
theorem spoiled_streams :
    (Carries 0 [] [exampleSegment 0 10, exampleSegment 10 23] exampleConnection.stream ∧
      ¬ YieldsEach [exampleConnection] (capturedAs [exampleSegment 0 10, exampleSegment 10 23])) ∧
    (Carries 0 [] [exampleSegment 0 24, exampleSegment 24 9, exampleSegment 24 9] exampleConnection.stream ∧
      ¬ YieldsEach [exampleConnection]
        (capturedAs [exampleSegment 0 24, exampleSegment 24 9, exampleSegment 24 9])) ∧
    ¬ YieldsEach [exampleConnection, exampleConnection]
      (capturedAs [exampleSegment 0 33, exampleSegment 0 33]) := by
  refine ⟨⟨?_, ?_⟩, ⟨?_, ?_⟩, ?_⟩
  · exact .next (by decide +kernel) (.next (by decide +kernel) (.done _))
  · intro yields
    have streams := yields.all
    have nothing : extractH2PrefaceAndFrames (capturedAs [exampleSegment 0 10, exampleSegment 10 23]) = [] := by
      decide +kernel
    rw [nothing] at streams
    exact (nomatch streams.length_eq)
  · exact .next (by decide +kernel) (.next (by decide +kernel) (.again (by decide +kernel) (.done _)))
  · intro yields
    have streams := List.perm_singleton.mp yields.all
    exact absurd streams (by decide +kernel)
  · intro yields
    have count := yields.all.length_eq
    exact absurd count (by decide +kernel)

end Pcap
end Lkrequest
