import Lkrequest.Metrics.Updates

namespace Lkrequest
namespace Metrics

open Foundations

/-!
# What a scrape reads

A scrape reads one location after the other: the totals without the mutex, then
host by host what is in the map, which nobody changes meanwhile.  Every value was
the value of its location when it was read.
-/

/-! ## The order of the reads -/

/-- The host and its entry, where a location is one of a host. -/
def Location.host : Location -> Option (String × HostId)
  | .total _ => none
  | .counter host id _ => some (host, id)
  | .sum host id => some (host, id)

/-- The place of a location among the reads of one host. -/
def Scrape.rank : Scrape -> Location -> Nat
  | .prometheusText, .counter _ _ (.histogram bucket) => bucket
  | .prometheusText, .counter _ _ .requests => histogramBuckets.length
  | .prometheusText, _ => histogramBuckets.length + 1
  | .snapshot, .counter _ _ .requests => 0
  | .snapshot, .counter _ _ .errors => 1
  | .snapshot, .counter _ _ .bytesReceived => 2
  | .snapshot, .counter _ _ (.histogram bucket) => bucket + 4
  | .snapshot, _ => 3

/-- Of one host, the first location is read before the second. -/
def Scrape.Before (kind : Scrape) (first second : Location) : Prop :=
  forall entry, first.host = some entry -> second.host = some entry -> kind.rank first < kind.rank second

theorem hostReads_host {kind : Scrape} {host : String} {id : HostId} :
    ∀ location ∈ kind.hostReads host id, location.host = some (host, id) := by
  have buckets : ∀ location ∈ histogramReads host id, location.host = some (host, id) := by
    intro location among
    rcases List.mem_map.mp among with ⟨bucket, _, rfl⟩
    rfl
  intro location among
  cases kind with
  | prometheusText =>
      rcases List.mem_append.mp among with inBuckets | last
      · exact buckets location inBuckets
      · simp only [List.mem_cons, List.not_mem_nil, or_false] at last
        rcases last with rfl | rfl <;> rfl
  | snapshot =>
      rcases List.mem_append.mp among with first | inBuckets
      · simp only [List.mem_cons, List.not_mem_nil, or_false] at first
        rcases first with rfl | rfl | rfl | rfl <;> rfl
      · exact buckets location inBuckets

theorem hostReads_before (kind : Scrape) (host : String) (id : HostId) :
    (kind.hostReads host id).Pairwise kind.Before := by
  have ranks : ((kind.hostReads host id).map kind.rank).Pairwise (· < ·) := by
    cases kind with
    | prometheusText => exact List.pairwise_lt_range (n := 12)
    | snapshot => exact List.pairwise_lt_range (n := 14)
  refine (List.pairwise_map.mp ranks).imp ?_
  intro first second earlier entry _ _
  exact earlier

/-- All that a scrape reads of a map in this order. -/
def Scrape.reads (kind : Scrape) (order : List (String × HostId)) : List Location :=
  totalReads ++ order.flatMap (fun entry => kind.hostReads entry.1 entry.2)

theorem reads_before (kind : Scrape) {order : List (String × HostId)} (distinct : (order.map Prod.fst).Nodup) :
    (kind.reads order).Pairwise kind.Before := by
  have noHost : ∀ location ∈ totalReads, location.host = none := by
    intro location among
    simp only [totalReads, List.mem_cons, List.not_mem_nil, or_false] at among
    rcases among with rfl | rfl | rfl <;> rfl
  have free : forall {first second}, first ∈ totalReads -> kind.Before first second := by
    intro first second among entry there
    rw [noHost first among] at there
    exact (nomatch there)
  refine List.pairwise_append.mpr ⟨?_, ?_, ?_⟩
  · exact List.pairwise_of_forall_mem_list (fun first among second _ => free among)
  · refine List.pairwise_flatMap.mpr ⟨fun entry _ => hostReads_before kind entry.1 entry.2, ?_⟩
    refine (List.pairwise_map.mp distinct).imp ?_
    intro first second differ early inFirst late inSecond entry firstHost secondHost
    rw [hostReads_host early inFirst] at firstHost
    rw [hostReads_host late inSecond, ← Option.some.inj firstHost] at secondHost
    exact absurd (congrArg Prod.fst (Option.some.inj secondHost)).symm differ
  · exact fun first among second _ => free among

theorem reads_host {kind : Scrape} {order : List (String × HostId)} {location : Location}
    (among : location ∈ kind.reads order) {entry : String × HostId} (isHost : location.host = some entry) :
    entry ∈ order := by
  rcases List.mem_append.mp among with isTotal | ofHost
  · simp only [totalReads, List.mem_cons, List.not_mem_nil, or_false] at isTotal
    rcases isTotal with rfl | rfl | rfl
    all_goals exact (nomatch isHost)
  · rcases List.mem_flatMap.mp ofHost with ⟨other, inOrder, inReads⟩
    rw [hostReads_host location inReads] at isHost
    rw [← Option.some.inj isHost]
    exact inOrder

/-! ## How far a scrape is -/

section Reading

variable {F : Type} (ops : Floats F)

/-- An instruction of a scrape. -/
def Instruction.scrapes : Instruction F -> Bool
  | .load _ => true
  | .lock _ => true
  | .unlock => true
  | _ => false

/-- What was shown, in the order in which it was read. -/
def Call.locations (call : Call F) : List Location := call.shown.map (·.location)

/-- A call is no scrape, or it reads the totals, holds the mutex, or has read everything. -/
inductive Reading (state : State F) (index : Nat) (call : Call F) : Prop
  | records (plain : ∀ instruction ∈ call.remaining, instruction.scrapes = false)
      (nothing : call.shown = []) (other : forall kind, call.operation ≠ .scrape kind)
  | totals (kind : Scrape) (operation : call.operation = .scrape kind) (left : List Location)
      (code : call.remaining = left.map .load ++ [.lock kind])
      (reads : call.locations ++ left = totalReads)
  | hosts (kind : Scrape) (operation : call.operation = .scrape kind) (order : List (String × HostId))
      (left : List Location) (code : call.remaining = left.map .load ++ [.unlock])
      (reads : call.locations ++ left = kind.reads order)
      (holds : state.locked = some index) (through : order.Perm state.perHost)
  | returned (kind : Scrape) (operation : call.operation = .scrape kind)
      (order : List (String × HostId)) (code : call.remaining = [])
      (reads : call.locations = kind.reads order) (distinct : (order.map Prod.fst).Nodup)

/-- What was read was so when it was read. -/
structure Reads (state : State F) (shown : Shown F) : Prop where
  seen : shown.seen <+: state.history
  value : shown.value = valueOf ops shown.seen shown.location
  host : forall entry, shown.location.host = some entry -> entry ∈ mapOf shown.seen
  names : ((mapOf shown.seen).map Prod.fst).Nodup

structure Scraping (state : State F) : Prop where
  reading : forall index call, state.calls[index]? = some call -> Reading state index call
  reads : ∀ call ∈ state.calls, ∀ shown ∈ call.shown, Reads ops state shown
  ordered : ∀ call ∈ state.calls, call.shown.Pairwise (fun early late => early.seen <+: late.seen)

variable {ops} {state next : State F}

/-- What others do leaves a scrape where it is, which holds the mutex or does not. -/
theorem Reading.frame {index : Nat} {call : Call F} (reading : Reading state index call)
    (kept : state.locked = some index -> next.locked = state.locked ∧ next.perHost = state.perHost) :
    Reading next index call := by
  cases reading with
  | records plain nothing other => exact .records plain nothing other
  | totals kind operation left code reads => exact .totals kind operation left code reads
  | returned kind operation order code reads distinct =>
      exact .returned kind operation order code reads distinct
  | hosts kind operation order left code reads holds through =>
      rcases kept holds with ⟨locked, map⟩
      exact .hosts kind operation order left code reads (locked.trans holds) (map ▸ through)

/-- The code of a scrape is made of its own instructions. -/
theorem Reading.plain {index : Nat} {call : Call F} {instruction : Instruction F}
    {rest : List (Instruction F)} (reading : Reading state index call)
    (left : call.remaining = instruction :: rest) (plain : instruction.scrapes = false) :
    (∀ other ∈ rest, other.scrapes = false) ∧ call.shown = [] ∧
      forall kind, call.operation ≠ .scrape kind := by
  have own : forall (locations : List Location) (last : Instruction F), last.scrapes = true ->
      call.remaining ≠ locations.map .load ++ [last] := by
    intro locations last isOwn code
    rw [left] at code
    have among : instruction ∈ locations.map .load ++ [last] := code ▸ List.mem_cons_self
    have scrapes : instruction.scrapes = true := by
      rcases List.mem_append.mp among with loads | isLast
      · rcases List.mem_map.mp loads with ⟨location, _, rfl⟩
        rfl
      · rw [List.mem_singleton.mp isLast]
        exact isOwn
    exact Bool.noConfusion (plain.symm.trans scrapes)
  cases reading with
  | records all nothing other =>
      refine ⟨fun instruction among => all instruction ?_, nothing, other⟩
      rw [left]
      exact List.mem_cons_of_mem _ among
  | totals kind operation locations code reads => exact absurd code (own locations (.lock kind) rfl)
  | hosts kind operation order locations code reads holds through =>
      exact absurd code (own locations .unlock rfl)
  | returned kind operation order code reads distinct => exact (nomatch left.symm.trans code)

theorem loads_cons {location : Location} {rest : List (Instruction F)} {left : List Location}
    {last : Instruction F} (code : Instruction.load location :: rest = left.map .load ++ [last])
    (isLast : forall other, last ≠ .load other) :
    ∃ others, left = location :: others ∧ rest = others.map .load ++ [last] := by
  cases left with
  | nil => exact absurd (List.cons.inj code).1.symm (isLast location)
  | cons first others =>
      rcases List.cons.inj code with ⟨same, rest⟩
      exact ⟨others, congrArg (· :: others) (Instruction.load.inj same).symm, rest⟩

theorem ends_cons {instruction last : Instruction F} {rest : List (Instruction F)} {left : List Location}
    (code : instruction :: rest = left.map .load ++ [last])
    (noLoad : forall other, instruction ≠ .load other) :
    left = [] ∧ instruction = last ∧ rest = [] := by
  cases left with
  | nil =>
      rcases List.cons.inj code with ⟨same, nothing⟩
      exact ⟨rfl, same, nothing⟩
  | cons first others => exact absurd (List.cons.inj code).1 (noLoad first)

/-- A scrape about to load a location is at it in its reads. -/
theorem Reading.load {index : Nat} {call : Call F} {location : Location} {rest : List (Instruction F)}
    (reading : Reading state index call) (left : call.remaining = .load location :: rest)
    (value : Value F) (seen : History (Op F)) :
    Reading state index
        { call with remaining := rest, shown := call.shown ++ [⟨location, value, seen⟩] } ∧
      forall entry, location.host = some entry -> entry ∈ state.perHost := by
  have locations : forall others : List Location,
      (call.shown ++ [(⟨location, value, seen⟩ : Shown F)]).map Shown.location ++ others =
        call.locations ++ location :: others := by
    intro others
    rw [List.map_append, List.append_assoc]
    rfl
  cases reading with
  | records plain nothing other =>
      have isPlain := plain (.load location) (by rw [left]; exact List.mem_cons_self)
      exact Bool.noConfusion isPlain
  | totals kind operation others code reads =>
      rcases loads_cons (left.symm.trans code) (fun _ => nofun) with ⟨behind, rfl, rest⟩
      refine ⟨.totals kind operation behind rest ((locations behind).trans reads), ?_⟩
      intro entry isHost
      have among : location ∈ kind.reads [] := by
        rw [Scrape.reads, ← reads]
        exact List.mem_append_left _ (List.mem_append_right _ List.mem_cons_self)
      exact absurd (reads_host among isHost) List.not_mem_nil
  | hosts kind operation order others code reads holds through =>
      rcases loads_cons (left.symm.trans code) (fun _ => nofun) with ⟨behind, rfl, rest⟩
      refine ⟨.hosts kind operation order behind rest ((locations behind).trans reads) holds through, ?_⟩
      intro entry isHost
      have among : location ∈ kind.reads order := by
        rw [← reads]
        exact List.mem_append_right _ List.mem_cons_self
      exact through.mem_iff.mp (reads_host among isHost)
  | returned kind operation order code reads distinct => exact (nomatch left.symm.trans code)

theorem Reading.lock {index : Nat} {call : Call F} {kind : Scrape} {rest : List (Instruction F)}
    (reading : Reading state index call) (left : call.remaining = .lock kind :: rest)
    {order : List (String × HostId)} (holds : next.locked = some index) (through : order.Perm next.perHost) :
    Reading next index { call with remaining := kind.lockedProgram order ++ rest } := by
  cases reading with
  | records plain nothing other =>
      have isPlain := plain (.lock kind) (by rw [left]; exact List.mem_cons_self)
      exact Bool.noConfusion isPlain
  | totals own operation others code reads =>
      rcases ends_cons (left.symm.trans code) (fun _ => nofun) with ⟨rfl, same, rfl⟩
      cases same
      refine .hosts kind operation order _ (List.append_nil _) ?_ holds through
      rw [List.append_nil] at reads
      change call.locations ++ _ = _
      rw [reads]
      rfl
  | hosts own operation own' others code reads holds through =>
      exact (nomatch (ends_cons (left.symm.trans code) (fun _ => nofun)).2.1)
  | returned own operation order code reads distinct => exact (nomatch left.symm.trans code)

theorem Reading.unlock {index : Nat} {call : Call F} {rest : List (Instruction F)}
    (reading : Reading state index call) (left : call.remaining = .unlock :: rest)
    (names : (state.perHost.map Prod.fst).Nodup) :
    state.locked = some index ∧ Reading next index { call with remaining := rest } := by
  cases reading with
  | records plain nothing other =>
      have isPlain := plain .unlock (by rw [left]; exact List.mem_cons_self)
      exact Bool.noConfusion isPlain
  | totals kind operation others code reads =>
      exact (nomatch (ends_cons (left.symm.trans code) (fun _ => nofun)).2.1)
  | hosts kind operation order others code reads holds through =>
      rcases ends_cons (left.symm.trans code) (fun _ => nofun) with ⟨rfl, _, rfl⟩
      rw [List.append_nil] at reads
      exact ⟨holds, .returned kind operation order rfl reads ((through.map Prod.fst).nodup_iff.mpr names)⟩
  | returned kind operation order code reads distinct => exact (nomatch left.symm.trans code)

/-! ## Steps of scrapes -/

theorem Reads.later {shown : Shown F} (reads : Reads ops state shown)
    (grows : state.history <+: next.history) : Reads ops next shown :=
  ⟨reads.seen.trans grows, reads.value, reads.host, reads.names⟩

/-- A call goes on, and the other scrapes stay where they are. -/
theorem Scraping.advance {index : Nat} {after : Call F} (scraping : Scraping ops state)
    (calls : next.calls = state.calls.set index after) (grows : state.history <+: next.history)
    (kept : forall other, other ≠ index -> state.locked = some other ->
      next.locked = state.locked ∧ next.perHost = state.perHost)
    (reading : Reading next index after) (reads : ∀ shown ∈ after.shown, Reads ops next shown)
    (ordered : after.shown.Pairwise (fun early late => early.seen <+: late.seen)) :
    Scraping ops next where
  reading := by
    intro other later there
    rw [calls] at there
    by_cases same : index = other
    · subst same
      have inRange : index < state.calls.length := by
        have found := (List.getElem?_eq_some_iff.mp there).1
        rwa [List.length_set] at found
      rw [List.getElem?_set_self inRange] at there
      rw [← Option.some.inj there]
      exact reading
    · rw [List.getElem?_set_ne same] at there
      exact (scraping.reading other later there).frame (kept other (Ne.symm same))
  reads := by
    intro later among
    rw [calls] at among
    rcases List.mem_or_eq_of_mem_set among with before | rfl
    · exact fun shown inShown => (scraping.reads later before shown inShown).later grows
    · exact reads
  ordered := by
    intro later among
    rw [calls] at among
    rcases List.mem_or_eq_of_mem_set among with before | rfl
    · exact scraping.ordered later before
    · exact ordered

/-- A step that reads nothing. -/
theorem Scraping.quiet {index : Nat} {call after : Call F} (scraping : Scraping ops state)
    (found : state.calls[index]? = some call) (calls : next.calls = state.calls.set index after)
    (grows : state.history <+: next.history)
    (kept : forall other, other ≠ index -> state.locked = some other ->
      next.locked = state.locked ∧ next.perHost = state.perHost)
    (reading : Reading next index after) (same : after.shown = call.shown) : Scraping ops next := by
  have among := List.mem_of_getElem? found
  apply scraping.advance calls grows kept reading
  · rw [same]
    exact fun shown inShown => (scraping.reads call among shown inShown).later grows
  · rw [same]
    exact scraping.ordered call among

/-- The next state of a call that is no scrape. -/
theorem Scraping.plain {index : Nat} {call after : Call F} {instruction : Instruction F}
    {rest : List (Instruction F)} (scraping : Scraping ops state)
    (found : state.calls[index]? = some call) (left : call.remaining = instruction :: rest)
    (plain : instruction.scrapes = false) (calls : next.calls = state.calls.set index after)
    (grows : state.history <+: next.history)
    (kept : forall other, state.locked = some other ->
      next.locked = state.locked ∧ next.perHost = state.perHost)
    (same : after.operation = call.operation) (shown : after.shown = call.shown)
    (now : after.remaining = rest) : Scraping ops next := by
  rcases (scraping.reading index call found).plain left plain with ⟨plainRest, nothing, other⟩
  apply scraping.quiet found calls grows (fun index _ => kept index) _ shown
  refine .records ?_ (shown.trans nothing) ?_
  · rw [now]
    exact plainRest
  · rw [same]
    exact other

/-- The sum is loaded, and the code of the call stays. -/
theorem Scraping.reloaded {index : Nat} {call : Call F} (scraping : Scraping ops state)
    (found : state.calls[index]? = some call) (loaded : Option F) :
    Scraping ops (state.setCall index { call with loaded := loaded }) := by
  refine scraping.quiet found rfl (List.prefix_refl _) (fun _ _ _ => ⟨rfl, rfl⟩) ?_ rfl
  cases scraping.reading index call found with
  | records plain nothing other => exact .records plain nothing other
  | totals kind operation left code reads => exact .totals kind operation left code reads
  | hosts kind operation order left code reads holds through =>
      exact .hosts kind operation order left code reads holds through
  | returned kind operation order code reads distinct =>
      exact .returned kind operation order code reads distinct

theorem program_plain (operation : Operation F) (other : forall kind, operation ≠ .scrape kind) :
    ∀ instruction ∈ operation.program ops, instruction.scrapes = false := by
  intro instruction among
  cases operation with
  | record args =>
      rcases List.mem_append.mp among with totals | later
      · rcases List.mem_map.mp totals with ⟨add, _, rfl⟩
        rfl
      · rcases List.mem_cons.mp later with rfl | after
        · rfl
        · rcases List.mem_append.mp after with hosts | last
          · rcases List.mem_map.mp hosts with ⟨add, _, rfl⟩
            rfl
          · rw [List.mem_singleton.mp last]
            rfl
  | reset =>
      have stores : instruction ∈ [.store .requests, .store .errors, .store .bytesReceived, .clear] := among
      simp only [List.mem_cons, List.not_mem_nil, or_false] at stores
      rcases stores with rfl | rfl | rfl | rfl <;> rfl
  | scrape kind => exact absurd rfl (other kind)

theorem scraping_begin (scraping : Scraping ops state) (operation : Operation F) :
    Scraping ops { state with
      calls := state.calls ++ [⟨operation, operation.program ops, none, none, []⟩] } where
  reading := by
    intro index call found
    rcases Nat.lt_or_ge index state.calls.length with earlier | new
    · rw [List.getElem?_append_left earlier] at found
      exact (scraping.reading index call found).frame (fun _ => ⟨rfl, rfl⟩)
    · rw [List.getElem?_append_right new] at found
      rcases List.getElem?_eq_some_iff.mp found with ⟨inRange, made⟩
      rw [List.getElem_singleton] at made
      subst made
      by_cases isScrape : ∃ kind, operation = .scrape kind
      · rcases isScrape with ⟨kind, rfl⟩
        exact .totals kind rfl totalReads rfl rfl
      · push Not at isScrape
        exact .records (program_plain operation isScrape) rfl isScrape
  reads := by
    intro call among
    rcases List.mem_append.mp among with before | new
    · exact fun shown inShown => (scraping.reads call before shown inShown).later (List.prefix_refl _)
    · rw [List.mem_singleton.mp new]
      exact fun shown inShown => absurd inShown List.not_mem_nil
  ordered := by
    intro call among
    rcases List.mem_append.mp among with before | new
    · exact scraping.ordered call before
    · rw [List.mem_singleton.mp new]
      exact List.Pairwise.nil

theorem scraping_load {index : Nat} {call : Call F} {location : Location} {rest : List (Instruction F)}
    (scraping : Scraping ops state) (accurate : Accurate ops state) (mapped : Mapped state)
    (found : state.calls[index]? = some call) (left : call.remaining = .load location :: rest) :
    Scraping ops (state.setCall index
      { call with
        remaining := rest
        shown := call.shown ++ [⟨location, state.read location, state.history⟩] }) := by
  have among := List.mem_of_getElem? found
  rcases (scraping.reading index call found).load left (state.read location) state.history with
    ⟨reading, inMap⟩
  refine scraping.advance rfl (List.prefix_refl _) (fun _ _ _ => ⟨rfl, rfl⟩) ?_ ?_ ?_
  · exact reading.frame (fun _ => ⟨rfl, rfl⟩)
  · intro shown inShown
    rcases List.mem_append.mp inShown with before | new
    · exact (scraping.reads call among shown before).later (List.prefix_refl _)
    · rw [List.mem_singleton.mp new]
      refine ⟨List.prefix_refl _, accurate.read location, ?_, ?_⟩
      · intro entry isHost
        change entry ∈ mapOf state.history
        rw [← accurate.map]
        exact inMap entry isHost
      · change ((mapOf state.history).map Prod.fst).Nodup
        rw [← accurate.map]
        exact mapped.names
  · refine List.pairwise_append.mpr ⟨scraping.ordered call among, List.pairwise_singleton _ _, ?_⟩
    intro early before late new
    rw [List.mem_singleton.mp new]
    exact (scraping.reads call among early before).seen

theorem scraping_moves {event : Event F} (scraping : Scraping ops state) (accurate : Accurate ops state)
    (mapped : Mapped state) (moves : Moves ops state event next) : Scraping ops next := by
  have free : state.locked = none -> forall {P : Prop} (other : Nat), state.locked = some other -> P := by
    intro none P other holds
    exact (nomatch none.symm.trans holds)
  cases moves with
  | begin operation => exact scraping_begin scraping operation
  | fetchAdd found left =>
      exact scraping.plain found left rfl rfl (List.prefix_append _ _) (fun _ _ => ⟨rfl, rfl⟩) rfl rfl rfl
  | @getHostMetrics index call rest host found left none =>
      have calls : _ = state.calls.set index _ := orInsert_set host index
        { call with remaining := rest, host := some (state.orInsert host).2 }
      refine scraping.plain found left rfl calls ?_ (free none) rfl rfl rfl
      change state.history <+: (state.orInsert host).1.history ++ _
      rw [orInsert_history]
      exact List.prefix_append _ _
  | hostFetchAdd found left owns =>
      exact scraping.plain found left rfl rfl (List.prefix_append _ _) (fun _ _ => ⟨rfl, rfl⟩) rfl rfl rfl
  | loadSum loaded found left => exact scraping.reloaded found loaded
  | exchange found left owns =>
      exact scraping.plain found left rfl rfl (List.prefix_append _ _) (fun _ _ => ⟨rfl, rfl⟩) rfl rfl rfl
  | store found left =>
      exact scraping.plain found left rfl rfl (List.prefix_append _ _) (fun _ _ => ⟨rfl, rfl⟩) rfl rfl rfl
  | clear found left none =>
      exact scraping.plain found left rfl rfl (List.prefix_append _ _) (free none) rfl rfl rfl
  | load found left => exact scraping_load scraping accurate mapped found left
  | @unlock index call rest found left =>
      rcases (scraping.reading index call found).unlock left mapped.names with ⟨holds, reading⟩
      refine scraping.quiet found rfl (List.prefix_refl _) ?_ reading rfl
      intro other differs otherHolds
      exact absurd (Option.some.inj (otherHolds.symm.trans holds)) differs
  | lock found left none through =>
      refine scraping.quiet found rfl (List.prefix_refl _) (fun other _ => free none other) ?_ rfl
      exact (scraping.reading _ _ found).lock left rfl through
  | forget found => exact scraping.reloaded found none

theorem scraping_initial : Scraping ops (State.initial ops) where
  reading := by
    intro index call found
    exact (nomatch found)
  reads := fun _ among => absurd among List.not_mem_nil
  ordered := fun _ among => absurd among List.not_mem_nil

theorem scraping_of_run [DecidableEq F] {events : List (Event F)}
    (ran : (metrics ops).run (State.initial ops) events = some state) : Scraping ops state := by
  apply (metrics ops).run_invariant_reached (Scraping ops) _ scraping_initial ran
  intro labels before event after reached scraping stepped
  have sound := sound_of_run reached
  exact scraping_moves scraping sound.accurate sound.mapped (step_moves ops stepped)

end Reading

end Metrics
end Lkrequest
