import Lkrequest.Metrics.History

namespace Lkrequest
namespace Metrics

open Foundations

/-!
# How far the calls are

Every call has done a part of its code and has the rest still to do, and a host
entry that a record got stays in the map until the map is cleared.
-/

/-! ## What every call has done -/

section Tracking

variable {F : Type}

def Instruction.looksUp : Instruction F -> Bool
  | .getHostMetrics _ => true
  | _ => false

/-- What an instruction leaves in the history, for a call with this host entry. -/
def Instruction.op (id : HostId) : Instruction F -> Option (Op F)
  | .fetchAdd total amount => some (.add total amount)
  | .getHostMetrics host => some (.lookup host id)
  | .hostFetchAdd counter amount => some (.hostAdd id counter amount)
  | .addToSum elapsed => some (.addToSum id elapsed)
  | .store total => some (.store total)
  | .clear => some .clear
  | .load _ => none
  | .lock _ => none
  | .unlock => none

def effects (id : HostId) (code : List (Instruction F)) : List (Op F) :=
  code.filterMap (Instruction.op id)

variable (ops : Floats F)

/-- The call did the first part of its code and has the rest still to do. -/
structure Follows (history : History (Op F)) (index : Nat) (call : Call F) : Prop where
  done : forall id, call.host.getD id = id ->
    opsOf index history ++ effects id call.remaining = effects id (call.operation.program ops)
  once : call.remaining.countP Instruction.looksUp + call.host.toList.length ≤ 1

structure Tracked (state : State F) : Prop where
  known : ∀ entry ∈ state.history, entry.1 < state.calls.length
  follows : forall index call, state.calls[index]? = some call -> Follows ops state.history index call

theorem tracked_initial : Tracked ops (State.initial ops) where
  known := by
    intro entry among
    exact absurd among List.not_mem_nil
  follows := by
    intro index call found
    exact (nomatch found)

theorem effects_cons (id : HostId) (instruction : Instruction F) (rest : List (Instruction F)) :
    effects id (instruction :: rest) = (instruction.op id).toList ++ effects id rest := by
  unfold effects
  cases made : instruction.op id <;> simp [made]

theorem program_looks_up_once (operation : Operation F) :
    (operation.program ops).countP Instruction.looksUp ≤ 1 := by
  cases operation with
  | record args =>
      have adds : forall left : List (Total × Nat),
          (left.map (fun add => (.fetchAdd add.1 add.2 : Instruction F))).countP Instruction.looksUp = 0 := by
        intro left
        simp [List.countP_eq_zero, Instruction.looksUp]
      have hostAdds : forall left : List (Counter × Nat),
          (left.map (fun add => (.hostFetchAdd add.1 add.2 : Instruction F))).countP Instruction.looksUp = 0 := by
        intro left
        simp [List.countP_eq_zero, Instruction.looksUp]
      change (Record.program ops args).countP Instruction.looksUp ≤ 1
      unfold Record.program Record.hostProgram
      rw [List.countP_append, adds, List.countP_cons, List.countP_append, hostAdds]
      simp [Instruction.looksUp]
  | reset => exact Nat.zero_le 1
  | scrape kind => exact Nat.zero_le 1

theorem lockedProgram_effects (id : HostId) (kind : Scrape) (order : List (String × HostId)) :
    (kind.lockedProgram order : List (Instruction F)).filterMap (Instruction.op id) = [] := by
  apply List.filterMap_eq_nil_iff.mpr
  intro instruction among
  rcases List.mem_append.mp among with isLoad | isUnlock
  · rcases List.mem_map.mp isLoad with ⟨location, _, rfl⟩
    rfl
  · rw [List.mem_singleton.mp isUnlock]
    rfl

theorem lockedProgram_looksUp (kind : Scrape) (order : List (String × HostId)) :
    (kind.lockedProgram order : List (Instruction F)).countP Instruction.looksUp = 0 := by
  apply List.countP_eq_zero.mpr
  intro instruction among
  rcases List.mem_append.mp among with isLoad | isUnlock
  · rcases List.mem_map.mp isLoad with ⟨location, _, rfl⟩
    exact Bool.noConfusion
  · rw [List.mem_singleton.mp isUnlock]
    exact Bool.noConfusion

variable {ops} {state : State F}

theorem Follows.advance {history later : History (Op F)} {index : Nat} {call next : Call F}
    {instruction : Instruction F} {rest : List (Instruction F)} (follows : Follows ops history index call)
    (left : call.remaining = instruction :: rest) (simple : instruction.looksUp = false)
    (same : next.operation = call.operation) (now : next.remaining = rest) (host : next.host = call.host)
    (logged : forall id, call.host.getD id = id ->
      opsOf index later = opsOf index history ++ (instruction.op id).toList) :
    Follows ops later index next where
  done := by
    intro id matching
    rw [host] at matching
    rw [same, now, ← follows.done id matching, logged id matching, left, effects_cons, List.append_assoc]
  once := by
    have before := follows.once
    rw [left, List.countP_cons, simple] at before
    rw [now, host]
    exact before

/-- A call goes on, and the others stay where they are. -/
theorem Tracked.next {next : State F} {index : Nat} {call after : Call F}
    (tracked : Tracked ops state) (found : state.calls[index]? = some call)
    (calls : next.calls = state.calls.set index after) (done : List (Op F))
    (logged : next.history = state.history ++ done.map (fun op => (index, op)))
    (follows : Follows ops (state.history ++ done.map (fun op => (index, op))) index after) :
    Tracked ops next where
  known := by
    rw [calls, logged, List.length_set]
    intro entry among
    rcases List.mem_append.mp among with earlier | new
    · exact tracked.known entry earlier
    · rcases List.mem_map.mp new with ⟨op, _, rfl⟩
      exact (List.getElem?_eq_some_iff.mp found).1
  follows := by
    intro other later there
    rw [calls] at there
    rw [logged]
    by_cases same : index = other
    · subst same
      rw [List.getElem?_set_self (List.getElem?_eq_some_iff.mp found).1] at there
      rw [← Option.some.inj there]
      exact follows
    · rw [List.getElem?_set_ne same] at there
      have before := tracked.follows other later there
      constructor
      · rw [opsOf_append_other same]
        exact before.done
      · exact before.once

/-- An instruction that is done at once. -/
theorem Tracked.advance {next : State F} {index : Nat} {call : Call F} {instruction : Instruction F}
    {rest : List (Instruction F)} {after : Call F} (tracked : Tracked ops state)
    (found : state.calls[index]? = some call) (left : call.remaining = instruction :: rest)
    (calls : next.calls = state.calls.set index after) (done : List (Op F))
    (logged : next.history = state.history ++ done.map (fun op => (index, op)))
    (same : after.operation = call.operation) (now : after.remaining = rest) (host : after.host = call.host)
    (simple : instruction.looksUp = false)
    (does : forall id, call.host.getD id = id -> done = (instruction.op id).toList) : Tracked ops next := by
  apply tracked.next found calls done logged
  apply (tracked.follows index call found).advance left simple same now host
  intro id matching
  rw [opsOf_append_own, does id matching]

theorem tracked_begin (tracked : Tracked ops state) (operation : Operation F) :
    Tracked ops { state with
      calls := state.calls ++ [⟨operation, operation.program ops, none, none, []⟩] } where
  known := by
    intro entry among
    rw [List.length_append]
    exact Nat.lt_add_right _ (tracked.known entry among)
  follows := by
    intro index call found
    rcases Nat.lt_or_ge index state.calls.length with earlier | new
    · rw [List.getElem?_append_left earlier] at found
      exact tracked.follows index call found
    · rw [List.getElem?_append_right new] at found
      rcases List.getElem?_eq_some_iff.mp found with ⟨inRange, made⟩
      have silent : opsOf index state.history = [] := by
        apply List.eq_nil_iff_forall_not_mem.mpr
        intro op among
        exact Nat.not_lt.mpr new (tracked.known _ (mem_opsOf.mp among))
      rw [List.getElem_singleton] at made
      subst made
      constructor
      · intro id _
        rw [silent]
        rfl
      · exact program_looks_up_once ops operation

theorem tracked_lookup {index : Nat} {call : Call F} {rest : List (Instruction F)} {host : String}
    (tracked : Tracked ops state) (found : state.calls[index]? = some call)
    (left : call.remaining = .getHostMetrics host :: rest) :
    Tracked ops (((state.orInsert host).1.setCall index
      { call with remaining := rest, host := some (state.orInsert host).2 }).log index
        (.lookup host (state.orInsert host).2)) := by
  have before := tracked.follows index call found
  have once := before.once
  rw [left, List.countP_cons, Instruction.looksUp, if_pos rfl] at once
  have unknown : call.host = none := by
    apply Option.toList_eq_nil_iff.mp
    apply List.eq_nil_of_length_eq_zero
    omega
  have calls : _ = state.calls.set index _ := orInsert_set host index
    { call with remaining := rest, host := some (state.orInsert host).2 }
  refine tracked.next found calls [.lookup host (state.orInsert host).2] ?_ ?_
  · change (state.orInsert host).1.history ++ [(index, .lookup host (state.orInsert host).2)] = _
    rw [orInsert_history]
    rfl
  · constructor
    · intro id matching
      have there : (state.orInsert host).2 = id := matching
      rw [opsOf_append_own, ← before.done id (by rw [unknown]; rfl), left, effects_cons, there]
      exact List.append_assoc _ [_] _
    · change rest.countP Instruction.looksUp + 1 ≤ 1
      omega

theorem tracked_moves {next : State F} {event : Event F} (tracked : Tracked ops state) (moves : Moves ops state event next) :
    Tracked ops next := by
  have owned : forall {call : Call F} {id : HostId}, call.host = some id ->
      forall other, call.host.getD other = other -> id = other := by
    intro call id owns other matching
    rw [owns] at matching
    exact matching
  -- what does not touch the code of a call
  have stays : forall {next : State F} {index : Nat} {call : Call F} (loaded : Option F),
      state.calls[index]? = some call -> next.calls = state.calls.set index { call with loaded := loaded } ->
      next.history = state.history -> Tracked ops next := by
    intro next index call loaded found calls same
    have before := tracked.follows index call found
    refine tracked.next found calls [] (same.trans (List.append_nil _).symm) ?_
    rw [List.map_nil, List.append_nil]
    exact ⟨before.done, before.once⟩
  cases moves with
  | begin operation => exact tracked_begin tracked operation
  | fetchAdd found left =>
      exact tracked.advance found left rfl [_] rfl rfl rfl rfl rfl (fun _ _ => rfl)
  | getHostMetrics found left free => exact tracked_lookup tracked found left
  | hostFetchAdd found left owns =>
      refine tracked.advance found left rfl [_] rfl rfl rfl rfl rfl ?_
      intro other matching
      rw [owned owns other matching]
      rfl
  | loadSum loaded found left => exact stays loaded found rfl rfl
  | exchange found left owns =>
      refine tracked.advance found left rfl [_] rfl rfl rfl rfl rfl ?_
      intro other matching
      rw [owned owns other matching]
      rfl
  | store found left =>
      exact tracked.advance found left rfl [_] rfl rfl rfl rfl rfl (fun _ _ => rfl)
  | clear found left free =>
      exact tracked.advance found left rfl [_] rfl rfl rfl rfl rfl (fun _ _ => rfl)
  | load found left =>
      exact tracked.advance found left rfl [] (List.append_nil _).symm rfl rfl rfl rfl (fun _ _ => rfl)
  | unlock found left =>
      exact tracked.advance found left rfl [] (List.append_nil _).symm rfl rfl rfl rfl (fun _ _ => rfl)
  | @lock index call rest kind order found left free through =>
      have before := tracked.follows index call found
      refine tracked.next found rfl [] (List.append_nil _).symm ?_
      rw [List.map_nil, List.append_nil]
      constructor
      · intro id matching
        change opsOf index state.history ++ effects id (kind.lockedProgram order ++ rest) = _
        rw [effects, List.filterMap_append, lockedProgram_effects, List.nil_append,
          ← before.done id matching, left, effects_cons]
        rfl
      · have once := before.once
        rw [left, List.countP_cons] at once
        change (kind.lockedProgram order ++ rest).countP Instruction.looksUp + _ ≤ 1
        rw [List.countP_append, lockedProgram_looksUp, Nat.zero_add]
        exact once
  | forget found => exact stays none found rfl rfl

end Tracking

/-! ## The hosts in the map -/

section Map

variable {F : Type}

/-- The map is cleared. -/
def Clears (entry : Nat × Op F) : Prop := entry.2 = .clear

theorem mem_onMap {op : Op F} {map : List (String × HostId)} {host : String} {id : HostId} :
    (host, id) ∈ op.onMap map <-> op ≠ .clear ∧ (op = .lookup host id ∨ (host, id) ∈ map) := by
  cases op with
  | lookup other otherId =>
      change (host, id) ∈ (if (other, otherId) ∈ map then map else map ++ [(other, otherId)]) <-> _
      by_cases there : (other, otherId) ∈ map
      · rw [if_pos there]
        constructor
        · exact fun among => ⟨nofun, Or.inr among⟩
        · rintro ⟨-, same | among⟩
          · cases same
            exact there
          · exact among
      · rw [if_neg there, List.mem_append, List.mem_singleton]
        constructor
        · rintro (among | same)
          · exact ⟨nofun, Or.inr among⟩
          · cases same
            exact ⟨nofun, Or.inl rfl⟩
        · rintro ⟨-, same | among⟩
          · cases same
            exact Or.inr rfl
          · exact Or.inl among
  | clear => simp [Op.onMap]
  | add total amount => simp [Op.onMap]
  | hostAdd other counter amount => simp [Op.onMap]
  | addToSum other elapsed => simp [Op.onMap]
  | store total => simp [Op.onMap]

/-- Every entry of the map was made or found by some call. -/
theorem looked_of_mem_mapOf {history : History (Op F)} {host : String} {id : HostId}
    (among : (host, id) ∈ mapOf history) : ∃ writer, (writer, Op.lookup host id) ∈ history := by
  induction history using List.reverseRecOn with
  | nil => exact absurd among List.not_mem_nil
  | append_singleton history entry ih =>
      rw [mapOf_snoc] at among
      rcases (mem_onMap.mp among).2 with same | earlier
      · refine ⟨entry.1, List.mem_append_right _ (List.mem_singleton.mpr ?_)⟩
        rw [← same]
      · rcases ih earlier with ⟨writer, before⟩
        exact ⟨writer, List.mem_append_left _ before⟩

/-- Until the map is cleared, an entry that was got is in it. -/
theorem mem_mapOf_of_looked {history : History (Op F)} {writer : Nat} {host : String} {id : HostId}
    (looked : (writer, Op.lookup host id) ∈ history)
    (kept : ¬ Followed (· = (writer, Op.lookup host id)) Clears history) : (host, id) ∈ mapOf history := by
  induction history using List.reverseRecOn with
  | nil => exact absurd looked List.not_mem_nil
  | append_singleton history entry ih =>
      rw [followed_snoc] at kept
      push Not at kept
      rw [mapOf_snoc, mem_onMap]
      rcases List.mem_append.mp looked with earlier | last
      · refine ⟨?_, Or.inr (ih earlier kept.1)⟩
        exact fun clears => kept.2 clears _ earlier rfl
      · have same := List.mem_singleton.mp last
        rw [← same]
        exact ⟨nofun, Or.inl rfl⟩

theorem mapOf_append {earlier later : History (Op F)} (kept : ∀ entry ∈ later, ¬ Clears entry)
    {host : String} {id : HostId} (among : (host, id) ∈ mapOf earlier) :
    (host, id) ∈ mapOf (earlier ++ later) := by
  induction later using List.reverseRecOn with
  | nil => rwa [List.append_nil]
  | append_singleton later entry ih =>
      rw [← List.append_assoc, mapOf_snoc, mem_onMap]
      refine ⟨kept entry (List.mem_append_right _ (List.mem_singleton_self entry)), Or.inr (ih ?_)⟩
      exact fun other inLater => kept other (List.mem_append_left _ inLater)

/-- Every host is in the map once, and an entry that was cleared away does not come back. -/
structure Mapped (state : State F) : Prop where
  names : (state.perHost.map Prod.fst).Nodup
  ids : (state.perHost.map Prod.snd).Nodup
  below : ∀ entry ∈ state.perHost, entry.2 < state.made
  looked : forall writer host id, (writer, .lookup host id) ∈ state.history -> id < state.made
  gone : forall writer host id, Followed (· = (writer, .lookup host id)) Clears state.history ->
    id ∉ state.perHost.map Prod.snd

theorem mapped_initial (ops : Floats F) : Mapped (State.initial ops) where
  names := List.nodup_nil
  ids := List.nodup_nil
  below := fun _ among => absurd among List.not_mem_nil
  looked := fun _ _ _ among => absurd among List.not_mem_nil
  gone := fun _ _ _ _ => List.not_mem_nil

variable {state : State F}

theorem Mapped.host_unique (mapped : Mapped state) {host : String} {first second : HostId}
    (one : (host, first) ∈ state.perHost) (other : (host, second) ∈ state.perHost) : first = second := by
  have same := List.inj_on_of_nodup_map mapped.names one other rfl
  exact congrArg Prod.snd same

theorem Mapped.id_unique (mapped : Mapped state) {first second : String} {id : HostId}
    (one : (first, id) ∈ state.perHost) (other : (second, id) ∈ state.perHost) : first = second := by
  have same := List.inj_on_of_nodup_map mapped.ids one other rfl
  exact congrArg Prod.fst same

/-- An operation that is none of the map. -/
theorem Mapped.quiet {next : State F} {entries : History (Op F)} (mapped : Mapped state)
    (map : next.perHost = state.perHost) (made : next.made = state.made)
    (logged : next.history = state.history ++ entries)
    (quiet : ∀ entry ∈ entries, ¬ Clears entry ∧ forall host id, entry.2 ≠ .lookup host id) :
    Mapped next where
  names := map ▸ mapped.names
  ids := map ▸ mapped.ids
  below := by
    rw [map, made]
    exact mapped.below
  looked := by
    intro writer host id among
    rw [logged] at among
    rw [made]
    rcases List.mem_append.mp among with earlier | new
    · exact mapped.looked writer host id earlier
    · exact absurd rfl ((quiet _ new).2 host id)
  gone := by
    intro writer host id followed
    rw [logged] at followed
    rw [map]
    apply mapped.gone writer host id
    clear logged
    induction entries using List.reverseRecOn with
    | nil => rwa [List.append_nil] at followed
    | append_singleton entries last ih =>
        rw [← List.append_assoc, followed_snoc] at followed
        rcases followed with earlier | ⟨clears, _⟩
        · exact ih (fun entry among => quiet entry (List.mem_append_left _ among)) earlier
        · exact absurd clears (quiet last (List.mem_append_right _ (List.mem_singleton_self last))).1

theorem mapped_lookup {next : State F} {index : Nat} {host : String} (mapped : Mapped state)
    (map : next.perHost = (state.orInsert host).1.perHost) (made : next.made = (state.orInsert host).1.made)
    (logged : next.history = state.history ++ [(index, .lookup host (state.orInsert host).2)]) :
    Mapped next := by
  have earlier : forall writer other id, Followed (· = (writer, .lookup other id)) Clears next.history ->
      Followed (· = (writer, .lookup other id)) Clears state.history := by
    intro writer other id followed
    rw [logged, followed_snoc] at followed
    rcases followed with before | ⟨clears, _⟩
    · exact before
    · exact (nomatch clears)
  have looked : forall writer other id, (writer, .lookup other id) ∈ next.history ->
      (writer, Op.lookup other id) ∈ state.history ∨ id = (state.orInsert host).2 := by
    intro writer other id among
    rw [logged] at among
    rcases List.mem_append.mp among with before | last
    · exact Or.inl before
    · cases List.mem_singleton.mp last
      exact Or.inr rfl
  unfold State.orInsert at map made looked
  cases found : state.entry host with
  | some there =>
      rw [found] at map made looked
      refine ⟨map ▸ mapped.names, map ▸ mapped.ids, ?_, ?_, ?_⟩
      · rw [map, made]
        exact mapped.below
      · intro writer other id among
        rw [made]
        rcases looked writer other id among with before | rfl
        · exact mapped.looked writer other id before
        · exact mapped.below _ (entry_mem found)
      · intro writer other id followed
        rw [map]
        exact mapped.gone writer other id (earlier writer other id followed)
  | none =>
      rw [found] at map made looked
      have fresh : state.made ∉ state.perHost.map Prod.snd := by
        intro among
        rcases List.mem_map.mp among with ⟨entry, inMap, same⟩
        exact Nat.lt_irrefl _ (same ▸ mapped.below entry inMap)
      have absent : host ∉ state.perHost.map Prod.fst := by
        intro among
        rcases List.mem_map.mp among with ⟨entry, inMap, same⟩
        exact entry_none found entry inMap same
      refine ⟨?_, ?_, ?_, ?_, ?_⟩
      · rw [map, List.map_append]
        exact List.nodup_append_comm.mp (List.nodup_cons.mpr ⟨absent, mapped.names⟩)
      · rw [map, List.map_append]
        exact List.nodup_append_comm.mp (List.nodup_cons.mpr ⟨fresh, mapped.ids⟩)
      · rw [map, made]
        intro entry among
        rcases List.mem_append.mp among with before | last
        · exact Nat.lt_succ_of_lt (mapped.below entry before)
        · rw [List.mem_singleton.mp last]
          exact Nat.lt_succ_self _
      · intro writer other id among
        rw [made]
        rcases looked writer other id among with before | rfl
        · exact Nat.lt_succ_of_lt (mapped.looked writer other id before)
        · exact Nat.lt_succ_self _
      · intro writer other id followed
        rw [map, List.map_append]
        have before := earlier writer other id followed
        intro among
        rcases List.mem_append.mp among with old | new
        · exact mapped.gone writer other id before old
        · rcases before with ⟨front, first, back, split, same, _⟩
          have was : (writer, Op.lookup other id) ∈ state.history := by
            rw [split, ← same]
            exact List.mem_append_right _ List.mem_cons_self
          have below := mapped.looked writer other id was
          rw [List.mem_singleton.mp new] at below
          exact Nat.lt_irrefl _ below

theorem mapped_moves {ops : Floats F} {next : State F} {event : Event F} (mapped : Mapped state)
    (moves : Moves ops state event next) : Mapped next := by
  have nothing : ∀ entry ∈ ([] : History (Op F)), ¬ Clears entry ∧ forall host id, entry.2 ≠ .lookup host id :=
    fun _ among => absurd among List.not_mem_nil
  have single : forall {index : Nat} {op : Op F}, op ≠ .clear -> (forall host id, op ≠ .lookup host id) ->
      ∀ entry ∈ [(index, op)], ¬ Clears entry ∧ forall host id, entry.2 ≠ .lookup host id := by
    intro index op stays looks entry among
    rw [List.mem_singleton.mp among]
    exact ⟨stays, looks⟩
  cases moves with
  | begin operation => exact mapped.quiet rfl rfl (List.append_nil _).symm nothing
  | fetchAdd found left => exact mapped.quiet rfl rfl rfl (single nofun (fun _ _ => nofun))
  | getHostMetrics found left free =>
      exact mapped_lookup mapped rfl rfl (congrArg (· ++ _) (orInsert_history _))
  | hostFetchAdd found left owns =>
      exact mapped.quiet rfl rfl rfl (single nofun (fun _ _ => nofun))
  | loadSum loaded found left => exact mapped.quiet rfl rfl (List.append_nil _).symm nothing
  | exchange found left owns =>
      exact mapped.quiet rfl rfl rfl (single nofun (fun _ _ => nofun))
  | store found left => exact mapped.quiet rfl rfl rfl (single nofun (fun _ _ => nofun))
  | load found left => exact mapped.quiet rfl rfl (List.append_nil _).symm nothing
  | unlock found left => exact mapped.quiet rfl rfl (List.append_nil _).symm nothing
  | lock found left free through => exact mapped.quiet rfl rfl (List.append_nil _).symm nothing
  | forget found => exact mapped.quiet rfl rfl (List.append_nil _).symm nothing
  | clear found left free =>
      refine ⟨List.nodup_nil, List.nodup_nil, ?_, ?_, ?_⟩
      · exact fun _ among => absurd among List.not_mem_nil
      · intro writer host id among
        apply mapped.looked writer host id
        rcases List.mem_append.mp among with before | last
        · exact before
        · exact (nomatch List.mem_singleton.mp last)
      · exact fun _ _ _ _ => List.not_mem_nil

end Map

/-! ## Runs -/

section Runs

variable {F : Type} {ops : Floats F}

/-- What holds in every state that a run can reach. -/
structure Sound (ops : Floats F) (state : State F) : Prop where
  accurate : Accurate ops state
  tracked : Tracked ops state
  mapped : Mapped state

theorem sound_initial : Sound ops (State.initial ops) :=
  ⟨accurate_initial ops, tracked_initial ops, mapped_initial ops⟩

theorem Sound.moves {state next : State F} {event : Event F} (sound : Sound ops state)
    (moves : Moves ops state event next) : Sound ops next :=
  ⟨accurate_moves sound.accurate moves, tracked_moves sound.tracked moves, mapped_moves sound.mapped moves⟩

theorem sound_of_run [DecidableEq F] {events : List (Event F)} {state : State F}
    (ran : (metrics ops).run (State.initial ops) events = some state) : Sound ops state := by
  apply (metrics ops).run_invariant (Sound ops) _ sound_initial ran
  intro before event after sound stepped
  exact sound.moves (step_moves ops stepped)

/-! ## Records return -/

/-- The code of a record: the host is looked up before it is added to. -/
def ready : Bool -> List (Instruction F) -> Bool
  | _, [] => true
  | got, .fetchAdd _ _ :: rest => ready got rest
  | _, .getHostMetrics _ :: rest => ready true rest
  | got, .hostFetchAdd _ _ :: rest => got && ready got rest
  | got, .addToSum _ :: rest => got && ready got rest
  | _, _ :: _ => false

theorem program_ready (args : Record F) : ready false (args.program ops) = true := by
  have totals : forall (adds : List (Total × Nat)) (rest : List (Instruction F)),
      ready false (adds.map (fun add => .fetchAdd add.1 add.2) ++ rest) = ready false rest := by
    intro adds rest
    induction adds with
    | nil => rfl
    | cons add others ih => exact ih
  have hosts : forall (adds : List (Counter × Nat)) (rest : List (Instruction F)),
      ready true (adds.map (fun add => .hostFetchAdd add.1 add.2) ++ rest) = ready true rest := by
    intro adds rest
    induction adds with
    | nil => rfl
    | cons add others ih => exact ih
  unfold Record.program Record.hostProgram
  rw [totals, ready, hosts]
  rfl

/-- A call as it is between two of its steps, where nothing is in its way. -/
structure Resting (state : State F) (index : Nat) (call : Call F) (remaining : List (Instruction F)) :
    Prop where
  found : state.calls[index]? = some call
  left : call.remaining = remaining
  fresh : call.loaded = none
  free : state.locked = none

/-- What a call left behind that ran alone. -/
structure Alone (state next : State F) (index : Nat) (call after : Call F) : Prop where
  calls : next.calls = state.calls.set index after
  same : after.operation = call.operation
  free : next.locked = none

theorem orInsert_locked {state : State F} (host : String) :
    (state.orInsert host).1.locked = state.locked := by
  unfold State.orInsert
  cases state.entry host <;> rfl

variable [DecidableEq F]

theorem step_advance {state : State F} {index : Nat} {call : Call F} {instruction : Instruction F}
    {rest : List (Instruction F)} (found : state.calls[index]? = some call)
    (left : call.remaining = instruction :: rest) :
    (metrics ops).step state (.advance index) = state.execute ops index call rest instruction := by
  change (state.calls[index]?).bind _ = _
  rw [found, Option.bind_some, left]

/-- A call that went on with its next instruction. -/
theorem advance_to {state next : State F} {index : Nat} {call after : Call F}
    {instruction : Instruction F} {rest : List (Instruction F)}
    (resting : Resting state index call (instruction :: rest))
    (executed : state.execute ops index call rest instruction = some next)
    (calls : next.calls = state.calls.set index after) (same : after.operation = call.operation)
    (now : after.remaining = rest) (fresh : after.loaded = none) (free : next.locked = none) :
    ∃ events, (metrics ops).run state events = some next ∧ Alone state next index call after ∧
      Resting next index after rest := by
  refine ⟨[.advance index], ?_, ⟨calls, same, free⟩, ?_, now, fresh, free⟩
  · exact (Machine.run_cons _).mpr ⟨next, (step_advance resting.found resting.left).trans executed, rfl⟩
  · rw [calls]
    exact List.getElem?_set_self (List.getElem?_eq_some_iff.mp resting.found).1

/-- The sum is loaded and exchanged with nobody in between. -/
theorem exchange_alone {state : State F} {index : Nat} {call : Call F} {elapsed : F}
    {rest : List (Instruction F)} {id : HostId} (resting : Resting state index call (.addToSum elapsed :: rest))
    (owns : call.host = some id) :
    ∃ events next, ∃ after : Call F, (metrics ops).run state events = some next ∧
      Alone state next index call after ∧ Resting next index after rest ∧ after.host = call.host := by
  let sum := (state.hosts id).histogramSum
  have inRange := (List.getElem?_eq_some_iff.mp resting.found).1
  have loads : (metrics ops).step state (.advance index) =
      some (state.setCall index { call with loaded := some sum }) := by
    rw [step_advance resting.found resting.left]
    simp [State.execute, owns, resting.fresh, sum]
  have there : (state.setCall index { call with loaded := some sum }).calls[index]? =
      some { call with loaded := some sum } := List.getElem?_set_self inRange
  have exchanges : (metrics ops).step (state.setCall index { call with loaded := some sum }) (.advance index) =
      some ((((state.setCall index { call with loaded := some sum }).setHost id
        { state.hosts id with histogramSum := ops.add sum elapsed }).setCall index
          { call with remaining := rest, loaded := none }).log index (.addToSum id elapsed)) := by
    rw [step_advance there resting.left]
    simp [State.execute, owns, State.setCall, sum]
  have ran := (Machine.run_cons _).mpr ⟨_, loads, (Machine.run_cons _).mpr ⟨_, exchanges, Machine.run_nil _ _⟩⟩
  refine ⟨_, _, { call with remaining := rest, loaded := none }, ran,
    ⟨List.set_set _, rfl, resting.free⟩, ⟨?_, rfl, rfl, resting.free⟩, rfl⟩
  apply List.getElem?_set_self
  rw [← List.length_set] at inRange
  exact inRange

theorem execute_lookup {state : State F} {index : Nat} {call : Call F} {rest : List (Instruction F)}
    (host : String) (free : state.locked = none) :
    state.execute ops index call rest (.getHostMetrics host) =
      some (((state.orInsert host).1.setCall index
        { call with remaining := rest, host := some (state.orInsert host).2 }).log index
          (.lookup host (state.orInsert host).2)) := by
  unfold State.execute
  exact if_pos free

/-- The first instruction of a call that nothing is in the way of. -/
theorem advance_alone {state : State F} {index : Nat} {call : Call F} {instruction : Instruction F}
    {rest : List (Instruction F)} (resting : Resting state index call (instruction :: rest))
    (isReady : ready call.host.isSome (instruction :: rest) = true) :
    ∃ events next, ∃ after : Call F, (metrics ops).run state events = some next ∧
      Alone state next index call after ∧ Resting next index after rest ∧
      ready after.host.isSome rest = true := by
  cases instruction with
  | fetchAdd total amount =>
      rcases advance_to resting rfl rfl rfl rfl resting.fresh resting.free with ⟨events, ran, alone, rested⟩
      exact ⟨events, _, _, ran, alone, rested, isReady⟩
  | getHostMetrics host =>
      have calls : _ = state.calls.set index _ := orInsert_set host index
        { call with remaining := rest, host := some (state.orInsert host).2 }
      rcases advance_to resting (execute_lookup host resting.free) calls rfl rfl resting.fresh
        ((orInsert_locked host).trans resting.free) with ⟨events, ran, alone, rested⟩
      exact ⟨events, _, _, ran, alone, rested, isReady⟩
  | hostFetchAdd counter amount =>
      rcases Bool.and_eq_true_iff.mp isReady with ⟨has, stillReady⟩
      rcases Option.isSome_iff_exists.mp has with ⟨id, owns⟩
      have executed : state.execute ops index call rest (.hostFetchAdd counter amount) =
          some (((state.addCounter id counter amount).setCall index
            { call with remaining := rest }).log index (.hostAdd id counter amount)) :=
        Option.map_eq_some_iff.mpr ⟨id, owns, rfl⟩
      rcases advance_to resting executed rfl rfl rfl resting.fresh resting.free with
        ⟨events, ran, alone, rested⟩
      exact ⟨events, _, _, ran, alone, rested, stillReady⟩
  | addToSum elapsed =>
      rcases Bool.and_eq_true_iff.mp isReady with ⟨has, stillReady⟩
      rcases Option.isSome_iff_exists.mp has with ⟨id, owns⟩
      rcases exchange_alone resting owns with ⟨events, next, after, ran, alone, rested, host⟩
      refine ⟨events, next, after, ran, alone, rested, ?_⟩
      rw [host]
      exact stillReady
  | store total => exact (nomatch isReady)
  | clear => exact (nomatch isReady)
  | load location => exact (nomatch isReady)
  | lock kind => exact (nomatch isReady)
  | unlock => exact (nomatch isReady)

theorem runs_alone (remaining : List (Instruction F)) {state : State F} {index : Nat} {call : Call F}
    (resting : Resting state index call remaining) (isReady : ready call.host.isSome remaining = true) :
    ∃ events next after, (metrics ops).run state events = some next ∧ Alone state next index call after ∧
      after.remaining = [] := by
  induction remaining generalizing state call with
  | nil =>
      refine ⟨[], state, call, rfl, ⟨?_, rfl, resting.free⟩, resting.left⟩
      rcases List.getElem?_eq_some_iff.mp resting.found with ⟨inRange, same⟩
      rw [← same, List.set_getElem_self]
  | cons instruction rest ih =>
      rcases advance_alone resting isReady with ⟨first, middle, between, ran, alone, rested, stillReady⟩
      rcases ih rested stillReady with ⟨events, next, after, ranOn, aloneOn, done⟩
      refine ⟨first ++ events, next, after, (Machine.run_append _).mpr ⟨middle, ran, ranOn⟩, ?_, done⟩
      refine ⟨?_, aloneOn.same.trans alone.same, aloneOn.free⟩
      rw [aloneOn.calls, alone.calls, List.set_set]

variable (ops) in
/-- Records of any number return, one after the other. -/
theorem records_return (args : Record F) (count : Nat) :
    ∃ events state, (metrics ops).run (State.initial ops) events = some state ∧ state.locked = none ∧
      (∀ call ∈ state.calls, call.remaining = []) ∧
      state.calls.map (·.operation) = List.replicate count (.record args) := by
  induction count with
  | zero => exact ⟨[], State.initial ops, rfl, rfl, fun _ among => absurd among List.not_mem_nil, rfl⟩
  | succ count ih =>
      rcases ih with ⟨events, state, ran, free, idle, operations⟩
      let call : Call F := ⟨.record args, args.program ops, none, none, []⟩
      let begun : State F := { state with calls := state.calls ++ [call] }
      have ranOn : (metrics ops).run (State.initial ops) (events ++ [.begin (.record args)]) = some begun :=
        (metrics ops).run_snoc ran rfl
      have resting : Resting begun state.calls.length call (args.program ops) := by
        refine ⟨?_, rfl, rfl, free⟩
        exact List.getElem?_concat_length
      rcases runs_alone _ resting (program_ready args) with ⟨more, next, after, ranAlone, alone, done⟩
      have calls : next.calls = state.calls ++ [after] := by
        rw [alone.calls, List.set_append_right _ _ (Nat.le_refl _), Nat.sub_self]
        rfl
      refine ⟨_, next, (Machine.run_append _).mpr ⟨begun, ranOn, ranAlone⟩, alone.free, ?_, ?_⟩
      · rw [calls]
        intro other among
        rcases List.mem_append.mp among with earlier | last
        · exact idle other earlier
        · rw [List.mem_singleton.mp last]
          exact done
      · rw [calls, List.map_append, operations, List.replicate_succ', List.map_singleton, alone.same]

end Runs

end Metrics
end Lkrequest
