import Lkrequest.Python
import Lkrequest.Foundations.Rotation
import Lkrequest.Foundations.Runs
import Lkrequest.Foundations.Stateful

namespace Lkrequest
namespace Client

open Foundations

/-!
# The client pool

A pool hands out its clients in turn or at random.  The turn is found from a
machine word that counts the calls and is never reduced, so that it wraps; its
width is a parameter.  All calls are made under one lock, so that a list of
calls is any interleaving of them.
-/

/-! ## The pool -/

inductive RotationStrategy
  | roundRobin
  | random
deriving DecidableEq

structure ClientPoolInner (width : Nat) (Client : Type) where
  clients : List Client
  index : BitVec width
  strategy : RotationStrategy

/-- The pool with its lock, which is poisoned by a panic of its holder. -/
structure PyClientPool (width : Nat) (Client : Type) where
  inner : ClientPoolInner width Client
  poisoned : Bool

/-- What a call comes to; with a client, the index and the total that are logged. -/
inductive Reply (Client : Type)
  | acquired (client : Client) (index total : Nat)
  | added
  | raised (error : PyErr)
  | panicked (message : String)

inductive Call (Client : Type)
  | acquire (hash : BitVec 64)
  | add (client : Client)

section Pool

variable {width : Nat} {Client : Type}

def PyClientPool.new (clients : List Client) (rotation : String) :
    Except PyErr (PyClientPool width Client) :=
  if clients.isEmpty then .error (.valueError "ClientPool requires at least one client")
  else
    match rotation with
    | "round_robin" => .ok ⟨⟨clients, 0, .roundRobin⟩, false⟩
    | "random" => .ok ⟨⟨clients, 0, .random⟩, false⟩
    | _ =>
        .error (.valueError
          ("Unknown rotation strategy: '" ++ rotation ++ "'. Use: round_robin, random"))

/-- `%` on machine words. -/
def checkedRem (value length : Nat) : EStateM String (ClientPoolInner width Client) Nat :=
  if length = 0 then throw "attempt to calculate the remainder with a divisor of zero"
  else pure (value % length)

/-- `clients[idx]`. -/
def indexInto (clients : List Client) (idx : Nat) :
    EStateM String (ClientPoolInner width Client) Client :=
  match clients[idx]? with
  | some client => pure client
  | none => throw "index out of bounds"

/-- The body of `acquire` under the lock, where `hash` is what the hasher of a
new `RandomState` finishes with. -/
def ClientPoolInner.acquire (hash : BitVec 64) :
    EStateM String (ClientPoolInner width Client) (Client × Nat) := do
  let pool <- get
  match pool.strategy with
  | .roundRobin =>
      let idx <- checkedRem pool.index.toNat pool.clients.length
      set { pool with index := pool.index + 1 }
      let client <- indexInto pool.clients idx
      return (client, idx)
  | .random =>
      let idx <- checkedRem (hash.setWidth width).toNat pool.clients.length
      let client <- indexInto pool.clients idx
      return (client, idx)

def lockPoisoned : PyErr := .runtimeError "Lock poisoned"

def PyClientPool.acquire (pool : PyClientPool width Client) (hash : BitVec 64) :
    Reply Client × PyClientPool width Client :=
  if pool.poisoned then (.raised lockPoisoned, pool)
  else
    match (ClientPoolInner.acquire hash).run pool.inner with
    | .ok (client, idx) inner => (.acquired client idx inner.clients.length, ⟨inner, false⟩)
    | .error message inner => (.panicked message, ⟨inner, true⟩)

def PyClientPool.add (pool : PyClientPool width Client) (client : Client) :
    Reply Client × PyClientPool width Client :=
  if pool.poisoned then (.raised lockPoisoned, pool)
  else (.added, ⟨{ pool.inner with clients := pool.inner.clients ++ [client] }, false⟩)

def PyClientPool.answer (pool : PyClientPool width Client) : Call Client ->
    Reply Client × PyClientPool width Client
  | .acquire hash => pool.acquire hash
  | .add client => pool.add client

/-- One step for each call under the lock. -/
def clientPool : Machine (PyClientPool width Client) (Call Client) where
  step pool call := some (pool.answer call).2

/-- What the calls come to, one after the other. -/
def replies : PyClientPool width Client -> List (Call Client) -> List (Reply Client)
  | _, [] => []
  | pool, call :: rest => (pool.answer call).1 :: replies (pool.answer call).2 rest

/-! ## What the calls leave -/

/-- How many of the calls are to `acquire`. -/
def acquires : List (Call Client) -> Nat
  | [] => 0
  | .acquire _ :: rest => acquires rest + 1
  | .add _ :: rest => acquires rest

/-- The clients that the calls add, in their order. -/
def additions : List (Call Client) -> List Client
  | [] => []
  | .acquire _ :: rest => additions rest
  | .add client :: rest => client :: additions rest

/-- How far the counter is after a number of calls to `acquire`. -/
def RotationStrategy.advance : RotationStrategy -> Nat -> Nat
  | .roundRobin, count => count
  | .random, _ => 0

/-- The index that `acquire` uses. -/
def ClientPoolInner.turn (pool : ClientPoolInner width Client) (hash : BitVec 64) : Nat :=
  match pool.strategy with
  | .roundRobin => pool.index.toNat % pool.clients.length
  | .random => (hash.setWidth width).toNat % pool.clients.length

/-- The pool with its counter advanced. -/
def ClientPoolInner.advanced (pool : ClientPoolInner width Client) (count : Nat) :
    ClientPoolInner width Client :=
  { pool with index := pool.index + BitVec.ofNat width (pool.strategy.advance count) }

variable {pool : ClientPoolInner width Client}

@[simp] theorem ClientPoolInner.advanced_clients (count : Nat) :
    (pool.advanced count).clients = pool.clients := rfl

@[simp] theorem ClientPoolInner.advanced_strategy (count : Nat) :
    (pool.advanced count).strategy = pool.strategy := rfl

theorem ClientPoolInner.turn_lt (some : 0 < pool.clients.length) (hash : BitVec 64) :
    pool.turn hash < pool.clients.length := by
  unfold turn
  cases pool.strategy <;> exact Nat.mod_lt _ some

theorem checkedRem_run {value length : Nat} (positive : 0 < length) :
    (checkedRem value length).run pool = .ok (value % length) pool := by
  unfold checkedRem
  rw [if_neg (Nat.ne_of_gt positive)]
  rfl

theorem indexInto_run {clients : List Client} {idx : Nat} (within : idx < clients.length) :
    (indexInto clients idx).run pool = .ok clients[idx] pool := by
  unfold indexInto
  rw [List.getElem?_eq_getElem within]
  rfl

/-- A pool with a client hands out that of the turn. -/
theorem ClientPoolInner.acquire_run (some : 0 < pool.clients.length) (hash : BitVec 64) :
    (ClientPoolInner.acquire hash).run pool =
      .ok (pool.clients.get ⟨pool.turn hash, turn_lt some hash⟩, pool.turn hash) (pool.advanced 1) := by
  rcases pool with ⟨clients, index, strategy⟩
  have read : (get : EStateM String (ClientPoolInner width Client) _).run ⟨clients, index, strategy⟩ =
      .ok ⟨clients, index, strategy⟩ ⟨clients, index, strategy⟩ := rfl
  unfold ClientPoolInner.acquire
  rw [run_bind read]
  cases strategy with
  | roundRobin =>
      have within : index.toNat % clients.length < clients.length := Nat.mod_lt _ some
      have counted : (set (ClientPoolInner.mk clients (index + 1) .roundRobin) :
          EStateM String (ClientPoolInner width Client) PUnit).run ⟨clients, index, .roundRobin⟩ =
            .ok ⟨⟩ ⟨clients, index + 1, .roundRobin⟩ := rfl
      dsimp only
      rw [run_bind (checkedRem_run some), run_bind counted, run_bind (indexInto_run within)]
      rfl
  | random =>
      have within : (hash.setWidth width).toNat % clients.length < clients.length := Nat.mod_lt _ some
      dsimp only
      rw [run_bind (checkedRem_run some), run_bind (indexInto_run within)]
      have unmoved : (ClientPoolInner.mk clients index .random).advanced 1 =
          ⟨clients, index, .random⟩ := by
        unfold advanced
        exact congrArg (fun moved => ClientPoolInner.mk clients moved .random) (BitVec.add_zero index)
      rw [unmoved]
      rfl

/-- A pool that no panic has reached, and with a client in it. -/
structure PyClientPool.Sound (pool : PyClientPool width Client) : Prop where
  unpoisoned : pool.poisoned = false
  some : 0 < pool.inner.clients.length

theorem PyClientPool.answer_acquire {pool : PyClientPool width Client} (sound : pool.Sound)
    (hash : BitVec 64) :
    pool.answer (.acquire hash) =
      (.acquired (pool.inner.clients.get ⟨pool.inner.turn hash, pool.inner.turn_lt sound.some hash⟩)
        (pool.inner.turn hash) pool.inner.clients.length, ⟨pool.inner.advanced 1, false⟩) := by
  unfold answer acquire
  dsimp only
  rw [if_neg (by rw [sound.unpoisoned]; exact Bool.false_ne_true),
    ClientPoolInner.acquire_run sound.some hash]
  rfl

theorem PyClientPool.answer_add {pool : PyClientPool width Client} (sound : pool.Sound)
    (client : Client) :
    pool.answer (.add client) =
      (.added, ⟨{ pool.inner with clients := pool.inner.clients ++ [client] }, false⟩) := by
  unfold answer add
  dsimp only
  rw [if_neg (by rw [sound.unpoisoned]; exact Bool.false_ne_true)]

theorem RotationStrategy.advance_add (strategy : RotationStrategy) (first second : Nat) :
    strategy.advance (first + second) = strategy.advance first + strategy.advance second := by
  cases strategy <;> rfl

/-- The pool after the calls: what they added is at the end, and the counter is
advanced once for each client it handed out in turn. -/
def PyClientPool.afterCalls (pool : PyClientPool width Client) (calls : List (Call Client)) :
    PyClientPool width Client :=
  ⟨{ pool.inner.advanced (acquires calls) with clients := pool.inner.clients ++ additions calls }, false⟩

theorem run_eq_afterCalls {pool : PyClientPool width Client} (sound : pool.Sound)
    (calls : List (Call Client)) : clientPool.run pool calls = some (pool.afterCalls calls) := by
  induction calls generalizing pool with
  | nil =>
      rcases pool with ⟨⟨clients, index, strategy⟩, poisoned⟩
      have unpoisoned : poisoned = false := sound.unpoisoned
      have still : index + BitVec.ofNat width (strategy.advance 0) = index := by
        cases strategy <;> exact BitVec.add_zero index
      unfold PyClientPool.afterCalls ClientPoolInner.advanced
      rw [unpoisoned]
      dsimp only [acquires, additions]
      rw [still, List.append_nil, Machine.run_nil]
  | cons call rest ih =>
      rw [Machine.run_cons]
      refine ⟨_, rfl, ?_⟩
      cases call with
      | acquire hash =>
          have next : PyClientPool.Sound ⟨pool.inner.advanced 1, false⟩ := ⟨rfl, sound.some⟩
          rw [PyClientPool.answer_acquire sound]
          dsimp only
          rw [ih next]
          unfold PyClientPool.afterCalls ClientPoolInner.advanced
          dsimp only [acquires, additions]
          rw [BitVec.add_assoc, BitVec.ofNat_add_ofNat, ← RotationStrategy.advance_add, Nat.add_comm 1]
      | add client =>
          have grown : 0 < (pool.inner.clients ++ [client]).length := by
            rw [List.length_append]
            exact Nat.lt_of_lt_of_le sound.some (Nat.le_add_right _ _)
          have next : PyClientPool.Sound
              ⟨{ pool.inner with clients := pool.inner.clients ++ [client] }, false⟩ := ⟨rfl, grown⟩
          rw [PyClientPool.answer_add sound]
          dsimp only
          rw [ih next]
          unfold PyClientPool.afterCalls ClientPoolInner.advanced
          dsimp only [acquires, additions]
          rw [List.append_assoc, List.singleton_append]

theorem PyClientPool.Sound.afterCalls {pool : PyClientPool width Client} (sound : pool.Sound)
    (calls : List (Call Client)) : (pool.afterCalls calls).Sound := by
  refine ⟨rfl, ?_⟩
  unfold PyClientPool.afterCalls
  dsimp only
  rw [List.length_append]
  exact Nat.lt_of_lt_of_le sound.some (Nat.le_add_right _ _)

/-- A pool that is made has the clients it was made from, none of which was
handed out. -/
theorem PyClientPool.new_ok {clients : List Client} {rotation : String}
    {start : PyClientPool width Client} (created : new clients rotation = .ok start) :
    start.Sound ∧ start.inner.clients = clients ∧ start.inner.index = BitVec.ofNat width 0 ∧
      (rotation = "round_robin" -> start.inner.strategy = .roundRobin) := by
  unfold new at created
  split at created
  · exact (nomatch created)
  · rename_i filled
    have some : 0 < clients.length := by
      apply List.length_pos_iff.mpr
      rintro rfl
      exact filled rfl
    split at created
    · cases created
      exact ⟨⟨rfl, some⟩, rfl, rfl, fun _ => rfl⟩
    · cases created
      refine ⟨⟨rfl, some⟩, rfl, rfl, fun named => ?_⟩
      exact absurd named (by decide)
    · exact (nomatch created)

/-! ## Fairness -/

/-- The reply hands out the client at a position. -/
def Hands (clients : List Client) (position : Nat) (reply : Reply Client) : Prop :=
  ∃ client, clients[position]? = some client ∧ reply = .acquired client position clients.length

/-- Each client is handed out once, by its position in the pool. -/
def Fair (clients : List Client) (handed : List (Reply Client)) : Prop :=
  ∃ order, order.Perm (List.range clients.length) ∧ List.Forall₂ (Hands clients) order handed

theorem hands_leftUnique (clients : List Client) : Relator.LeftUnique (Hands clients) := by
  rintro position reply other ⟨client, _, rfl⟩ ⟨client', _, same⟩
  exact (Reply.acquired.inj same).2.1

/-- What calls in a row hand out of a pool in rotation. -/
theorem replies_window {pool : PyClientPool width Client} (sound : pool.Sound)
    (rotates : pool.inner.strategy = .roundRobin) (hashes : List (BitVec 64)) :
    List.Forall₂ (Hands pool.inner.clients)
      ((List.range hashes.length).map (fun step =>
        (pool.inner.index.toNat + step) % 2 ^ width % pool.inner.clients.length))
      (replies pool (hashes.map .acquire)) := by
  induction hashes generalizing pool with
  | nil => exact .nil
  | cons hash rest ih =>
      have next : PyClientPool.Sound ⟨pool.inner.advanced 1, false⟩ := ⟨rfl, sound.some⟩
      have onward := ih next rotates
      have position : pool.inner.turn hash =
          (pool.inner.index.toNat + 0) % 2 ^ width % pool.inner.clients.length := by
        unfold ClientPoolInner.turn
        rw [rotates, Nat.add_zero, Nat.mod_eq_of_lt pool.inner.index.isLt]
      have counter : forall step, ((pool.inner.advanced 1).index.toNat + step) % 2 ^ width =
          (pool.inner.index.toNat + (step + 1)) % 2 ^ width := by
        intro step
        have advanced : (pool.inner.advanced 1).index = pool.inner.index + BitVec.ofNat width 1 := by
          unfold ClientPoolInner.advanced
          rw [rotates]
          rfl
        rw [advanced, BitVec.toNat_add, BitVec.toNat_ofNat, Nat.add_mod_mod, Nat.mod_add_mod,
          Nat.add_assoc, Nat.add_comm 1]
      rw [List.length_cons, List.range_succ_eq_map, List.map_cons, List.map_map, List.map_cons]
      unfold replies
      rw [PyClientPool.answer_acquire sound]
      refine .cons ⟨_, ?_, by rw [← position]⟩ ?_
      · rw [← position]
        exact List.getElem?_eq_getElem (pool.inner.turn_lt sound.some hash)
      · have steps : (fun step => ((pool.inner.advanced 1).index.toNat + step) % 2 ^ width %
            pool.inner.clients.length) = (fun step => (pool.inner.index.toNat + step) % 2 ^ width %
              pool.inner.clients.length) ∘ Nat.succ := by
          funext step
          rw [Function.comp_apply, counter step]
        rw [← steps]
        exact onward

/-- A window as long as the pool is fair exactly when the counter does not wrap
in it, or when it wraps where a round ends. -/
theorem fair_iff {pool : PyClientPool width Client} (sound : pool.Sound)
    (rotates : pool.inner.strategy = .roundRobin) {hashes : List (BitVec 64)}
    (full : hashes.length = pool.inner.clients.length) :
    Fair pool.inner.clients (replies pool (hashes.map .acquire)) <->
      pool.inner.clients.length ∣ 2 ^ width ∨
        pool.inner.index.toNat + pool.inner.clients.length ≤ 2 ^ width := by
  rw [← turns_perm_iff sound.some pool.inner.index.isLt]
  have window := replies_window sound rotates hashes
  rw [full] at window
  constructor
  · rintro ⟨order, permuted, handed⟩
    have unique := Relator.LeftUnique.forall₂ (hands_leftUnique pool.inner.clients)
    have same : order = turns (2 ^ width) pool.inner.clients.length pool.inner.index.toNat :=
      unique handed window
    exact same ▸ permuted
  · intro permuted
    exact ⟨_, permuted, window⟩

/-- What `acquire` and `add` come to in a reached state: some client by a
position within bounds, and the clients that were there with one more. -/
structure Answers (pool : PyClientPool width Client) : Prop where
  filled : 0 < pool.inner.clients.length
  acquired : forall hash, ∃ position, position < pool.inner.clients.length ∧
    Hands pool.inner.clients position (pool.answer (.acquire hash)).1
  added : forall client, (pool.answer (.add client)).1 = .added ∧
    (pool.answer (.add client)).2.inner.clients = pool.inner.clients ++ [client]

theorem PyClientPool.Sound.answers {pool : PyClientPool width Client} (sound : pool.Sound) :
    Answers pool where
  filled := sound.some
  acquired hash := by
    have within := pool.inner.turn_lt sound.some hash
    refine ⟨pool.inner.turn hash, within, pool.inner.clients[pool.inner.turn hash], ?_, ?_⟩
    · exact List.getElem?_eq_getElem within
    · rw [PyClientPool.answer_acquire sound]
      rfl
  added client := by
    rw [PyClientPool.answer_add sound]
    exact ⟨rfl, rfl⟩

/-- In every state that calls reach, rotation is fair exactly when the number of
clients divides the range of the counter or the counter does not wrap before
the round is over; every call is answered, with whatever strategy; and what was
in the pool stays there. -/
theorem rotation_is_fair_iff {clients : List Client} {rotation : String}
    {start pool : PyClientPool width Client} {calls : List (Call Client)}
    (created : PyClientPool.new clients rotation = .ok start)
    (reached : clientPool.run start calls = some pool) :
    (rotation = "round_robin" -> forall hashes : List (BitVec 64),
      hashes.length = pool.inner.clients.length ->
        (Fair pool.inner.clients (replies pool (hashes.map .acquire)) <->
          pool.inner.clients.length ∣ 2 ^ width ∨
            acquires calls % 2 ^ width + pool.inner.clients.length ≤ 2 ^ width)) ∧
      Answers pool ∧ pool.inner.clients = clients ++ additions calls := by
  rcases PyClientPool.new_ok created with ⟨sound, filled, unused, named⟩
  rw [run_eq_afterCalls sound] at reached
  cases reached
  refine ⟨?_, (sound.afterCalls calls).answers, ?_⟩
  · intro inTurn hashes full
    have rotates := named inTurn
    have counted : (start.afterCalls calls).inner.index.toNat = acquires calls % 2 ^ width := by
      unfold PyClientPool.afterCalls ClientPoolInner.advanced
      dsimp only
      rw [unused, rotates]
      dsimp only [RotationStrategy.advance]
      rw [BitVec.zero_add, BitVec.toNat_ofNat]
    rw [← counted]
    exact fair_iff (sound.afterCalls calls) rotates full
  · rw [← filled]
    rfl

theorem acquires_replicate (count : Nat) (hash : BitVec 64) :
    acquires (List.replicate count (Call.acquire hash : Call Client)) = count := by
  induction count with
  | zero => rfl
  | succ count ih => rw [List.replicate_succ, acquires, ih]

theorem additions_replicate (count : Nat) (hash : BitVec 64) :
    additions (List.replicate count (Call.acquire hash : Call Client)) = [] := by
  induction count with
  | zero => rfl
  | succ count ih => rw [List.replicate_succ, additions, ih]

end Pool

/-- The pool of three browsers, with the counter of a 64-bit machine. -/
def threeBrowsers : PyClientPool 64 String := ⟨⟨["chrome", "firefox", "safari"], 0, .roundRobin⟩, false⟩

theorem threeBrowsers_new :
    PyClientPool.new ["chrome", "firefox", "safari"] "round_robin" = .ok threeBrowsers := rfl

/-- It after two of its clients were handed out and two were added. -/
def fiveBrowsers : PyClientPool 64 String :=
  ⟨⟨["chrome", "firefox", "safari", "edge", "opera"], 2, .roundRobin⟩, false⟩

/-- From there five calls hand out the five clients, beginning with the third. -/
theorem five_browsers_take_turns :
    clientPool.run threeBrowsers [.acquire 0, .add "edge", .add "opera", .acquire 0] = some fiveBrowsers ∧
      Fair fiveBrowsers.inner.clients (replies fiveBrowsers (List.replicate 5 (.acquire 0))) :=
  ⟨rfl, ((@rotation_is_fair_iff 64 String _ _ _ fiveBrowsers
    [.acquire 0, .add "edge", .add "opera", .acquire 0] threeBrowsers_new rfl).1 rfl
      (List.replicate 5 0) rfl).mpr (Or.inr (by decide))⟩

/-- The same pool with its counter at the last word. -/
def threeBrowsersLapping : PyClientPool 64 String :=
  ⟨⟨["chrome", "firefox", "safari"], BitVec.ofNat 64 (2 ^ 64 - 1), .roundRobin⟩, false⟩

/-- After 2^64 - 1 calls, the next three hand out the first client twice. -/
theorem wrap_repeats_the_first_client :
    clientPool.run threeBrowsers (List.replicate (2 ^ 64 - 1) (.acquire 0)) = some threeBrowsersLapping ∧
      replies threeBrowsersLapping [.acquire 0, .acquire 0, .acquire 0] =
        [.acquired "chrome" 0 3, .acquired "chrome" 0 3, .acquired "firefox" 1 3] ∧
      ¬ Fair ["chrome", "firefox", "safari"]
        (replies threeBrowsersLapping [.acquire 0, .acquire 0, .acquire 0]) := by
  have sound : threeBrowsers.Sound := ⟨rfl, by decide⟩
  have lapping : threeBrowsersLapping.Sound := ⟨rfl, by decide⟩
  have reached := run_eq_afterCalls sound (List.replicate (2 ^ 64 - 1) (.acquire 0))
  unfold PyClientPool.afterCalls ClientPoolInner.advanced at reached
  rw [acquires_replicate, additions_replicate] at reached
  refine ⟨reached, rfl, ?_⟩
  intro fair
  have fits := (@fair_iff 64 String _ lapping rfl [0, 0, 0] rfl).mp fair
  exact absurd fits (by decide)

end Client
end Lkrequest
