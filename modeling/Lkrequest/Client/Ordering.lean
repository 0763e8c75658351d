import Lkrequest.Foundations.OrderedDict
import Lkrequest.Client.Config

namespace Lkrequest
namespace Client

open Foundations
open Request (Failure StrMap)
open Session (StrPairs)

/-!
# The order of arguments that are pairs

`StrPairs` keeps the order the caller wrote.  A `HashMap` does not: it iterates
in an order that is drawn with the seed of the process.
-/

/-! ## Extraction -/

/-- An argument that should be pairs of texts, with the exceptions that
extracting it can raise. -/
inductive PairsArg
  | dict (entries : OrderedDict String String)
  | badDict (error : PyErr)
  | sequence (pairs : List (String × String)) (notADict : PyErr)
  | notPairs (notADict : PyErr)

namespace PairsArg

/-- The pairs as the caller wrote them. -/
def pairs : PairsArg -> List (String × String)
  | .dict entries => entries.entries
  | .sequence pairs _ => pairs
  | .badDict _ | .notPairs _ => []

/-- `StrPairs::extract_bound`. -/
def toPairs : PairsArg -> Except PyErr StrPairs
  | .dict entries => .ok entries.entries
  | .badDict error => .error error
  | .sequence pairs _ => .ok pairs
  | .notPairs _ => .error (.typeError "expected a dict[str, str] or a sequence of (str, str) pairs")

/-- Extraction of a `HashMap<String, String>`, which takes nothing but a dict. -/
def toMap (order : HashOrder String String) (seed : order.Seed) (map : Nat) :
    PairsArg -> Except PyErr StrMap
  | .dict entries => .ok (order.iterate seed map entries.entries)
  | .badDict error | .sequence _ error | .notPairs error => .error error

def IsPairs : PairsArg -> Prop
  | .dict _ | .sequence _ _ => True
  | .badDict _ | .notPairs _ => False

def IsDict : PairsArg -> Prop
  | .dict _ => True
  | _ => False

end PairsArg

section Extraction

variable (order : HashOrder String String) (seed : order.Seed) (map : Nat)

/-- The pairs of an optional argument, as the caller wrote them. -/
def written (arg : Option PairsArg) : Option (List (String × String)) := arg.map PairsArg.pairs

/-- The pairs of an optional argument, as its hash map iterates. -/
def shuffled (arg : Option PairsArg) : Option StrMap :=
  arg.map (fun given => order.iterate seed map given.pairs)

/-- An argument with at most one pair. -/
def Short (arg : Option PairsArg) : Prop := ∀ given ∈ arg, given.pairs.length ≤ 1

theorem mapM_ok {Value Result : Type} {extract : Value -> Except PyErr Result} {make : Value -> Result}
    {arg : Option Value} (each : ∀ given ∈ arg, extract given = .ok (make given)) :
    arg.mapM extract = .ok (arg.map make) := by
  cases arg with
  | none => rfl
  | some given =>
      change (some <$> extract given) = _
      rw [each given rfl]
      rfl

theorem mapM_error {Value Result : Type} {extract : Value -> Except PyErr Result} {arg : Option Value}
    {usable : Value -> Prop} (raises : forall given, ¬ usable given -> ∃ error, extract given = .error error)
    (unusable : ¬ ∀ given ∈ arg, usable given) : ∃ error, arg.mapM extract = .error error := by
  cases arg with
  | none => exact absurd (fun _ given => nomatch given) unusable
  | some given =>
      rcases raises given (fun fine => unusable (fun _ same => Option.some.inj same ▸ fine))
        with ⟨error, raised⟩
      refine ⟨error, ?_⟩
      change (some <$> extract given) = _
      rw [raised]
      rfl

theorem toPairs_ok {given : PairsArg} (usable : given.IsPairs) : given.toPairs = .ok given.pairs := by
  cases given with
  | dict entries => rfl
  | sequence pairs notADict => rfl
  | badDict error => exact usable.elim
  | notPairs notADict => exact usable.elim

theorem toPairs_error {given : PairsArg} (unusable : ¬ given.IsPairs) :
    ∃ error, given.toPairs = .error error := by
  cases given with
  | dict entries => exact absurd trivial unusable
  | sequence pairs notADict => exact absurd trivial unusable
  | badDict error => exact ⟨_, rfl⟩
  | notPairs notADict => exact ⟨_, rfl⟩

theorem toMap_ok {given : PairsArg} (usable : given.IsDict) :
    given.toMap order seed map = .ok (order.iterate seed map given.pairs) := by
  cases given with
  | dict entries => rfl
  | sequence pairs notADict => exact usable.elim
  | badDict error => exact usable.elim
  | notPairs notADict => exact usable.elim

/-- Pairs that are not in a dict are refused. -/
theorem toMap_error {given : PairsArg} (unusable : ¬ given.IsDict) :
    ∃ error, given.toMap order seed map = .error error := by
  cases given with
  | dict entries => exact absurd trivial unusable
  | sequence pairs notADict => exact ⟨_, rfl⟩
  | badDict error => exact ⟨_, rfl⟩
  | notPairs notADict => exact ⟨_, rfl⟩

/-- The keys of a dict are distinct, so the order of two or more of them varies. -/
theorem shuffled_same_iff {arg : Option PairsArg} (usable : ∀ given ∈ arg, given.IsDict) :
    (forall first second, shuffled order first map arg = shuffled order second map arg) <-> Short arg := by
  cases arg with
  | none => exact iff_of_true (fun _ _ => rfl) (fun _ given => nomatch given)
  | some given =>
      cases given with
      | dict entries =>
          have same := @HashOrder.iterate_same_iff _ _ order map entries.entries entries.distinct
          constructor
          · rintro alike _ ⟨rfl⟩
            exact same.mp (fun first second => Option.some.inj (alike first second))
          · intro short first second
            exact congrArg some (same.mpr (short _ rfl) first second)
      | sequence pairs notADict => exact (usable _ rfl).elim
      | badDict error => exact (usable _ rfl).elim
      | notPairs notADict => exact (usable _ rfl).elim

theorem shuffled_perm (arg : Option PairsArg) :
    ((shuffled order seed map arg).getD []).Perm ((written arg).getD []) := by
  cases arg with
  | none => exact List.Perm.refl []
  | some given => exact order.perm seed map given.pairs

theorem shuffled_eq_of_getD {arg : Option PairsArg} {first second : order.Seed}
    (same : (shuffled order first map arg).getD [] = (shuffled order second map arg).getD []) :
    shuffled order first map arg = shuffled order second map arg := by
  cases arg with
  | none => rfl
  | some given => exact congrArg some same

/-- A map with at most one entry is as the caller wrote it. -/
theorem shuffled_short {arg : Option PairsArg} (short : Short arg) :
    shuffled order seed map arg = written arg := by
  cases arg with
  | none => rfl
  | some given => exact congrArg some (order.iterate_short map (short _ rfl) seed)

end Extraction

/-! ## The calls of build_client -/

section Calls

variable (env : Environment) (cfg : ClientConfig)

/-- The calls of stages that make settings, up to the one that fails. -/
def settings (stages : List Stage) : List ClientCall := (runStages (stages.map Stage.calls)).1

/-- The calls after the default headers. -/
def afterHeaders : List ClientCall :=
  (runStages ((middleStages env cfg).map Stage.calls ++
    connectToStage env cfg :: (lastStages env cfg).map Stage.calls)).1

/-- The arguments before `connect_to` are usable. -/
def MiddleUsable : Prop := ∀ stage ∈ middleStages env cfg, stage.isOk = true

theorem settings_succeed {stages : List Stage} (usable : ∀ stage ∈ stages, stage.isOk = true) :
    (runStages (stages.map Stage.calls)).2 = .ok () := by
  apply runStages_succeeds
  intro calls among
  rcases List.mem_map.mp among with ⟨stage, inStages, rfl⟩
  exact isOk_calls.trans (usable stage inStages)

theorem settings_fail {stages : List Stage} (unusable : ¬ ∀ stage ∈ stages, stage.isOk = true) :
    ∃ failure, (runStages (stages.map Stage.calls)).2 = .error failure := by
  apply runStages_fails
  intro succeed
  apply unusable
  intro stage inStages
  exact isOk_calls.symm.trans (succeed _ (List.mem_map_of_mem inStages))

theorem buildClient_calls :
    (buildClient env cfg).1 = settings (profileStages cfg) ++
      ((cfg.defaultHeaders.getD []).map (fun pair => .defaultHeader pair.1 pair.2) ++
        afterHeaders env cfg) := by
  have usable : ∀ stage ∈ profileStages cfg, stage.isOk = true := by
    intro stage among
    simp only [profileStages, List.mem_cons, List.not_mem_nil, or_false] at among
    rcases among with rfl | rfl | rfl <;> rfl
  unfold buildClient
  rw [runStages_append_ok (settings_succeed usable)]
  rfl

variable {env cfg}

theorem afterHeaders_unusable (unusable : ¬ MiddleUsable env cfg) :
    afterHeaders env cfg = settings (middleStages env cfg) := by
  rcases settings_fail unusable with ⟨failure, failed⟩
  unfold afterHeaders
  rw [runStages_append_error failed]
  rfl

theorem afterHeaders_ok (usable : MiddleUsable env cfg) {dials : List DialOverride}
    (parsed : overrides env cfg = .ok dials) :
    afterHeaders env cfg = settings (middleStages env cfg) ++
      (dials.map .connectTo ++ settings (lastStages env cfg)) := by
  unfold afterHeaders connectToStage
  rw [runStages_append_ok (settings_succeed usable), parsed]
  rfl

theorem afterHeaders_error (usable : MiddleUsable env cfg) {failure : Failure}
    (refused : overrides env cfg = .error failure) :
    afterHeaders env cfg = settings (middleStages env cfg) := by
  unfold afterHeaders connectToStage
  rw [runStages_append_ok (settings_succeed usable), refused]
  exact List.append_nil _

theorem overrides_ok_iff {dials : List DialOverride} :
    overrides env cfg = .ok dials <->
      ∃ family, ipFamily cfg = .ok family ∧
        Acceptable env.toAddresses family (cfg.connectTo.getD []) ∧
        dials = overridesOf env.toAddresses family (cfg.connectTo.getD []) := by
  unfold overrides
  cases chosen : ipFamily cfg with
  | error failure =>
      apply iff_of_false
      · exact fun raised => (nomatch raised)
      · rintro ⟨family, impossible, -⟩
        exact (nomatch impossible)
  | ok family =>
      change raise (parseConnectTo env.toAddresses (cfg.connectTo.getD []) family) = .ok dials <-> _
      have same : raise (parseConnectTo env.toAddresses (cfg.connectTo.getD []) family) = .ok dials <->
          parseConnectTo env.toAddresses (cfg.connectTo.getD []) family = .ok dials := by
        unfold raise
        cases parseConnectTo env.toAddresses (cfg.connectTo.getD []) family with
        | error error => exact iff_of_false (fun raised => nomatch raised) (fun raised => nomatch raised)
        | ok parsed => exact ⟨fun taken => congrArg _ (Except.ok.inj taken),
            fun taken => congrArg _ (Except.ok.inj taken)⟩
      rw [same, parseConnectTo_ok_iff]
      constructor
      · rintro ⟨acceptable, made⟩
        exact ⟨family, rfl, acceptable, made⟩
      · rintro ⟨_, ⟨rfl⟩, acceptable, made⟩
        exact ⟨acceptable, made⟩

/-! ## Default headers among the calls -/

/-- The pair a call hands to `default_header`. -/
def ClientCall.defaultHeader? : ClientCall -> Option (String × String)
  | .defaultHeader name value => some (name, value)
  | .set _ | .connectTo _ => none

theorem noDefaultHeader_settings (stages : List Stage) :
    (settings stages).filterMap ClientCall.defaultHeader? = [] := by
  unfold settings
  induction stages with
  | nil => rfl
  | cons stage rest none =>
      rw [List.map_cons]
      cases stage with
      | error failure => rfl
      | ok made =>
          have foreign : (made.map ClientCall.set).filterMap ClientCall.defaultHeader? = [] := by
            simp [ClientCall.defaultHeader?]
          change ((made.map ClientCall.set) ++ _).filterMap _ = _
          rw [List.filterMap_append, foreign, none, List.append_nil]

theorem noDefaultHeader_afterHeaders : (afterHeaders env cfg).filterMap ClientCall.defaultHeader? = [] := by
  by_cases usable : MiddleUsable env cfg
  · cases parsed : overrides env cfg with
    | error failure =>
        rw [afterHeaders_error usable parsed]
        exact noDefaultHeader_settings _
    | ok dials =>
        have foreign : (dials.map ClientCall.connectTo).filterMap ClientCall.defaultHeader? = [] := by
          simp [ClientCall.defaultHeader?]
        rw [afterHeaders_ok usable parsed, List.filterMap_append, List.filterMap_append, foreign,
          noDefaultHeader_settings, noDefaultHeader_settings]
        rfl
  · rw [afterHeaders_unusable usable]
    exact noDefaultHeader_settings _

/-- The default headers are called with in the order of their map. -/
theorem defaultHeaders_buildClient :
    (buildClient env cfg).1.filterMap ClientCall.defaultHeader? = cfg.defaultHeaders.getD [] := by
  have own : forall pairs : StrMap,
      (pairs.map (fun pair => ClientCall.defaultHeader pair.1 pair.2)).filterMap
        ClientCall.defaultHeader? = pairs := by
    intro pairs
    induction pairs with
    | nil => rfl
    | cons pair rest taken => exact congrArg (pair :: ·) taken
  rw [buildClient_calls, List.filterMap_append, List.filterMap_append, own, noDefaultHeader_settings,
    noDefaultHeader_afterHeaders, List.append_nil, List.nil_append]

end Calls

/-! ## The client -/

/-- The arguments of `Client` and `BlockingClient`.  The two maps of `others` are
not used: they are extracted from `defaultHeaders` and `connectTo`. -/
structure ClientArgs where
  defaultHeaders : Option PairsArg
  connectTo : Option PairsArg
  others : ClientConfig

namespace ClientArgs

variable (order : HashOrder String String) (env : Environment) (made : Nat) (args : ClientArgs)

/-- The extraction of the arguments, in a process that has made some maps before. -/
def extract (seed : order.Seed) : Except PyErr ClientConfig := do
  let defaultHeaders <- args.defaultHeaders.mapM (PairsArg.toMap order seed made)
  let connectTo <- args.connectTo.mapM (PairsArg.toMap order seed (made + 1))
  return { args.others with defaultHeaders, connectTo }

/-- `Client(**args)`: the calls on the builder, and how it ends. -/
def build (seed : order.Seed) : List ClientCall × Except Failure Unit :=
  match args.extract order made seed with
  | .ok cfg => buildClient env cfg
  | .error error => ([], .error (.raised error))

/-- The arguments in the order the caller wrote them in. -/
def asWritten : ClientConfig :=
  { args.others with defaultHeaders := written args.defaultHeaders, connectTo := written args.connectTo }

/-- The arguments in the order of the hash maps. -/
def asHashed (seed : order.Seed) : ClientConfig :=
  { args.others with
    defaultHeaders := shuffled order seed made args.defaultHeaders
    connectTo := shuffled order seed (made + 1) args.connectTo }

/-- Both arguments are dicts of texts. -/
def Extractable : Prop :=
  (∀ given ∈ args.defaultHeaders, given.IsDict) ∧ ∀ given ∈ args.connectTo, given.IsDict

variable {args}

theorem extract_ok (usable : args.Extractable) (seed : order.Seed) :
    args.extract order made seed = .ok (args.asHashed order made seed) := by
  unfold extract
  rw [mapM_ok (fun given among => toMap_ok order seed made (usable.1 given among)),
    mapM_ok (fun given among => toMap_ok order seed (made + 1) (usable.2 given among))]
  rfl

theorem extract_error (unusable : ¬ args.Extractable) (seed : order.Seed) :
    ∃ error, args.extract order made seed = .error error := by
  unfold extract
  by_cases headers : ∀ given ∈ args.defaultHeaders, given.IsDict
  · have connect : ¬ ∀ given ∈ args.connectTo, given.IsDict := fun fine => unusable ⟨headers, fine⟩
    rcases mapM_error (fun given => toMap_error order seed (made + 1)) connect with ⟨error, raised⟩
    rw [mapM_ok (fun given among => toMap_ok order seed made (headers given among)), raised]
    exact ⟨error, rfl⟩
  · rcases mapM_error (fun given => toMap_error order seed made) headers with ⟨error, raised⟩
    rw [raised]
    exact ⟨error, rfl⟩

variable (args)

/-- The arguments before `connect_to` are usable, and so are its entries. -/
def ReachesConnectTo : Prop :=
  MiddleUsable env args.asWritten ∧ (overrides env args.asWritten).isOk = true

/-- Without a run to call on there are no calls. -/
theorem build_unusable (unusable : ¬ args.Extractable) (seed : order.Seed) :
    (args.build order env made seed).1 = [] := by
  rcases extract_error order made unusable seed with ⟨error, raised⟩
  unfold build
  rw [raised]

theorem build_usable (usable : args.Extractable) (seed : order.Seed) :
    args.build order env made seed = buildClient env (args.asHashed order made seed) := by
  unfold build
  rw [extract_ok order made usable seed]

variable {env args}

/-- Which overrides there are does not depend on the seed, only their order does. -/
theorem overrides_asHashed (reaches : args.ReachesConnectTo env) (seed : order.Seed) :
    ∃ family dials, overrides env (args.asHashed order made seed) = .ok dials ∧
      Acceptable env.toAddresses family ((shuffled order seed (made + 1) args.connectTo).getD []) ∧
      dials = overridesOf env.toAddresses family
        ((shuffled order seed (made + 1) args.connectTo).getD []) ∧
      ipFamily args.others = .ok family := by
  cases parsed : overrides env args.asWritten with
  | error failure =>
      have accepted := reaches.2
      rw [parsed] at accepted
      exact (nomatch accepted)
  | ok dials =>
      rcases overrides_ok_iff.mp parsed with ⟨family, chosen, acceptable, -⟩
      have hashed := acceptable.perm (shuffled_perm order seed (made + 1) args.connectTo).symm
      exact ⟨family, _, overrides_ok_iff.mpr ⟨family, chosen, hashed, rfl⟩, hashed, rfl, chosen⟩

theorem overrides_refused (refused : ¬ (overrides env args.asWritten).isOk = true) (seed : order.Seed) :
    ∃ failure, overrides env (args.asHashed order made seed) = .error failure := by
  cases parsed : overrides env (args.asHashed order made seed) with
  | error failure => exact ⟨failure, rfl⟩
  | ok dials =>
      rcases overrides_ok_iff.mp parsed with ⟨family, chosen, acceptable, -⟩
      have accepted : overrides env args.asWritten = .ok _ := overrides_ok_iff.mpr
        ⟨family, chosen, acceptable.perm (shuffled_perm order seed (made + 1) args.connectTo), rfl⟩
      rw [accepted] at refused
      exact absurd rfl refused

/-- Two builds that make the same calls have the same default headers, and the
same calls after them. -/
theorem same_parts (usable : args.Extractable) {first second : order.Seed}
    (same : (args.build order env made first).1 = (args.build order env made second).1) :
    shuffled order first made args.defaultHeaders = shuffled order second made args.defaultHeaders ∧
      afterHeaders env (args.asHashed order made first) =
        afterHeaders env (args.asHashed order made second) := by
  rw [build_usable order env made args usable, build_usable order env made args usable,
    buildClient_calls, buildClient_calls] at same
  have rest := List.append_cancel_left same
  have lengths : ((args.asHashed order made first).defaultHeaders.getD []).length =
      ((args.asHashed order made second).defaultHeaders.getD []).length :=
    (shuffled_perm order first made args.defaultHeaders).length_eq.trans
      (shuffled_perm order second made args.defaultHeaders).length_eq.symm
  rcases List.append_inj rest (by rw [List.length_map, List.length_map, lengths])
    with ⟨headers, after⟩
  refine ⟨shuffled_eq_of_getD order made ?_, after⟩
  apply List.map_injective_iff.mpr _ headers
  intro pair other sameCall
  injection sameCall with name value
  exact Prod.ext name value

/-- The same calls after the default headers show the same order of `connect_to`. -/
theorem same_connectTo (reaches : args.ReachesConnectTo env) {first second : order.Seed}
    (same : afterHeaders env (args.asHashed order made first) =
      afterHeaders env (args.asHashed order made second)) :
    shuffled order first (made + 1) args.connectTo = shuffled order second (made + 1) args.connectTo := by
  rcases overrides_asHashed order made reaches first with ⟨family, dials, parsed, acceptable, rfl, chosen⟩
  rcases overrides_asHashed order made reaches second with ⟨sameFamily, others, otherParsed, -, rfl, again⟩
  have one : sameFamily = family := Except.ok.inj (again.symm.trans chosen)
  subst one
  have middle : forall seed, MiddleUsable env (args.asHashed order made seed) := fun _ => reaches.1
  rw [afterHeaders_ok (middle first) parsed, afterHeaders_ok (middle second) otherParsed] at same
  have rest := List.append_cancel_left same
  have shuffledAlike := (shuffled_perm order first (made + 1) args.connectTo).trans
    (shuffled_perm order second (made + 1) args.connectTo).symm
  have lengths := (shuffledAlike.filterMap (validOverride env.toAddresses sameFamily)).length_eq
  rcases List.append_inj rest (by rw [List.length_map, List.length_map]; exact lengths)
    with ⟨calls, -⟩
  apply shuffled_eq_of_getD order (made + 1)
  apply acceptable.overridesOf_inj shuffledAlike
  apply List.map_injective_iff.mpr _ calls
  intro dial other sameCall
  injection sameCall

/-- The calls on the builder are the same for all seeds exactly if neither hash
map has two entries to call with. -/
theorem build_same_iff (usable : args.Extractable) :
    (forall first second,
        (args.build order env made first).1 = (args.build order env made second).1) <->
      Short args.defaultHeaders ∧ (args.ReachesConnectTo env -> Short args.connectTo) := by
  constructor
  · intro same
    constructor
    · rw [← shuffled_same_iff order made usable.1]
      intro first second
      exact (same_parts order made usable (same first second)).1
    · intro reaches
      rw [← shuffled_same_iff order (made + 1) usable.2]
      intro first second
      exact same_connectTo order made reaches (same_parts order made usable (same first second)).2
  · rintro ⟨shortHeaders, shortConnect⟩ first second
    rw [build_usable order env made args usable, build_usable order env made args usable,
      buildClient_calls, buildClient_calls]
    have headers : (args.asHashed order made first).defaultHeaders =
        (args.asHashed order made second).defaultHeaders :=
      (shuffled_short order first made shortHeaders).trans
        (shuffled_short order second made shortHeaders).symm
    have after : afterHeaders env (args.asHashed order made first) =
        afterHeaders env (args.asHashed order made second) := by
      by_cases middle : MiddleUsable env args.asWritten
      · have usableMiddle : forall seed, MiddleUsable env (args.asHashed order made seed) :=
          fun _ => middle
        by_cases parsed : (overrides env args.asWritten).isOk = true
        · have short := shortConnect ⟨middle, parsed⟩
          have hashed : forall seed, args.asHashed order made seed = args.asWritten := by
            intro seed
            unfold asHashed asWritten
            rw [shuffled_short order seed made shortHeaders, shuffled_short order seed (made + 1) short]
          rw [hashed first, hashed second]
        · rcases overrides_refused order made parsed first with ⟨failure, refused⟩
          rcases overrides_refused order made parsed second with ⟨other, refusedToo⟩
          rw [afterHeaders_error (usableMiddle first) refused,
            afterHeaders_error (usableMiddle second) refusedToo]
          rfl
      · have unusable : forall seed, ¬ MiddleUsable env (args.asHashed order made seed) :=
          fun _ => middle
        rw [afterHeaders_unusable (unusable first), afterHeaders_unusable (unusable second)]
        rfl
    rw [headers, after]
    rfl

/-- The calls on the client builder are a function of the arguments, and the
default headers are called with in the caller's order. -/
structure InOrder (order : HashOrder String String) (env : Environment) (made : Nat)
    (args : ClientArgs) : Prop where
  same : forall first second, (args.build order env made first).1 = (args.build order env made second).1
  defaultHeaders : forall seed, (args.build order env made seed).2 = .ok () ->
    (args.build order env made seed).1.filterMap ClientCall.defaultHeader? =
      (written args.defaultHeaders).getD []

variable (env args) in
/-- That is so exactly if no hash map with two entries is gone through. -/
theorem inOrder_iff :
    args.InOrder order env made <->
      (args.Extractable -> Short args.defaultHeaders ∧ (args.ReachesConnectTo env -> Short args.connectTo)) := by
  by_cases usable : args.Extractable
  · constructor
    · intro inOrder _
      exact (build_same_iff order made usable).mp inOrder.same
    · intro condition
      refine ⟨(build_same_iff order made usable).mpr (condition usable), ?_⟩
      intro seed _
      rw [build_usable order env made args usable, defaultHeaders_buildClient]
      exact congrArg (·.getD []) (shuffled_short order seed made (condition usable).1)
  · apply iff_of_true _ (fun fine => absurd fine usable)
    constructor
    · intro first second
      rw [build_unusable order env made args usable, build_unusable order env made args usable]
    · intro seed built
      rcases extract_error order made usable seed with ⟨error, raised⟩
      unfold build at built
      rw [raised] at built
      exact (nomatch built)

end ClientArgs

end Client
end Lkrequest
