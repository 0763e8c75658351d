import Lkrequest.Client.Origins

namespace Lkrequest
namespace Client

/-!
# The overrides of `connect_to`

Which maps are accepted does not depend on the order in which their entries come
out of the hash map, and neither does the set of the overrides.  An override
printed as an entry is read back as itself.
-/

section Overrides

variable {addresses : Addresses} {family : IpFamily}

/-! ## Valid entries -/

/-- The key is an origin, and the value a socket address that the family allows. -/
structure Valid (addresses : Addresses) (family : IpFamily) (entry : String × String) : Prop where
  origin : ∃ origin, parseOrigin addresses entry.1 = .ok origin
  address : ∃ address, addresses.parseSocketAddr entry.2 = some address ∧ address.port ≠ 0 ∧
    familyAllows family address.ip = true

/-- The override is what the entry says. -/
structure Stands (addresses : Addresses) (family : IpFamily) (entry : String × String) (dial : DialOverride) :
    Prop where
  origin : parseOrigin addresses entry.1 = .ok dial.origin
  address : addresses.parseSocketAddr entry.2 = some dial.address
  nonzero : dial.address.port ≠ 0
  allowed : familyAllows family dial.address.ip = true

theorem parseAddress_ok_iff {key value : String} {address : SocketAddr} :
    parseAddress addresses key value = .ok address <->
      addresses.parseSocketAddr value = some address ∧ address.port ≠ 0 := by
  unfold parseAddress
  cases addresses.parseSocketAddr value with
  | none => simp
  | some other =>
      by_cases zero : other.port = 0
      · simp only [zero, ne_eq, not_true, if_false, reduceCtorEq, false_iff, not_and, not_not,
          Option.some.injEq]
        rintro rfl
        exact zero
      · simp only [zero, ne_eq, not_false_iff, if_true, Except.ok.injEq, Option.some.injEq]
        constructor
        · rintro rfl
          exact ⟨rfl, zero⟩
        · exact fun both => both.1

theorem validOverride_iff {entry : String × String} {dial : DialOverride} :
    validOverride addresses family entry = some dial <-> Stands addresses family entry dial := by
  unfold validOverride
  constructor
  · intro valid
    split at valid
    case h_2 => exact (nomatch valid)
    case h_1 host port address named parsed =>
      split at valid
      case isFalse => exact (nomatch valid)
      case isTrue allowed =>
        cases valid
        rcases parseAddress_ok_iff.mp parsed with ⟨read, nonzero⟩
        exact ⟨named, read, nonzero, allowed⟩
  · rintro ⟨origin, address, nonzero, allowed⟩
    rw [origin, parseAddress_ok_iff.mpr ⟨address, nonzero⟩]
    exact if_pos allowed

theorem valid_iff {entry : String × String} :
    (validOverride addresses family entry).isSome = true <-> Valid addresses family entry := by
  rw [Option.isSome_iff_exists]
  constructor
  · rintro ⟨dial, valid⟩
    have stands := validOverride_iff.mp valid
    exact ⟨⟨_, stands.origin⟩, _, stands.address, stands.nonzero, stands.allowed⟩
  · rintro ⟨⟨origin, named⟩, address, read, nonzero, allowed⟩
    exact ⟨⟨origin.1, origin.2, address⟩, validOverride_iff.mpr ⟨named, read, nonzero, allowed⟩⟩

/-- One override for each entry. -/
theorem overridesOf_stands {entries : Request.StrMap}
    (valid : ∀ entry ∈ entries, Valid addresses family entry) :
    List.Forall₂ (Stands addresses family) entries (overridesOf addresses family entries) := by
  induction entries with
  | nil => exact .nil
  | cons entry rest ih =>
      rw [List.forall_mem_cons] at valid
      rcases Option.isSome_iff_exists.mp (valid_iff.mpr valid.1) with ⟨dial, made⟩
      have taken : overridesOf addresses family (entry :: rest) =
          dial :: overridesOf addresses family rest := List.filterMap_cons_some made
      rw [taken]
      exact .cons (validOverride_iff.mp made) (ih valid.2)

/-- Entries are told apart by what their keys are parsed to. -/
theorem nodup_origins_iff {entries : Request.StrMap} {overrides : List DialOverride}
    (stands : List.Forall₂ (Stands addresses family) entries overrides) :
    (overrides.map DialOverride.origin).Nodup <->
      entries.Pairwise (fun entry other =>
        parseOrigin addresses entry.1 ≠ parseOrigin addresses other.1) := by
  have same : entries.map (fun entry => parseOrigin addresses entry.1) =
      (overrides.map DialOverride.origin).map Except.ok := by
    induction stands with
    | nil => rfl
    | cons stands _ ih => rw [List.map_cons, List.map_cons, List.map_cons, stands.origin, ih]
  have injective : Function.Injective (Except.ok : String × Nat -> Except PyErr (String × Nat)) :=
    fun _ _ => Except.ok.inj
  rw [← List.nodup_map_iff injective, ← same]
  exact List.pairwise_map

theorem acceptable_iff {entries : Request.StrMap} : Acceptable addresses family entries <->
    (∀ entry ∈ entries, Valid addresses family entry) ∧
      entries.Pairwise (fun entry other =>
        parseOrigin addresses entry.1 ≠ parseOrigin addresses other.1) := by
  constructor
  · rintro ⟨valid, distinct⟩
    have all : ∀ entry ∈ entries, Valid addresses family entry :=
      fun entry among => valid_iff.mp (valid entry among)
    exact ⟨all, (nodup_origins_iff (overridesOf_stands all)).mp distinct⟩
  · rintro ⟨all, distinct⟩
    exact ⟨fun entry among => valid_iff.mpr (all entry among),
      (nodup_origins_iff (overridesOf_stands all)).mpr distinct⟩

/-! ## Printing an override -/

/-- The entry that an override is printed as. -/
def DialOverride.entry (addresses : Addresses) (dial : DialOverride) : String × String :=
  (dial.host ++ ":" ++ toString dial.port, addresses.showSocketAddr dial.address)

/-- What is printed is read back: a host is its own normal form, an IPv6 host
prints in brackets and no other host has a colon. -/
structure Addresses.ReadsBack (addresses : Addresses) : Prop where
  brackets : addresses.BracketsHosts
  host : forall text host, addresses.parseHost text = some host -> addresses.parseHost host = some host
  plain : forall text host, addresses.parseHost text = some host -> host.toList.head? ≠ some '[' ->
    ':' ∉ host.toList
  address : forall text address, addresses.parseSocketAddr text = some address ->
    addresses.parseSocketAddr (addresses.showSocketAddr address) = some address

theorem isPort_toDigits {port : Nat} (pos : 1 ≤ port) (bound : port ≤ 65535) :
    IsPort (Nat.toDigits 10 port) port where
  nonempty := Nat.toDigits_ne_nil
  digit := fun _ among => Nat.isDigit_of_mem_toDigits (by decide) (by decide) among
  value := Nat.ofDigitChars_ten_toDigits
  pos := pos
  bound := bound

/-- The host and the port of an origin that was parsed. -/
theorem parsed_of_parseOrigin {key host : String} {port : Nat}
    (named : parseOrigin addresses key = .ok (host, port)) :
    (∃ text, addresses.parseHost text = some host) ∧ 1 ≤ port ∧ port ≤ 65535 := by
  rcases parseOrigin_ok_iff.mp named with ⟨hostText, portText, _, numbered, parsed⟩
  refine ⟨⟨_, parsed⟩, ?_⟩
  rcases parsePort_iff.mp numbered with isPort | ⟨digits, _, isPort⟩
  · exact ⟨isPort.pos, isPort.bound⟩
  · exact ⟨isPort.pos, isPort.bound⟩

theorem parseOrigin_printed (readsBack : addresses.ReadsBack) {key host : String} {port : Nat}
    (named : parseOrigin addresses key = .ok (host, port)) :
    parseOrigin addresses (host ++ ":" ++ toString port) = .ok (host, port) := by
  rcases parsed_of_parseOrigin named with ⟨⟨text, parsed⟩, pos, bound⟩
  have again := readsBack.host text host parsed
  have whole : (host ++ ":" ++ toString port).toList = host.toList ++ ':' :: Nat.toDigits 10 port := by
    have digits : (toString port).toList = Nat.toDigits 10 port := Nat.toList_repr
    rw [String.toList_append, String.toList_append, digits, List.append_assoc]
    rfl
  have form : HostForm host.toList := by
    by_cases bracket : host.toList.head? = some '['
    · rcases readsBack.brackets host host again bracket with ⟨inner, same, _⟩
      exact Or.inl ⟨inner, same⟩
    · exact Or.inr (readsBack.plain text host parsed bracket)
  refine (parseOrigin_accepts readsBack.brackets).mpr (Or.inl ⟨_, _, whole, form, ?_, ?_⟩)
  · rwa [String.ofList_toList]
  · exact isPort_toDigits pos bound

theorem Stands.printed (readsBack : addresses.ReadsBack) {entry : String × String} {dial : DialOverride}
    (stands : Stands addresses family entry dial) :
    Stands addresses family (dial.entry addresses) dial where
  origin := parseOrigin_printed readsBack stands.origin
  address := readsBack.address _ _ stands.address
  nonzero := stands.nonzero
  allowed := stands.allowed

theorem printed_stands (readsBack : addresses.ReadsBack) {entries : Request.StrMap}
    {overrides : List DialOverride} (stands : List.Forall₂ (Stands addresses family) entries overrides) :
    List.Forall₂ (Stands addresses family) (overrides.map (DialOverride.entry addresses)) overrides := by
  induction stands with
  | nil => exact .nil
  | cons stands _ ih => exact .cons (stands.printed readsBack) ih

theorem stands_of_mem {entries : Request.StrMap} {overrides : List DialOverride}
    (stands : List.Forall₂ (Stands addresses family) entries overrides) {dial : DialOverride}
    (among : dial ∈ overrides) : ∃ entry, Stands addresses family entry dial := by
  induction stands with
  | nil => exact absurd among List.not_mem_nil
  | cons stands _ ih =>
      rcases List.mem_cons.mp among with rfl | later
      · exact ⟨_, stands⟩
      · exact ih later

/-- Entries that stand for overrides are parsed to them. -/
theorem overridesOf_eq {entries : Request.StrMap} {overrides : List DialOverride}
    (stands : List.Forall₂ (Stands addresses family) entries overrides) :
    overridesOf addresses family entries = overrides := by
  induction stands with
  | nil => rfl
  | cons stands _ ih =>
      exact (List.filterMap_cons_some (validOverride_iff.mpr stands)).trans (congrArg _ ih)

theorem valid_of_stands {entries : Request.StrMap} {overrides : List DialOverride}
    (stands : List.Forall₂ (Stands addresses family) entries overrides) :
    ∀ entry ∈ entries, Valid addresses family entry := by
  induction stands with
  | nil => exact fun _ among => absurd among List.not_mem_nil
  | cons stands _ ih =>
      rw [List.forall_mem_cons]
      exact ⟨valid_iff.mp (Option.isSome_of_eq_some (validOverride_iff.mpr stands)), ih⟩

/-- Entries that stand for overrides with different origins are accepted. -/
theorem parseConnectTo_of_stands {entries : Request.StrMap} {overrides : List DialOverride}
    (stands : List.Forall₂ (Stands addresses family) entries overrides)
    (distinct : (overrides.map DialOverride.origin).Nodup) :
    parseConnectTo addresses entries family = .ok overrides := by
  refine parseConnectTo_ok_iff.mpr ⟨acceptable_iff.mpr ⟨valid_of_stands stands, ?_⟩, ?_⟩
  · exact (nodup_origins_iff stands).mp distinct
  · exact (overridesOf_eq stands).symm

/-- Another order of the map gives the same overrides in another order. -/
theorem parseConnectTo_perm {entries others : Request.StrMap} {overrides : List DialOverride}
    (shuffled : entries.Perm others) (parsed : parseConnectTo addresses entries family = .ok overrides) :
    ∃ same, parseConnectTo addresses others family = .ok same ∧ same.Perm overrides := by
  rcases parseConnectTo_ok_iff.mp parsed with ⟨acceptable, rfl⟩
  exact ⟨_, parseConnectTo_ok_iff.mpr ⟨acceptable.perm shuffled, rfl⟩, (shuffled.filterMap _).symm⟩

/-! ## The contract -/

/-- What the overrides of a map that was accepted are. -/
structure Accepted (addresses : Addresses) (family : IpFamily) (entries : Request.StrMap)
    (overrides : List DialOverride) : Prop where
  any_order : forall others : Request.StrMap, entries.Perm others ->
    ∃ same, parseConnectTo addresses others family = .ok same ∧ same.Perm overrides
  one_each : List.Forall₂ (Stands addresses family) entries overrides
  distinct : (overrides.map DialOverride.origin).Nodup
  ports : ∀ dial ∈ overrides, dial.port ≠ 0 ∧ dial.address.port ≠ 0
  keys : ((overrides.map (DialOverride.entry addresses)).map Prod.fst).Nodup
  reads_back : forall fed, fed.Perm (overrides.map (DialOverride.entry addresses)) ->
    ∃ again, parseConnectTo addresses fed family = .ok again ∧ again.Perm overrides

/-- A map is accepted if and only if its entries are valid and name different
origins, whatever their order. -/
theorem connect_to_contract (readsBack : addresses.ReadsBack) (family : IpFamily) (entries : Request.StrMap) :
    (forall others : Request.StrMap, entries.Perm others ->
      ((∃ overrides, parseConnectTo addresses others family = .ok overrides) <->
        (∀ entry ∈ entries, Valid addresses family entry) ∧
          entries.Pairwise (fun entry other =>
            parseOrigin addresses entry.1 ≠ parseOrigin addresses other.1))) ∧
    forall overrides, parseConnectTo addresses entries family = .ok overrides ->
      Accepted addresses family entries overrides := by
  constructor
  · intro others shuffled
    rw [← acceptable_iff]
    constructor
    · rintro ⟨overrides, parsed⟩
      exact (parseConnectTo_ok_iff.mp parsed).1.perm shuffled.symm
    · intro acceptable
      exact ⟨_, parseConnectTo_ok_iff.mpr ⟨acceptable.perm shuffled, rfl⟩⟩
  · intro overrides parsed
    rcases parseConnectTo_ok_iff.mp parsed with ⟨acceptable, same⟩
    have stands : List.Forall₂ (Stands addresses family) entries overrides := by
      rw [same]
      exact overridesOf_stands (acceptable_iff.mp acceptable).1
    have distinct : (overrides.map DialOverride.origin).Nodup := same ▸ acceptable.distinct
    have printed := printed_stands readsBack stands
    have fed := parseConnectTo_of_stands printed distinct
    constructor
    case any_order => exact fun others shuffled => parseConnectTo_perm shuffled parsed
    case one_each => exact stands
    case distinct => exact distinct
    case ports =>
      intro dial among
      rcases stands_of_mem stands among with ⟨entry, one⟩
      exact ⟨Nat.ne_of_gt (parsed_of_parseOrigin one.origin).2.1, one.nonzero⟩
    case keys =>
      rw [List.Nodup, List.pairwise_map]
      refine ((nodup_origins_iff printed).mp distinct).imp ?_
      intro entry other apart same
      exact apart (congrArg (parseOrigin addresses) same)
    case reads_back => exact fun others shuffled => parseConnectTo_perm shuffled.symm fed

end Overrides

theorem exampleAddresses_readsBack : exampleAddresses.ReadsBack where
  brackets := exampleAddresses_bracketsHosts
  host := by
    intro text host parsed
    change (if text = "example.com" ∨ text = "Example.com" then some "example.com"
      else if text = "[::1]" then some "[::1]" else none) = some host at parsed
    split at parsed
    · cases parsed
      rfl
    · split at parsed
      · cases parsed
        rfl
      · exact (nomatch parsed)
  plain := by
    intro text host parsed
    change (if text = "example.com" ∨ text = "Example.com" then some "example.com"
      else if text = "[::1]" then some "[::1]" else none) = some host at parsed
    split at parsed
    · cases parsed
      exact fun _ => by decide
    · split at parsed
      · cases parsed
        exact fun plain => absurd rfl plain
      · exact (nomatch parsed)
  address := by
    intro text address parsed
    change (if text = "192.0.2.1:443" then some (.v4 0xc0000201#32 443) else none) = some address at parsed
    split at parsed
    · cases parsed
      rfl
    · exact (nomatch parsed)

/-- Two origins that dial one address, in a spelling that is not the normal one. -/
def exampleEntries : Request.StrMap :=
  [("Example.com:0443", "192.0.2.1:443"), ("[::1]:8443", "192.0.2.1:443")]

theorem connect_to_example :
    ∃ overrides, parseConnectTo exampleAddresses exampleEntries .ipv4 = .ok overrides ∧
      overrides.map (DialOverride.entry exampleAddresses) =
        [("example.com:443", "192.0.2.1:443"), ("[::1]:8443", "192.0.2.1:443")] ∧
      Accepted exampleAddresses .ipv4 exampleEntries overrides := by
  have parsed : parseConnectTo exampleAddresses exampleEntries .ipv4 =
      .ok [⟨"example.com", 443, .v4 0xc0000201#32 443⟩, ⟨"[::1]", 8443, .v4 0xc0000201#32 443⟩] := rfl
  exact ⟨_, parsed, rfl, (connect_to_contract exampleAddresses_readsBack .ipv4 exampleEntries).2 _ parsed⟩

end Client
end Lkrequest
