import Lkrequest.Foundations.HashOrder
import Lkrequest.Request.Builder

namespace Lkrequest
namespace Client

open Foundations
open Request (StrMap)

/-!
# Address selection

`dns.rs`: the arguments `ip_family=` and `connect_to=`.  The entries of
`connect_to=` come from a hash map and are checked one after the other.
-/

/-- `std::net::IpAddr`. -/
inductive IpAddr
  | v4 (bits : BitVec 32)
  | v6 (bits : BitVec 128)
deriving DecidableEq

/-- `std::net::SocketAddr`.  The text of an IPv6 address can name a scope. -/
inductive SocketAddr
  | v4 (ip : BitVec 32) (port : Nat)
  | v6 (ip : BitVec 128) (port : Nat) (flowinfo scopeId : BitVec 32)
deriving DecidableEq

namespace SocketAddr

def ip : SocketAddr -> IpAddr
  | .v4 ip _ => .v4 ip
  | .v6 ip _ _ _ => .v6 ip

def port : SocketAddr -> Nat
  | .v4 _ port => port
  | .v6 _ port _ _ => port

end SocketAddr

/-- `Ipv6Addr::to_ipv4_mapped`: the addresses `::ffff:a.b.c.d`. -/
def toIpv4Mapped (bits : BitVec 128) : Option (BitVec 32) :=
  if bits.extractLsb' 32 96 = 0xffff then some (bits.extractLsb' 0 32) else none

/-- `lkrequest::IpFamily`. -/
inductive IpFamily
  | any
  | ipv4
  | ipv6
deriving DecidableEq

def parseIpFamily (name : String) : Except PyErr IpFamily :=
  match name with
  | "any" => .ok .any
  | "ipv4" => .ok .ipv4
  | "ipv6" => .ok .ipv6
  | _ => .error (.valueError ("Unknown ip_family: '" ++ name ++ "'. Available: any, ipv4, ipv6"))

def familyLabel : IpFamily -> String
  | .any => "any"
  | .ipv4 => "ipv4"
  | .ipv6 => "ipv6"

def familyAllows : IpFamily -> IpAddr -> Bool
  | .any, _ => true
  | .ipv4, .v4 _ => true
  | .ipv4, .v6 _ => false
  | .ipv6, .v4 _ => false
  | .ipv6, .v6 bits => (toIpv4Mapped bits).isNone

structure DialOverride where
  host : String
  port : Nat
  address : SocketAddr
deriving DecidableEq

/-- What an override is found by. -/
def DialOverride.origin (dial : DialOverride) : String × Nat := (dial.host, dial.port)

/-- What the `url` crate and the standard library decide about addresses. -/
structure Addresses where
  /-- `url::Host::parse`, printed. -/
  parseHost : String -> Option String
  /-- `str::parse::<SocketAddr>`. -/
  parseSocketAddr : String -> Option SocketAddr
  /-- `Display for SocketAddr`. -/
  showSocketAddr : SocketAddr -> String

/-! ## Origins -/

/-- `u16::from_str`: a plus sign is taken, and digits that make a number below 65536. -/
def parseU16 (text : List Char) : Option Nat :=
  let digits := if text.head? = some '+' then text.tail else text
  if digits ≠ [] ∧ digits.all Char.isDigit then
    let value := digits.foldl (fun value digit => 10 * value + (digit.toNat - '0'.toNat)) 0
    if value < 65536 then some value else none
  else none

def parsePort (text : List Char) : Option Nat :=
  (parseU16 text).filter (· ≠ 0)

/-- The text up to the first `]:`, its bracket included, and the text after it. -/
def splitBracket : List Char -> Option (List Char × List Char)
  | [] => none
  | char :: rest =>
      if char = ']' ∧ rest.head? = some ':' then some ([char], rest.tail)
      else (splitBracket rest).map (fun parts => (char :: parts.1, parts.2))

/-- `rsplit_once(':')`. -/
def rsplitColon : List Char -> Option (List Char × List Char)
  | [] => none
  | char :: rest =>
      match rsplitColon rest with
      | some parts => some (char :: parts.1, parts.2)
      | none => if char = ':' then some ([], rest) else none

section Parsing

variable (addresses : Addresses)

def invalidOrigin (key why : String) : PyErr := .valueError
  ("connect_to key '" ++ key ++ "' " ++ why ++
    "; expected \"host:port\" (an IPv6 host in brackets, e.g. \"[::1]:443\")")

/-- The host and the port of a key, as texts. -/
def splitOrigin (key : String) : Except PyErr (List Char × List Char) :=
  if key.toList.head? = some '[' then
    match splitBracket key.toList with
    | some parts => .ok parts
    | none => .error (invalidOrigin key "has no port")
  else
    match rsplitColon key.toList with
    | some (host, port) =>
        if ':' ∈ host then .error (invalidOrigin key "has an unbracketed IPv6 host")
        else .ok (host, port)
    | none => .error (invalidOrigin key "has no port")

def parseOrigin (key : String) : Except PyErr (String × Nat) := do
  let (host, port) <- splitOrigin key
  match parsePort port with
  | none => throw (invalidOrigin key "has an invalid port")
  | some port =>
      match addresses.parseHost (String.ofList host) with
      | none => throw (invalidOrigin key "has an invalid host")
      | some host => return (host, port)

def parseAddress (key value : String) : Except PyErr SocketAddr :=
  let refused : PyErr := .valueError
    ("connect_to value '" ++ value ++ "' for " ++ key ++
      " must be \"ip:port\" with a non-zero port (IPv6 as \"[2001:db8::1]:443\")")
  match addresses.parseSocketAddr value with
  | some address => if address.port ≠ 0 then .ok address else .error refused
  | none => .error refused

/-- The loop body of `parse_connect_to`, with the overrides so far. -/
def parseEntry (family : IpFamily) (overrides : List DialOverride) (entry : String × String) :
    Except PyErr (List DialOverride) :=
  match parseOrigin addresses entry.1 with
  | .error error => .error error
  | .ok (host, port) =>
      if ∃ dial ∈ overrides, dial.host = host ∧ dial.port = port then
        .error (.valueError ("connect_to lists " ++ host ++ ":" ++ toString port ++ " more than once"))
      else
        match parseAddress addresses entry.1 entry.2 with
        | .error error => .error error
        | .ok address =>
            if familyAllows family address.ip then .ok (overrides ++ [⟨host, port, address⟩])
            else .error (.valueError
              ("connect_to maps " ++ entry.1 ++ " to " ++ addresses.showSocketAddr address ++
                ", which ip_family=\"" ++ familyLabel family ++ "\" excludes"))

def parseConnectTo (entries : StrMap) (family : IpFamily) : Except PyErr (List DialOverride) :=
  entries.foldlM (parseEntry addresses family) []

/-- The override of an entry that is valid by itself. -/
def validOverride (family : IpFamily) (entry : String × String) : Option DialOverride :=
  match parseOrigin addresses entry.1, parseAddress addresses entry.1 entry.2 with
  | .ok (host, port), .ok address =>
      if familyAllows family address.ip then some ⟨host, port, address⟩ else none
  | _, _ => none

/-! ## When the entries are accepted -/

variable {addresses} {family : IpFamily}

/-- An entry is taken if it is valid and names an origin that is not there yet. -/
theorem parseEntry_ok_iff {overrides next : List DialOverride} {entry : String × String} :
    parseEntry addresses family overrides entry = .ok next <->
      ∃ dial, validOverride addresses family entry = some dial ∧
        dial.origin ∉ overrides.map DialOverride.origin ∧ next = overrides ++ [dial] := by
  unfold parseEntry validOverride
  cases named : parseOrigin addresses entry.1 with
  | error error => simp
  | ok origin =>
      rcases origin with ⟨host, port⟩
      have listed : (∃ dial ∈ overrides, dial.host = host ∧ dial.port = port) <->
          (host, port) ∈ overrides.map DialOverride.origin := by
        simp [DialOverride.origin]
      cases parsed : parseAddress addresses entry.1 entry.2 with
      | error error =>
          simp only [reduceCtorEq, false_and, exists_false, iff_false]
          split <;> exact fun raised => (nomatch raised)
      | ok address =>
          by_cases allowed : familyAllows family address.ip = true
          · simp only [listed, allowed, if_true, Option.some.injEq, exists_eq_left']
            by_cases there : (host, port) ∈ overrides.map DialOverride.origin
            · rw [if_pos there]
              exact iff_of_false (fun raised => (nomatch raised)) (fun absent => absent.1 there)
            · rw [if_neg there, Except.ok.injEq, eq_comm]
              exact (and_iff_right there).symm
          · simp only [if_neg allowed, reduceCtorEq, false_and, exists_false, iff_false]
            split <;> exact fun raised => (nomatch raised)

variable (addresses family) in
/-- The overrides of the entries that are valid by themselves, in their order. -/
def overridesOf (entries : StrMap) : List DialOverride :=
  entries.filterMap (validOverride addresses family)

variable (addresses family) in
/-- Every entry is valid by itself, and no two name the same origin. -/
structure Acceptable (entries : StrMap) : Prop where
  valid : ∀ entry ∈ entries, (validOverride addresses family entry).isSome = true
  distinct : ((overridesOf addresses family entries).map DialOverride.origin).Nodup

theorem foldlM_parseEntry {entries : StrMap} {before overrides : List DialOverride}
    (fresh : (before.map DialOverride.origin).Nodup) :
    entries.foldlM (parseEntry addresses family) before = .ok overrides <->
      (∀ entry ∈ entries, (validOverride addresses family entry).isSome = true) ∧
        ((before ++ overridesOf addresses family entries).map DialOverride.origin).Nodup ∧
        overrides = before ++ overridesOf addresses family entries := by
  induction entries generalizing before with
  | nil =>
      rw [List.foldlM_nil]
      simp only [overridesOf, List.filterMap_nil, List.append_nil]
      constructor
      · intro same
        exact ⟨fun _ among => absurd among List.not_mem_nil, fresh, (Except.ok.inj same).symm⟩
      · rintro ⟨-, -, rfl⟩
        rfl
  | cons entry rest folds =>
      rw [List.foldlM_cons, List.forall_mem_cons]
      constructor
      · intro folded
        cases parsed : parseEntry addresses family before entry with
        | error error =>
            rw [parsed] at folded
            exact (nomatch folded)
        | ok next =>
            rw [parsed] at folded
            rcases parseEntry_ok_iff.mp parsed with ⟨dial, valid, absent, rfl⟩
            have grown : ((before ++ [dial]).map DialOverride.origin).Nodup := by
              rw [List.map_append, List.map_singleton, ← List.concat_eq_append]
              exact (List.nodup_concat _ _).mpr ⟨absent, fresh⟩
            rcases (folds grown).mp folded with ⟨others, distinct, rfl⟩
            have taken : overridesOf addresses family (entry :: rest) =
                dial :: overridesOf addresses family rest := List.filterMap_cons_some valid
            rw [List.append_assoc, List.singleton_append, ← taken] at distinct ⊢
            exact ⟨⟨Option.isSome_of_eq_some valid, others⟩, distinct, rfl⟩
      · rintro ⟨⟨valid, others⟩, distinct, same⟩
        rcases Option.isSome_iff_exists.mp valid with ⟨dial, valid⟩
        have taken : overridesOf addresses family (entry :: rest) =
            dial :: overridesOf addresses family rest := List.filterMap_cons_some valid
        rw [taken, ← List.singleton_append, ← List.append_assoc] at distinct same
        have grown : ((before ++ [dial]).map DialOverride.origin).Nodup := by
          rw [List.map_append] at distinct
          exact distinct.of_append_left
        have absent : dial.origin ∉ before.map DialOverride.origin := by
          rw [List.map_append, List.map_singleton, ← List.concat_eq_append] at grown
          exact ((List.nodup_concat _ _).mp grown).1
        rw [parseEntry_ok_iff.mpr ⟨dial, valid, absent, rfl⟩]
        exact (folds grown).mpr ⟨others, distinct, same⟩

/-- The overrides are those of the entries, one for each, in the order of the map. -/
theorem parseConnectTo_ok_iff {entries : StrMap} {overrides : List DialOverride} :
    parseConnectTo addresses entries family = .ok overrides <->
      Acceptable addresses family entries ∧ overrides = overridesOf addresses family entries := by
  unfold parseConnectTo
  have nothing : (([] : List DialOverride).map DialOverride.origin).Nodup := List.nodup_nil
  rw [foldlM_parseEntry nothing, List.nil_append]
  constructor
  · rintro ⟨valid, distinct, same⟩
    exact ⟨⟨valid, distinct⟩, same⟩
  · rintro ⟨⟨valid, distinct⟩, same⟩
    exact ⟨valid, distinct, same⟩

/-- Whether the entries are acceptable does not depend on their order. -/
theorem Acceptable.perm {entries others : StrMap} (shuffled : entries.Perm others)
    (acceptable : Acceptable addresses family entries) : Acceptable addresses family others where
  valid := fun entry among => acceptable.valid entry (shuffled.mem_iff.mpr among)
  distinct := (((shuffled.filterMap _).map _).nodup_iff).mp acceptable.distinct

/-- Acceptable entries are told apart by their overrides. -/
theorem Acceptable.overridesOf_inj {entries others : StrMap} (shuffled : entries.Perm others)
    (acceptable : Acceptable addresses family entries)
    (same : overridesOf addresses family entries = overridesOf addresses family others) :
    entries = others := by
  have taken : forall {those : StrMap}, Acceptable addresses family those ->
      those.map (validOverride addresses family) = (overridesOf addresses family those).map some := by
    intro those accepted
    unfold overridesOf
    rw [List.map_filterMap_some_eq_filter_map_isSome, List.filter_eq_self.mpr]
    intro made among
    rcases List.mem_map.mp among with ⟨entry, inThose, rfl⟩
    exact accepted.valid entry inThose
  apply eq_of_map_eq shuffled
  · rw [taken acceptable]
    exact (acceptable.distinct.of_map _).map (Option.some_injective _)
  · rw [taken acceptable, taken (acceptable.perm shuffled), same]

end Parsing

end Client
end Lkrequest
