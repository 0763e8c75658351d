import Lkrequest.Foundations.Stateful
import Lkrequest.Client.Dns

namespace Lkrequest
namespace Client

open Foundations
open Request (Duration Failure Library PyFloat StrMap validatedDuration)

/-!
# Building a client

`build_client` goes through the arguments in a fixed order and makes one call
on upstream's builder after the other; an argument that cannot be used ends it
with an exception.  Two of the arguments are hash maps.
-/

/-- A value of another crate's type, by identity. -/
abbrev Native := Nat

/-- The fields of `lkrequest::TimeoutConfig` that are set; the others keep their defaults. -/
structure TimeoutConfig where
  dnsTimeout : Option Duration
  tcpConnectTimeout : Option Duration
  tlsHandshakeTimeout : Option Duration
  ttfbTimeout : Option Duration
  totalTimeout : Option Duration
  quicConnectTimeout : Option Duration

/-- The fields of `lkrequest::ResourceLimits` that are set; the others keep their defaults. -/
structure ResourceLimits where
  maxResponseBodySize : Option Nat
  maxConnectionsPerSession : Option Nat
  maxHeaderCount : Option Nat
  maxHeaderSize : Option Nat
  maxHeadersTotalSize : Option Nat
  minTransferRate : Option Nat
  transferRateWindow : Option Duration

/-- `lkrequest::SystemDnsCacheConfig`. -/
structure SystemDnsCacheConfig where
  positive : Duration
  maxEntries : Option Nat

/-- `lkrequest::dns::DnsConfig`. -/
inductive DnsConfig
  | system
  | google
  | cloudflare
  | quad9
  | googleHttps
  | cloudflareHttps
  | quad9Https

/-- A setting of upstream's builder. -/
inductive Setting
  | fingerprint (profile : Native)
  | h2Profile (profile : Native)
  | tcpFingerprint (fingerprint : Native)
  | headerOrder (order : List String)
  | h3HeaderOrder (order : List String)
  | cookieOrder (order : List String)
  | timeoutConfig (config : TimeoutConfig)
  | resourceLimits (limits : ResourceLimits)
  | maxPendingH2Requests (number : Nat)
  | h2DispatchBatchSize (number : Nat)
  | h2FallbackH1 (value : Bool)
  | proxyFallbackDirect (value : Bool)
  | retryOnConnectionClose (value : Bool)
  | middleware (middleware : PyObject)
  | addCaCertsPem (pem : List UInt8)
  | addCaCertDer (der : List UInt8)
  | verify (value : Bool)
  | useNativeCerts
  | echConfig (config : List UInt8)
  | systemDnsCache (cache : SystemDnsCacheConfig)
  | dns (config : DnsConfig)
  | ipFamily (family : IpFamily)
  | keylog (callback : Native)
  | protocolPolicy (policy : Native)
  | sessionResumption (config : Native)
  | quicFingerprint (profile : Native)
  | quicProfile (profile : Native)
  | disableHttp3
  | randomize (policy : Native)
  | h2DataFramePolicy (policy : Native)
  | requireCloseNotify (value : Bool)
  | tlsSessionResumptionPolicy (policy : Native)
  | tlsSessionCachePartitionPolicy (policy : Native)
  | masque (config : Native)

/-- A call on `lkrequest::ClientBuilder`. -/
inductive ClientCall
  | set (setting : Setting)
  | defaultHeader (name value : String)
  | connectTo (dial : DialOverride)

/-- The arguments of a client, the two hash maps in their iteration order. -/
structure ClientConfig where
  tlsProfile : Option Native
  h2Profile : Option Native
  tcpFingerprint : Option Native
  defaultHeaders : Option StrMap
  headerOrder : Option (List String)
  h3HeaderOrder : Option (List String)
  cookieOrder : Option (List String)
  dnsTimeout : Option PyFloat
  tcpConnectTimeout : Option PyFloat
  tlsHandshakeTimeout : Option PyFloat
  ttfbTimeout : Option PyFloat
  totalTimeout : Option PyFloat
  maxResponseBodySize : Option Nat
  maxConnectionsPerSession : Option Nat
  maxPendingH2Requests : Option Nat
  h2DispatchBatchSize : Option Nat
  quicConnectTimeout : Option PyFloat
  maxHeaderCount : Option Nat
  maxHeaderSize : Option Nat
  maxHeadersTotalSize : Option Nat
  minTransferRate : Option Nat
  minTransferRateWindow : Option PyFloat
  h2FallbackH1 : Option Bool
  proxyFallbackDirect : Option Bool
  retryOnConnectionClose : Option Bool
  middleware : Option (List PyObject)
  caCert : Option String
  caCertPem : Option (List UInt8)
  caCertDer : Option (List UInt8)
  verify : Option Bool
  useNativeCerts : Bool
  echConfig : Option (List UInt8)
  dns : Option String
  ipFamily : Option String
  connectTo : Option StrMap
  systemDnsCacheTtl : Option PyFloat
  systemDnsCacheMaxEntries : Option Nat
  keylog : Option String
  protocolPolicy : Option Native
  sessionResumption : Option Native
  disableHttp3 : Bool
  quicFingerprint : Option Native
  quicProfile : Option Native
  randomize : Option Native
  h2DataFramePolicy : Option Native
  requireCloseNotify : Option Bool
  tlsSessionResumptionPolicy : Option Native
  tlsSessionCachePartitionPolicy : Option Native
  masque : Option Native

/-- What a client is built in: the features it was compiled with, and the files. -/
structure Environment extends Addresses where
  library : Library
  /-- The cargo feature `doh`. -/
  doh : Bool
  /-- `std::fs::read`, or the text of its error. -/
  readFile : String -> Except String (List UInt8)
  /-- `lkrequest::keylog_to_file`, or the text of its error. -/
  keylogToFile : String -> Except String Native

/-- A stage of `build_client` that makes settings. -/
abbrev Stage := Except Failure (List Setting)

/-- The calls of such a stage. -/
def Stage.calls (stage : Stage) : Except Failure (List ClientCall) := stage.map (List.map .set)

theorem isOk_calls {stage : Stage} : stage.calls.isOk = stage.isOk := by
  cases stage <;> rfl

theorem calls_error_iff {stage : Stage} {failure : Failure} :
    stage.calls = .error failure <-> stage = .error failure := by
  cases stage with
  | ok settings => exact iff_of_false nofun nofun
  | error raised => exact ⟨fun same => congrArg _ (Except.error.inj same),
      fun same => congrArg _ (Except.error.inj same)⟩

/-- `if let Some(value) = ... { builder = builder.setter(value) }`. -/
def ifSome {Value : Type} (value : Option Value) (setting : Value -> Setting) : Stage :=
  .ok (value.map setting).toList

/-- `if flag { builder = builder.setter() }`. -/
def ifTrue (flag : Bool) (setting : Setting) : Stage := .ok (if flag then [setting] else [])

def raise {Value : Type} : Except PyErr Value -> Except Failure Value :=
  Except.mapError Failure.raised

section Stages

variable (env : Environment) (cfg : ClientConfig)

def resolveDnsConfig (name : String) : Except PyErr DnsConfig :=
  let needsDoh : PyErr := .runtimeError
    ("DNS config '" ++ name ++
      "' requires building lkrequest-py with the 'doh' feature: maturin develop --features doh")
  match name with
  | "system" => .ok .system
  | "google" => .ok .google
  | "cloudflare" => .ok .cloudflare
  | "quad9" => .ok .quad9
  | "google_https" => if env.doh then .ok .googleHttps else .error needsDoh
  | "cloudflare_https" => if env.doh then .ok .cloudflareHttps else .error needsDoh
  | "quad9_https" => if env.doh then .ok .quad9Https else .error needsDoh
  | _ => .error (.valueError ("Unknown DNS config: '" ++ name ++
      "'. Available: system, google, google_https, cloudflare, cloudflare_https, quad9, quad9_https"))

def profileStages : List Stage :=
  [ifSome cfg.tlsProfile .fingerprint, ifSome cfg.h2Profile .h2Profile,
    ifSome cfg.tcpFingerprint .tcpFingerprint]

/-- The loop over the default headers. -/
def defaultHeaderStage : Except Failure (List ClientCall) :=
  .ok ((cfg.defaultHeaders.getD []).map (fun pair => .defaultHeader pair.1 pair.2))

/-- The timeouts are checked one after the other and set together. -/
def timeoutStage : Stage :=
  if cfg.dnsTimeout.isSome ∨ cfg.tcpConnectTimeout.isSome ∨ cfg.tlsHandshakeTimeout.isSome ∨
      cfg.ttfbTimeout.isSome ∨ cfg.totalTimeout.isSome ∨ cfg.quicConnectTimeout.isSome then do
    let dnsTimeout <- cfg.dnsTimeout.mapM (validatedDuration env.library)
    let tcpConnectTimeout <- cfg.tcpConnectTimeout.mapM (validatedDuration env.library)
    let tlsHandshakeTimeout <- cfg.tlsHandshakeTimeout.mapM (validatedDuration env.library)
    let ttfbTimeout <- cfg.ttfbTimeout.mapM (validatedDuration env.library)
    let totalTimeout <- cfg.totalTimeout.mapM (validatedDuration env.library)
    let quicConnectTimeout <- cfg.quicConnectTimeout.mapM (validatedDuration env.library)
    return [.timeoutConfig ⟨dnsTimeout, tcpConnectTimeout, tlsHandshakeTimeout, ttfbTimeout,
      totalTimeout, quicConnectTimeout⟩]
  else .ok []

/-- The window is looked at only with a rate. -/
def resourceStage : Stage :=
  if cfg.maxResponseBodySize.isSome ∨ cfg.maxConnectionsPerSession.isSome ∨
      cfg.maxHeaderCount.isSome ∨ cfg.maxHeaderSize.isSome ∨ cfg.maxHeadersTotalSize.isSome ∨
      cfg.minTransferRate.isSome then do
    let transferRateWindow <-
      if cfg.minTransferRate.isSome then cfg.minTransferRateWindow.mapM (validatedDuration env.library)
      else .ok none
    return [.resourceLimits {
      maxResponseBodySize := cfg.maxResponseBodySize
      maxConnectionsPerSession := cfg.maxConnectionsPerSession
      maxHeaderCount := cfg.maxHeaderCount
      maxHeaderSize := cfg.maxHeaderSize
      maxHeadersTotalSize := cfg.maxHeadersTotalSize
      minTransferRate := cfg.minTransferRate
      transferRateWindow := transferRateWindow }]
  else .ok []

/-- A number that upstream asserts is not zero. -/
def positiveStage (number : Option Nat) (message : String) (setting : Nat -> Setting) : Stage :=
  if number = some 0 then .error (.raised (.valueError message)) else ifSome number setting

def middlewareStage : Stage :=
  .ok ((cfg.middleware.getD []).map .middleware)

def caCertStage : Stage :=
  match cfg.caCert with
  | none => .ok []
  | some path =>
      match env.readFile path with
      | .ok pem => .ok [.addCaCertsPem pem]
      | .error error =>
          .error (.raised (.ioError ("Failed to read CA cert '" ++ path ++ "': " ++ error)))

/-- The resolver, of which there must be one. -/
def dnsStage : Stage :=
  if cfg.systemDnsCacheTtl.isSome ∧ cfg.dns.isSome then
    .error (.raised (.valueError
      ("system_dns_cache_ttl cannot be combined with dns: " ++
        "the cache already selects the system resolver")))
  else if cfg.systemDnsCacheMaxEntries.isSome ∧ cfg.systemDnsCacheTtl.isNone then
    .error (.raised (.valueError "system_dns_cache_max_entries requires system_dns_cache_ttl"))
  else
    match cfg.systemDnsCacheTtl with
    | some ttl => do
        let positive <- validatedDuration env.library ttl
        return [.systemDnsCache ⟨positive, cfg.systemDnsCacheMaxEntries⟩]
    | none =>
        match cfg.dns with
        | some name => do
            let config <- raise (resolveDnsConfig env name)
            return [.dns config]
        | none => .ok []

/-- `IpFamily::default()` is `any`. -/
def ipFamily : Except Failure IpFamily := do
  let given <- raise (cfg.ipFamily.mapM parseIpFamily)
  return given.getD .any

def ipFamilyStage : Stage := do
  let family <- ipFamily cfg
  return [.ipFamily family]

/-- The overrides of `connect_to`. -/
def overrides : Except Failure (List DialOverride) := do
  let family <- ipFamily cfg
  raise (parseConnectTo env.toAddresses (cfg.connectTo.getD []) family)

def connectToStage : Except Failure (List ClientCall) := do
  let dials <- overrides env cfg
  return dials.map .connectTo

def keylogStage : Stage :=
  match cfg.keylog with
  | none => .ok []
  | some path =>
      match env.keylogToFile path with
      | .ok callback => .ok [.keylog callback]
      | .error error =>
          .error (.raised (.ioError ("Failed to open keylog file '" ++ path ++ "': " ++ error)))

/-- The stages between the two hash maps. -/
def middleStages : List Stage :=
  [ifSome cfg.headerOrder .headerOrder, ifSome cfg.h3HeaderOrder .h3HeaderOrder,
    ifSome cfg.cookieOrder .cookieOrder, timeoutStage env cfg, resourceStage env cfg,
    positiveStage cfg.maxPendingH2Requests
      "max_pending_h2_requests must be greater than 0 (omit it for unbounded)" .maxPendingH2Requests,
    positiveStage cfg.h2DispatchBatchSize
      "h2_dispatch_batch_size must be greater than 0 (omit it for the default of 1)"
      .h2DispatchBatchSize,
    ifSome cfg.h2FallbackH1 .h2FallbackH1, ifSome cfg.proxyFallbackDirect .proxyFallbackDirect,
    ifSome cfg.retryOnConnectionClose .retryOnConnectionClose, middlewareStage cfg,
    caCertStage env cfg, ifSome cfg.caCertPem .addCaCertsPem, ifSome cfg.caCertDer .addCaCertDer,
    ifSome cfg.verify .verify, ifTrue cfg.useNativeCerts .useNativeCerts,
    ifSome cfg.echConfig .echConfig, dnsStage env cfg, ipFamilyStage cfg]

/-- The stages after the second hash map. -/
def lastStages : List Stage :=
  [keylogStage env cfg, ifSome cfg.protocolPolicy .protocolPolicy,
    ifSome cfg.sessionResumption .sessionResumption, ifSome cfg.quicFingerprint .quicFingerprint,
    ifSome cfg.quicProfile .quicProfile, ifTrue cfg.disableHttp3 .disableHttp3,
    ifSome cfg.randomize .randomize, ifSome cfg.h2DataFramePolicy .h2DataFramePolicy,
    ifSome cfg.requireCloseNotify .requireCloseNotify,
    ifSome cfg.tlsSessionResumptionPolicy .tlsSessionResumptionPolicy,
    ifSome cfg.tlsSessionCachePartitionPolicy .tlsSessionCachePartitionPolicy,
    ifSome cfg.masque .masque]

/-- `build_client`: the calls on the builder, and how it ends. -/
def buildClient : List ClientCall × Except Failure Unit :=
  runStages ((profileStages cfg).map Stage.calls ++ defaultHeaderStage cfg ::
    ((middleStages env cfg).map Stage.calls ++ connectToStage env cfg ::
      (lastStages env cfg).map Stage.calls))

end Stages

end Client
end Lkrequest
