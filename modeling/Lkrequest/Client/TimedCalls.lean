import Lkrequest.Client.Durations

namespace Lkrequest
namespace Client

open Foundations
open Request (AcceptEncoding Duration Failure Library PreparedRequest PyFloat applyRequestOptions
  validatedDuration)
open Session (supportedMethods)

/-!
# The calls that take durations

Every configuration class, client, session, pool, request and drain converts
its durations with `validated_duration`, in a fixed order and between other
checks, the first of which to fail ends the call.
-/

/-! ## Configurations -/

section Configurations

variable (library : Library)

/-- `PyTimeoutConfig::new`. -/
def PyTimeoutConfig.new (dns tcpConnect tlsHandshake ttfb total : Option F64) :
    Except Failure TimeoutConfig := do
  let dns <- argument library dns
  let tcpConnect <- argument library tcpConnect
  let tlsHandshake <- argument library tlsHandshake
  let ttfb <- argument library ttfb
  let total <- argument library total
  return ⟨dns, tcpConnect, tlsHandshake, ttfb, total, none⟩

/-- `10.0`. -/
def F64.ten : F64 := ⟨0x4024000000000000⟩

/-- Ten seconds are no `u64::MAX` of them. -/
theorem F64.ten_small : ¬ F64.ten.TooBig := by
  rintro ⟨value, is, big⟩
  have ten : F64.ten.toFloat = .finite 10 := by
    have exponent : Binary64.exponent F64.ten.bits = 1026 := by decide
    have fraction : Binary64.fraction F64.ten.bits = 2 ^ 50 := by decide
    have sign : Binary64.negative F64.ten.bits = false := by decide
    unfold F64.toFloat
    rw [exponent, sign, if_neg (by decide), if_neg Bool.false_ne_true]
    unfold Binary64.magnitude Binary64.significand
    rw [exponent, fraction]
    norm_num
  rw [ten] at is
  cases is
  norm_num at big

/-- `PyResourceLimits::new`. -/
def PyResourceLimits.new (maxResponseBodySize maxConnectionsPerSession minTransferRate : Option Nat)
    (transferRateWindow : Option F64) : Except Failure ResourceLimits :=
  let limits : ResourceLimits := ⟨maxResponseBodySize, maxConnectionsPerSession, none, none, none, none, none⟩
  if transferRateWindow.isSome && minTransferRate.isNone then
    .error (.raised (.valueError
      "transfer_rate_window has no effect without min_transfer_rate; set both or neither"))
  else
    match minTransferRate with
    | none => .ok limits
    | some rate => do
        let window <- required library (transferRateWindow.getD .ten)
        return { limits with minTransferRate := some rate, transferRateWindow := some window }

/-- `lkrequest::ExponentialBackoff`. -/
structure ExponentialBackoff where
  maxRetries : Nat
  baseDelay : Duration
  maxDelay : Duration
  jitter : Bool

/-- `PyExponentialBackoff::new`. -/
def PyExponentialBackoff.new (maxRetries : Nat) (baseDelay maxDelay : F64) (jitter : Bool) :
    Except Failure ExponentialBackoff := do
  let baseDelay <- required library baseDelay
  let maxDelay <- required library maxDelay
  return ⟨maxRetries, baseDelay, maxDelay, jitter⟩

/-- `lkrequest::FixedInterval`. -/
structure FixedInterval where
  maxRetries : Nat
  interval : Duration

/-- `PyFixedInterval::new`. -/
def PyFixedInterval.new (maxRetries : Nat) (interval : F64) : Except Failure FixedInterval := do
  let interval <- required library interval
  return ⟨maxRetries, interval⟩

/-- `lkrequest::BadProxyConfig`. -/
structure BadProxyConfig where
  failureThreshold : Nat
  window : Duration
  cooldownDuration : Duration
  maxCooldowns : Nat

/-- `PyBadProxyConfig::new`. -/
def PyBadProxyConfig.new (failureThreshold : Nat) (window cooldownDuration : F64) (maxCooldowns : Nat) :
    Except Failure BadProxyConfig := do
  let window <- required library window
  let cooldownDuration <- required library cooldownDuration
  return ⟨failureThreshold, window, cooldownDuration, maxCooldowns⟩

/-- The timeout that `drain_pending` waits with. -/
def drainPending (timeout : Option F64) : Except Failure (Option Duration) := argument library timeout

/-- The timeout that `blocking_drain_pending` waits with. -/
def blockingDrainPending (timeout : Option F64) : Except Failure (Option Duration) :=
  argument library timeout

/-! ## MASQUE -/

/-- `lkrequest::proxy::MasqueOuterConfig`, with the certificates its bundles hold. -/
structure MasqueOuterConfig where
  serverName : Option String
  useNativeCerts : Bool
  verify : Bool
  tunnelIdleTimeout : Option Duration
  maxIdleTunnels : Nat
  extraRoots : List Native

/-- `PyMasqueConfig::new`; `addCaCertsPem` is what upstream makes of a bundle. -/
def PyMasqueConfig.new (readFile : String -> Except String (List UInt8))
    (addCaCertsPem : List UInt8 -> Except PyErr (List Native)) (serverName caCert : Option String)
    (caCertPem : Option (List UInt8)) (useNativeCerts verify : Bool) (tunnelIdleTimeout : Option F64)
    (maxIdleTunnels : Nat) : Except Failure MasqueOuterConfig := do
  let tunnelIdleTimeout <- argument library tunnelIdleTimeout
  let fromFile <- raise (match caCert with
    | none => .ok []
    | some path =>
        match readFile path with
        | .ok pem => addCaCertsPem pem
        | .error error => .error (.ioError ("Failed to read MASQUE CA cert '" ++ path ++ "': " ++ error)))
  let fromPem <- raise ((caCertPem.map addCaCertsPem).getD (.ok []))
  return ⟨serverName, useNativeCerts, verify, tunnelIdleTimeout, maxIdleTunnels, fromFile ++ fromPem⟩

/-- The object under `masque=`, as far as `extract` tells. -/
inductive MasqueArg
  | config (config : MasqueOuterConfig)
  | other

namespace Masque

def featureRequired (option : String) : PyErr :=
  .runtimeError (option ++
    " requires building lkrequest-py with the 'masque' feature: maturin develop --features masque")

/-- With the feature `masque` or without it. -/
def resolve (feature : Bool) : Option MasqueArg -> Except PyErr (Option MasqueOuterConfig)
  | none => .ok none
  | some (.config config) =>
      if feature then .ok (some config) else .error (featureRequired "masque")
  | some .other =>
      .error (if feature then .typeError "masque must be a MasqueConfig" else featureRequired "masque")

end Masque

/-- The fields of `lkrequest::HealthCheckConfig` that are set. -/
structure HealthCheckConfig where
  interval : Duration
  timeout : Duration
  targetHost : String
  targetPort : Nat
  tunnelProbe : Bool
  masqueOuterConfig : Option MasqueOuterConfig

/-- What `apply_to_health_check` checks before it sets the probe. -/
def Masque.applyToHealthCheck (feature tunnelProbe : Bool) (config : Option MasqueOuterConfig) :
    Except PyErr Unit :=
  if tunnelProbe && config.isNone then
    .error (if feature then .valueError
      ("tunnel_probe=True needs masque=MasqueConfig(...): the probe must know which " ++
        "trust anchors the proxy's certificate chains to")
    else featureRequired "tunnel_probe")
  else .ok ()

/-- `PyHealthCheckConfig::new`. -/
def PyHealthCheckConfig.new (feature : Bool) (interval timeout : F64) (targetHost : String)
    (targetPort : Nat) (tunnelProbe : Bool) (masque : Option MasqueArg) :
    Except Failure HealthCheckConfig := do
  let interval <- required library interval
  let timeout <- required library timeout
  let masque <- raise (Masque.resolve feature masque)
  raise (Masque.applyToHealthCheck feature tunnelProbe masque)
  return ⟨interval, timeout, targetHost, targetPort, tunnelProbe, masque⟩

/-! ## Session pools -/

/-- A proxy, as far as `extract` tells. -/
inductive ProxyArg
  | url (url : String)
  | config (config : Native)
  | other

/-- `resolve_proxy`, where `parse` is `ProxyConfig::parse` with its error converted. -/
def resolveProxy (parse : String -> Except PyErr Native) : ProxyArg -> Except PyErr Native
  | .url url => parse url
  | .config config => .ok config
  | .other => .error (.typeError "proxy must be str or ProxyConfig")

/-- The object under `proxies`: what its iterator yields, one after the other. -/
inductive ProxyList
  | text
  | notIterable
  | items (items : List (Except PyErr ProxyArg))

def resolveProxyList (parse : String -> Except PyErr Native) : ProxyList -> Except PyErr (List Native)
  | .text => .error (.typeError "proxies must be an iterable of str or ProxyConfig, not a single str")
  | .notIterable => .error (.typeError "proxies must be an iterable of str or ProxyConfig")
  | .items items => items.mapM (fun item => item >>= resolveProxy parse)

/-- `lkrequest::proxy::RotationStrategy`. -/
inductive ProxyRotation
  | roundRobin
  | random

/-- What `SessionPool::builder()` is given. -/
structure SessionPoolBuilder where
  client : Native
  proxies : List Native
  maxSessions : Option Nat
  idleTimeout : Option Duration
  rotation : Option ProxyRotation

def parseProxyRotation (strategy : String) : Except PyErr ProxyRotation :=
  match strategy with
  | "round_robin" => .ok .roundRobin
  | "random" => .ok .random
  | _ => .error (.valueError
      ("Unknown rotation strategy: '" ++ strategy ++ "'. Use 'round_robin' or 'random'"))

/-- `PySessionPool::new`, and that of the blocking pool. -/
def PySessionPool.new (parse : String -> Except PyErr Native) (client : Native) (proxies : ProxyList)
    (maxSessions : Option Nat) (idleTimeout : Option F64) (rotation : Option String) :
    Except Failure SessionPoolBuilder := do
  let configs <- raise (resolveProxyList parse proxies)
  let idleTimeout <- argument library idleTimeout
  let rotation <- raise (rotation.mapM parseProxyRotation)
  return ⟨client, configs, maxSessions, idleTimeout, rotation⟩

/-! ## Sessions -/

/-- The object under `retry=`, as far as `extract` tells. -/
inductive RetryArg
  | exponentialBackoff (policy : ExponentialBackoff)
  | fixedInterval (policy : FixedInterval)
  | callable (callable : PyObject)
  | other

inductive H3RetryMode
  | safe
  | chrome155ProtocolErrors
deriving DecidableEq

/-- A call on `lkrequest::session::SessionBuilder`. -/
inductive SessionCall
  | proxy (url : String)
  | proxyConfig (config : Native)
  | noRedirects
  | maxRedirects (number : Nat)
  | http1Only
  | http2Only
  | http3Only
  | http3WithFallback
  | retryPolicy (policy : RetryArg)
  | middleware (middleware : PyObject)
  | defaultAcceptEncoding (encoding : AcceptEncoding)
  | echConfig (config : List UInt8)
  | maxConnections (number : Nat)
  | idleTimeout (duration : Duration)
  | protocolPolicy (policy : Native)
  | httpIntent (intent : Native)
  | brokenQuicPolicy (policy : Native)
  | h3RetryMode (mode : H3RetryMode)
  | headerOrder (order : List String)
  | cookieOrder (order : List String)
  | h3HeaderOrder (order : List String)
  | httpsOnly
  | hstsPolicy (policy : Native)
  | networkPartitionContext (context : Native)

/-- The arguments of a session that its builder is given. -/
structure SessionConfig where
  proxy : Option ProxyArg
  maxRedirects : Option Nat
  allowRedirects : Bool
  http1Only : Bool
  http2Only : Bool
  http3Only : Bool
  http3WithFallback : Bool
  retry : Option RetryArg
  middleware : Option (List PyObject)
  acceptEncoding : Option AcceptEncoding
  echConfig : Option (List UInt8)
  maxConnections : Option Nat
  idleTimeout : Option F64
  protocolPolicy : Option Native
  httpIntent : Option Native
  brokenQuicPolicy : Option Native
  h3RetryMode : Option H3RetryMode
  headerOrder : Option (List String)
  h3HeaderOrder : Option (List String)
  cookieOrder : Option (List String)
  httpsOnly : Bool
  hsts : Option Native
  networkPartitionContext : Option Native

namespace PyClient

/-- Calls that are made whatever the arguments are. -/
def calls (made : List SessionCall) : Except Failure (List SessionCall) := .ok made

def applySessionProxy : ProxyArg -> Except Failure (List SessionCall)
  | .url url => .ok [.proxy url]
  | .config config => .ok [.proxyConfig config]
  | .other => .error (.raised (.typeError "proxy must be str or ProxyConfig"))

def applyRetryPolicy : RetryArg -> Except Failure (List SessionCall)
  | .other => .error (.raised (.typeError
      ("retry must be ExponentialBackoff, FixedInterval, or a " ++
        "callable(attempt, error, status) -> float | None")))
  | policy => .ok [.retryPolicy policy]

/-- With the feature `quic-h3` or without it. -/
def applyH3RetryMode (feature : Bool) (mode : H3RetryMode) : Except Failure (List SessionCall) :=
  if feature then .ok [.h3RetryMode mode]
  else if mode = .safe then .ok []
  else .error (.raised (.runtimeError
    ("h3_retry_mode=H3RetryMode.Chrome155ProtocolErrors requires building lkrequest-py " ++
      "with the 'quic-h3' feature: maturin develop --features quic-h3")))

def redirectCalls (cfg : SessionConfig) : List SessionCall :=
  if cfg.allowRedirects then (cfg.maxRedirects.map .maxRedirects).toList else [.noRedirects]

/-- `PyClient::session`, and that of the blocking client: the calls on the builder, and how it ends. -/
def session (quicH3 : Bool) (cfg : SessionConfig) : List SessionCall × Except Failure Unit :=
  runStages [
    (cfg.proxy.map applySessionProxy).getD (.ok []),
    calls (redirectCalls cfg ++ (if cfg.http1Only then [.http1Only] else []) ++
      (if cfg.http2Only then [.http2Only] else []) ++ (if cfg.http3Only then [.http3Only] else []) ++
      (if cfg.http3WithFallback then [.http3WithFallback] else [])),
    (cfg.retry.map applyRetryPolicy).getD (.ok []),
    calls ((cfg.middleware.getD []).map .middleware ++
      (cfg.acceptEncoding.map .defaultAcceptEncoding).toList ++ (cfg.echConfig.map .echConfig).toList ++
      (cfg.maxConnections.map .maxConnections).toList),
    (argument library cfg.idleTimeout).map (fun duration => (duration.map .idleTimeout).toList),
    calls ((cfg.protocolPolicy.map .protocolPolicy).toList ++ (cfg.httpIntent.map .httpIntent).toList ++
      (cfg.brokenQuicPolicy.map .brokenQuicPolicy).toList),
    (cfg.h3RetryMode.map (applyH3RetryMode quicH3)).getD (.ok []),
    calls ((cfg.headerOrder.map .headerOrder).toList ++ (cfg.cookieOrder.map .cookieOrder).toList ++
      (cfg.h3HeaderOrder.map .h3HeaderOrder).toList ++ (if cfg.httpsOnly then [.httpsOnly] else []) ++
      (cfg.hsts.map .hstsPolicy).toList ++
      (cfg.networkPartitionContext.map .networkPartitionContext).toList)]

end PyClient

/-! ## Clients -/

/-- The durations among the arguments of a client. -/
structure ClientDurations where
  dnsTimeout : Option F64
  tcpConnectTimeout : Option F64
  tlsHandshakeTimeout : Option F64
  ttfbTimeout : Option F64
  totalTimeout : Option F64
  quicConnectTimeout : Option F64
  minTransferRateWindow : Option F64
  systemDnsCacheTtl : Option F64

/-- The arguments with these durations. -/
def ClientDurations.on (durations : ClientDurations) (cfg : ClientConfig) : ClientConfig :=
  { cfg with
    dnsTimeout := durations.dnsTimeout.map F64.toFloat
    tcpConnectTimeout := durations.tcpConnectTimeout.map F64.toFloat
    tlsHandshakeTimeout := durations.tlsHandshakeTimeout.map F64.toFloat
    ttfbTimeout := durations.ttfbTimeout.map F64.toFloat
    totalTimeout := durations.totalTimeout.map F64.toFloat
    quicConnectTimeout := durations.quicConnectTimeout.map F64.toFloat
    minTransferRateWindow := durations.minTransferRateWindow.map F64.toFloat
    systemDnsCacheTtl := durations.systemDnsCacheTtl.map F64.toFloat }

/-- The timeouts, in the order in which they are checked. -/
def ClientDurations.timeouts (durations : ClientDurations) : List (Option F64) :=
  [durations.dnsTimeout, durations.tcpConnectTimeout, durations.tlsHandshakeTimeout,
    durations.ttfbTimeout, durations.totalTimeout, durations.quicConnectTimeout]

/-- The window, which is looked at only with a rate. -/
def ClientDurations.window (durations : ClientDurations) (cfg : ClientConfig) : Option F64 :=
  if cfg.minTransferRate.isSome then durations.minTransferRateWindow else none

/-- What is checked between the window and the lifetime of cached addresses. -/
structure PassesBetween (env : Environment) (cfg : ClientConfig) : Prop where
  pending : cfg.maxPendingH2Requests ≠ some 0
  batch : cfg.h2DispatchBatchSize ≠ some 0
  caCert : (caCertStage env cfg).isOk = true
  resolver : cfg.dns = none

end Configurations

/-! ## When they panic -/

/-- A call panics exactly if it reaches a duration that is too big. -/
structure PanicsOnTooBig (library : Library) : Prop where
  timeoutConfig : forall dns tcpConnect tlsHandshake ttfb total,
    PyTimeoutConfig.new library dns tcpConnect tlsHandshake ttfb total = .error .panicked <->
      ReachesTooBig [dns, tcpConnect, tlsHandshake, ttfb, total]
  resourceLimits : forall size connections rate window,
    PyResourceLimits.new library size connections rate window = .error .panicked <->
      rate.isSome ∧ ReachesTooBig [window]
  exponentialBackoff : forall maxRetries baseDelay maxDelay jitter,
    PyExponentialBackoff.new library maxRetries baseDelay maxDelay jitter = .error .panicked <->
      ReachesTooBig [some baseDelay, some maxDelay]
  fixedInterval : forall maxRetries interval,
    PyFixedInterval.new library maxRetries interval = .error .panicked <->
      ReachesTooBig [some interval]
  badProxyConfig : forall threshold window cooldownDuration maxCooldowns,
    PyBadProxyConfig.new library threshold window cooldownDuration maxCooldowns = .error .panicked <->
      ReachesTooBig [some window, some cooldownDuration]
  masqueConfig : forall readFile addCaCertsPem name path pem native verify idle idleTunnels,
    PyMasqueConfig.new library readFile addCaCertsPem name path pem native verify idle idleTunnels =
      .error .panicked <-> ReachesTooBig [idle]
  healthCheckConfig : forall feature interval timeout host port probe masque,
    PyHealthCheckConfig.new library feature interval timeout host port probe masque = .error .panicked <->
      ReachesTooBig [some interval, some timeout]
  sessionPool : forall parse client proxies maxSessions idle rotation,
    PySessionPool.new library parse client proxies maxSessions idle rotation = .error .panicked <->
      (resolveProxyList parse proxies).isOk = true ∧ ReachesTooBig [idle]
  session : forall quicH3 cfg,
    (PyClient.session library quicH3 cfg).2 = .error .panicked <->
      cfg.proxy ≠ some .other ∧ cfg.retry ≠ some .other ∧ ReachesTooBig [cfg.idleTimeout]
  client : forall (env : Environment) cfg (durations : ClientDurations),
    (buildClient { env with library := withDurations library } (durations.on cfg)).2 = .error .panicked <->
      ReachesTooBig (durations.timeouts ++ [durations.window cfg]) ∨
        Convertible (durations.timeouts ++ [durations.window cfg]) ∧ PassesBetween env cfg ∧
          ReachesTooBig [durations.systemDnsCacheTtl]
  request : forall (req : PreparedRequest) (timeout : Option F64),
    (applyRequestOptions (withDurations library) { req with timeout := timeout.map F64.toFloat }).2 =
      .error .panicked <-> req.method ∈ supportedMethods ∧ ReachesTooBig [timeout]
  drainPending : forall timeout,
    drainPending library timeout = .error .panicked <-> ReachesTooBig [timeout]
  blockingDrainPending : forall timeout,
    blockingDrainPending library timeout = .error .panicked <-> ReachesTooBig [timeout]

section Panics

variable {library : Library}

theorem resourceLimits_panics (size connections rate : Option Nat) (window : Option F64) :
    PyResourceLimits.new library size connections rate window = .error .panicked <->
      rate.isSome ∧ ReachesTooBig [window] := by
  unfold PyResourceLimits.new
  cases rate with
  | none => cases window <;> simp
  | some rate =>
      have asked : (window.isSome && (some rate).isNone) = false := Bool.and_false _
      dsimp only
      rw [asked, if_neg Bool.false_ne_true]
      have reaches := @required_bind_panics library _ _ (window.getD .ten) _
        (fun duration => @return_panics _ ({ maxResponseBodySize := size
                                             maxConnectionsPerSession := connections
                                             maxHeaderCount := none
                                             maxHeaderSize := none
                                             maxHeadersTotalSize := none
                                             minTransferRate := some rate
                                             transferRateWindow := some duration } : ResourceLimits))
      refine reaches.trans ?_
      cases window with
      | some secs => exact (and_iff_right rfl).symm
      | none =>
          constructor
          · rintro (big | ⟨_, nothing⟩)
            · exact absurd big F64.ten_small
            · exact nothing.elim
          · exact fun both => both.2.elim

theorem raise_not_panicked {Value : Type} (result : Except PyErr Value) :
    raise result ≠ .error .panicked := by
  cases result with
  | ok value => exact nofun
  | error error => exact fun same => nomatch Except.error.inj same

/-- What comes after the durations only raises. -/
theorem raise_bind_not_panicked {Value Result : Type} {result : Except PyErr Value}
    {next : Value -> Except Failure Result} (never : forall value, next value ≠ .error .panicked) :
    (raise result >>= next) ≠ .error .panicked := by
  rw [Ne, panics_bind]
  rintro (panicked | ⟨value, _, panicked⟩)
  · exact raise_not_panicked result panicked
  · exact never value panicked

theorem never_panics {Result : Type} {result : Except Failure Result}
    (never : result ≠ .error .panicked) : result = .error .panicked <-> ReachesTooBig [] :=
  iff_of_false never id

theorem masqueConfig_panics (readFile : String -> Except String (List UInt8))
    (addCaCertsPem : List UInt8 -> Except PyErr (List Native)) (serverName caCert : Option String)
    (caCertPem : Option (List UInt8)) (useNativeCerts verify : Bool) (tunnelIdleTimeout : Option F64)
    (maxIdleTunnels : Nat) :
    PyMasqueConfig.new library readFile addCaCertsPem serverName caCert caCertPem useNativeCerts verify
      tunnelIdleTimeout maxIdleTunnels = .error .panicked <-> ReachesTooBig [tunnelIdleTimeout] :=
  argument_bind_panics fun _ => never_panics (raise_bind_not_panicked fun _ =>
    raise_bind_not_panicked fun _ => nofun)

theorem healthCheckConfig_panics (feature : Bool) (interval timeout : F64) (targetHost : String)
    (targetPort : Nat) (tunnelProbe : Bool) (masque : Option MasqueArg) :
    PyHealthCheckConfig.new library feature interval timeout targetHost targetPort tunnelProbe masque =
      .error .panicked <-> ReachesTooBig [some interval, some timeout] :=
  required_bind_panics fun _ => required_bind_panics fun _ => never_panics
    (raise_bind_not_panicked fun _ => raise_bind_not_panicked fun _ => nofun)

theorem sessionPool_panics (parse : String -> Except PyErr Native) (client : Native)
    (proxies : ProxyList) (maxSessions : Option Nat) (idleTimeout : Option F64)
    (rotation : Option String) :
    PySessionPool.new library parse client proxies maxSessions idleTimeout rotation = .error .panicked <->
      (resolveProxyList parse proxies).isOk = true ∧ ReachesTooBig [idleTimeout] := by
  unfold PySessionPool.new
  cases resolveProxyList parse proxies with
  | error error => exact iff_of_false (fun same => nomatch Except.error.inj same) (fun both => nomatch both.1)
  | ok configs =>
      rw [and_iff_right (show (Except.ok configs : Except PyErr (List Native)).isOk = true from rfl)]
      exact argument_bind_panics fun _ => never_panics (raise_bind_not_panicked fun _ => nofun)

theorem session_panics (quicH3 : Bool) (cfg : SessionConfig) :
    (PyClient.session library quicH3 cfg).2 = .error .panicked <->
      cfg.proxy ≠ some .other ∧ cfg.retry ≠ some .other ∧ ReachesTooBig [cfg.idleTimeout] := by
  have proxied : (cfg.proxy.map PyClient.applySessionProxy).getD (.ok []) ≠ .error .panicked ∧
      (((cfg.proxy.map PyClient.applySessionProxy).getD (.ok [])).isOk = true <->
        cfg.proxy ≠ some .other) := by
    rcases cfg.proxy with _ | _ | _ | _ <;> simp [PyClient.applySessionProxy, Except.isOk, Except.toBool]
  have retried : (cfg.retry.map PyClient.applyRetryPolicy).getD (.ok []) ≠ .error .panicked ∧
      (((cfg.retry.map PyClient.applyRetryPolicy).getD (.ok [])).isOk = true <->
        cfg.retry ≠ some .other) := by
    rcases cfg.retry with _ | _ | _ | _ | _ <;> simp [PyClient.applyRetryPolicy, Except.isOk, Except.toBool]
  have mode : (cfg.h3RetryMode.map (PyClient.applyH3RetryMode quicH3)).getD (.ok []) ≠ .error .panicked := by
    rcases cfg.h3RetryMode with _ | _ | _ <;> cases quicH3 <;> simp [PyClient.applyH3RetryMode]
  have idle : (argument library cfg.idleTimeout).map (fun duration =>
      (duration.map SessionCall.idleTimeout).toList) = .error .panicked <->
        ReachesTooBig [cfg.idleTimeout] := by
    rw [← @argument_panics library]
    cases argument library cfg.idleTimeout <;> simp [Except.map]
  have made : forall calls : List SessionCall, (Except.ok calls : Except Failure _).isOk = true :=
    fun _ => rfl
  unfold PyClient.session PyClient.calls
  simp only [runStages_cons_error_iff, runStages_nil, proxied, retried, mode, idle, made, reduceCtorEq,
    false_or, and_false, or_false, true_and]

theorem request_panics (req : PreparedRequest) (timeout : Option F64) :
    (applyRequestOptions (withDurations library) { req with timeout := timeout.map F64.toFloat }).2 =
      .error .panicked <-> req.method ∈ supportedMethods ∧ ReachesTooBig [timeout] := by
  have given : (timeout.map F64.toFloat).mapM (validatedDuration (withDurations library)) =
      argument library timeout := by
    cases timeout <;> rfl
  unfold applyRequestOptions
  dsimp only
  rw [given, ← @argument_panics library]
  by_cases supported : req.method ∈ supportedMethods
  · rw [if_pos supported, and_iff_right supported]
    cases argument library timeout <;> simp
  · rw [if_neg supported]
    simp [supported]

/-- A given duration is converted as it is anywhere else. -/
theorem given_mapM (secs : Option F64) :
    (secs.map F64.toFloat).mapM (validatedDuration (withDurations library)) = argument library secs := by
  cases secs <;> rfl

theorem timeoutStage_ends (env : Environment) (cfg : ClientConfig) (durations : ClientDurations)
    (given : env.library = withDurations library) :
    (timeoutStage env (durations.on cfg) = .error .panicked <-> ReachesTooBig durations.timeouts) ∧
      ((timeoutStage env (durations.on cfg)).isOk = true <-> Convertible durations.timeouts) := by
  unfold timeoutStage ClientDurations.on ClientDurations.timeouts
  dsimp only
  rw [given]
  simp only [given_mapM, Option.isSome_map]
  split
  case isTrue =>
    constructor
    · exact argument_bind_panics fun _ => argument_bind_panics fun _ => argument_bind_panics fun _ =>
        argument_bind_panics fun _ => argument_bind_panics fun _ => argument_bind_panics fun _ =>
          return_panics
    · exact argument_bind_ok fun _ => argument_bind_ok fun _ => argument_bind_ok fun _ =>
        argument_bind_ok fun _ => argument_bind_ok fun _ => argument_bind_ok fun _ => return_ok
  case isFalse none =>
    simp only [not_or, Bool.not_eq_true, Option.isSome_eq_false_iff, Option.isNone_iff_eq_none] at none
    rcases none with ⟨dns, tcpConnect, tlsHandshake, ttfb, total, quicConnect⟩
    rw [dns, tcpConnect, tlsHandshake, ttfb, total, quicConnect]
    exact ⟨iff_of_false nofun id, iff_of_true rfl (by simp [Convertible])⟩

theorem resourceStage_ends (env : Environment) (cfg : ClientConfig) (durations : ClientDurations)
    (given : env.library = withDurations library) :
    (resourceStage env (durations.on cfg) = .error .panicked <->
        ReachesTooBig [durations.window cfg]) ∧
      ((resourceStage env (durations.on cfg)).isOk = true <-> Convertible [durations.window cfg]) := by
  unfold resourceStage ClientDurations.on ClientDurations.window
  dsimp only
  rw [given, given_mapM]
  by_cases rate : cfg.minTransferRate.isSome = true
  · simp only [rate, or_true, if_true]
    exact ⟨argument_bind_panics fun _ => return_panics, argument_bind_ok fun _ => return_ok⟩
  · simp only [rate]
    have unused : ¬ ReachesTooBig [none] ∧ Convertible [none] := ⟨id, by simp [Convertible]⟩
    split
    case isTrue => exact ⟨iff_of_false nofun unused.1, iff_of_true rfl unused.2⟩
    case isFalse => exact ⟨iff_of_false nofun unused.1, iff_of_true rfl unused.2⟩

theorem dnsStage_panics (env : Environment) (cfg : ClientConfig) (durations : ClientDurations)
    (given : env.library = withDurations library) :
    dnsStage env (durations.on cfg) = .error .panicked <->
      cfg.dns = none ∧ ReachesTooBig [durations.systemDnsCacheTtl] := by
  unfold dnsStage ClientDurations.on
  dsimp only
  rw [given]
  cases durations.systemDnsCacheTtl with
  | none =>
      apply iff_of_false
      · rw [if_neg (fun both => nomatch both.1)]
        split
        case isTrue => exact fun same => nomatch Except.error.inj same
        case isFalse =>
          cases cfg.dns with
          | none => exact nofun
          | some name => exact raise_bind_not_panicked fun _ => nofun
      · exact And.right
  | some secs =>
      cases cfg.dns with
      | some name => exact iff_of_false (fun same => nomatch Except.error.inj same) (fun both => nomatch both.1)
      | none =>
          rw [if_neg (fun both => nomatch both.2), if_neg (fun both => nomatch both.2), and_iff_right rfl]
          exact required_bind_panics fun _ => return_panics

theorem positiveStage_ends (number : Option Nat) (message : String) (setting : Nat -> Setting) :
    positiveStage number message setting ≠ .error .panicked ∧
      ((positiveStage number message setting).isOk = true <-> number ≠ some 0) := by
  unfold positiveStage
  by_cases zero : number = some 0
  · rw [if_pos zero]
    refine ⟨fun same => ?_, iff_of_false (fun isOk => nomatch isOk) (not_not_intro zero)⟩
    exact (nomatch Except.error.inj same)
  · rw [if_neg zero]
    exact ⟨fun same => (nomatch same), iff_of_true rfl zero⟩

theorem caCertStage_raises (env : Environment) (cfg : ClientConfig) :
    caCertStage env cfg ≠ .error .panicked := by
  unfold caCertStage
  split
  · exact nofun
  · split
    · exact nofun
    · exact fun same => nomatch Except.error.inj same

theorem keylogStage_raises (env : Environment) (cfg : ClientConfig) :
    keylogStage env cfg ≠ .error .panicked := by
  unfold keylogStage
  split
  · exact nofun
  · split
    · exact nofun
    · exact fun same => nomatch Except.error.inj same

theorem ipFamilyStage_raises (cfg : ClientConfig) : ipFamilyStage cfg ≠ .error .panicked := by
  unfold ipFamilyStage ipFamily
  rw [bind_assoc]
  exact raise_bind_not_panicked fun _ => nofun

theorem connectToStage_raises (env : Environment) (cfg : ClientConfig) :
    connectToStage env cfg ≠ .error .panicked := by
  unfold connectToStage overrides ipFamily
  rw [bind_assoc, bind_assoc]
  refine raise_bind_not_panicked fun _ => ?_
  rw [pure_bind]
  exact raise_bind_not_panicked fun _ => nofun

/-- Of the stages only three convert durations, and the others raise at most. -/
theorem client_panics (env : Environment) (cfg : ClientConfig) (durations : ClientDurations) :
    (buildClient { env with library := withDurations library } (durations.on cfg)).2 = .error .panicked <->
      ReachesTooBig (durations.timeouts ++ [durations.window cfg]) ∨
        Convertible (durations.timeouts ++ [durations.window cfg]) ∧ PassesBetween env cfg ∧
          ReachesTooBig [durations.systemDnsCacheTtl] := by
  generalize named : ({ env with library := withDurations library } : Environment) = timed
  have given : timed.library = withDurations library := by rw [← named]
  have read : caCertStage timed (durations.on cfg) = caCertStage env cfg := by rw [← named]; rfl
  rcases timeoutStage_ends timed cfg durations given with ⟨timeoutPanics, timeoutOk⟩
  rcases resourceStage_ends timed cfg durations given with ⟨resourcePanics, resourceOk⟩
  have dnsPanics := dnsStage_panics timed cfg durations given
  have made : forall {Value : Type} (value : Value), (Except.ok value : Except Failure Value).isOk = true :=
    fun _ => rfl
  have both : Convertible (durations.timeouts ++ [durations.window cfg]) <->
      Convertible durations.timeouts ∧ Convertible [durations.window cfg] := by
    unfold Convertible
    exact List.forall_mem_append
  unfold buildClient profileStages middleStages lastStages defaultHeaderStage middlewareStage ifSome ifTrue
  simp only [List.map_cons, List.map_nil, List.cons_append, List.nil_append, runStages_cons_error_iff,
    calls_error_iff, isOk_calls, made, reduceCtorEq, false_or, true_and, timeoutPanics, timeoutOk,
    resourcePanics, resourceOk, dnsPanics, positiveStage_ends, caCertStage_raises, keylogStage_raises,
    ipFamilyStage_raises, connectToStage_raises, runStages_nil, and_false, or_false, read]
  have passes : PassesBetween env cfg <-> (durations.on cfg).maxPendingH2Requests ≠ some 0 ∧
      (durations.on cfg).h2DispatchBatchSize ≠ some 0 ∧ (caCertStage env cfg).isOk = true ∧
        cfg.dns = none :=
    ⟨fun passes => ⟨passes.pending, passes.batch, passes.caCert, passes.resolver⟩,
      fun ⟨pending, batch, caCert, resolver⟩ => ⟨pending, batch, caCert, resolver⟩⟩
  rw [reaches_append, both, passes]
  simp only [and_or_left, or_assoc, and_assoc]

end Panics

theorem panicsOnTooBig (library : Library) : PanicsOnTooBig library where
  timeoutConfig := fun _ _ _ _ _ => argument_bind_panics fun _ => argument_bind_panics fun _ =>
    argument_bind_panics fun _ => argument_bind_panics fun _ => argument_bind_panics fun _ =>
      return_panics
  resourceLimits := resourceLimits_panics
  exponentialBackoff := fun _ _ _ _ => required_bind_panics fun _ => required_bind_panics fun _ =>
    return_panics
  fixedInterval := fun _ _ => required_bind_panics fun _ => return_panics
  badProxyConfig := fun _ _ _ _ => required_bind_panics fun _ => required_bind_panics fun _ =>
    return_panics
  masqueConfig := masqueConfig_panics
  healthCheckConfig := healthCheckConfig_panics
  sessionPool := sessionPool_panics
  session := session_panics
  client := client_panics
  request := request_panics
  drainPending := fun _ => argument_panics
  blockingDrainPending := fun _ => argument_panics

/-! ## The contract -/

/-- Every float is made a duration or refused, a retry is decided, and a call
with durations does not panic, unless a float is reached that is too big. -/
theorem float_durations_never_panic_iff (library : Library) :
    (forall secs, Validates library secs <-> ¬ secs.TooBig) ∧
    (forall policy attempt error status, Decides policy attempt error status <->
      forall secs, policy.callable attempt error status = .ok (.object (.ok secs)) -> ¬ secs.TooBig) ∧
    PanicsOnTooBig library :=
  ⟨validates_iff library, decides_iff, panicsOnTooBig library⟩

/-- `18446744073709551616.0`. -/
def F64.twoPow64 : F64 := ⟨0x43F0000000000000⟩

theorem F64.toFloat_twoPow64 : F64.twoPow64.toFloat = .finite (2 ^ 64) := by
  have exponent : Binary64.exponent F64.twoPow64.bits = 1087 := by decide
  have fraction : Binary64.fraction F64.twoPow64.bits = 0 := by decide
  have sign : Binary64.negative F64.twoPow64.bits = false := by decide
  unfold F64.toFloat
  rw [exponent, sign, if_neg (by decide), if_neg Bool.false_ne_true]
  unfold Binary64.magnitude Binary64.significand
  rw [exponent, fraction]
  norm_num

/-- The first number of seconds that is no `u64` panics behind both checks. -/
theorem two_pow_64_seconds_panic :
    validatedDuration (withDurations Library.ascii) F64.twoPow64.toFloat = .error .panicked ∧
      PyCallableRetryPolicy.shouldRetry ⟨fun _ _ _ => .ok (.object (.ok .twoPow64))⟩ 1 none none =
        .error .panicked ∧
      drainPending Library.ascii (some .twoPow64) = .error .panicked := by
  have big : F64.twoPow64.TooBig := ⟨2 ^ 64, F64.toFloat_twoPow64, le_refl _⟩
  have panics := (fromSecsF64_valid big.valid).mpr big
  refine ⟨required_panics.mpr big, ?_, argument_panics.mpr (Or.inl big)⟩
  unfold PyCallableRetryPolicy.shouldRetry
  dsimp only
  rw [big.valid, if_neg Bool.false_ne_true, panics]

end Client
end Lkrequest
