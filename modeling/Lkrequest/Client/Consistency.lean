import Lkrequest.Python
import Mathlib.Data.List.Infix

namespace Lkrequest
namespace Client

/-!
# Whether a fingerprint is consistent

The names of up to three profiles are compared by the browser they are of.  The
TLS profile is compared with the two others; these are not compared with each
other, so that without a TLS profile of a known browser nothing is compared.
-/

/-! ## The function -/

/-- A browser, by the name that is looked for. -/
inductive BrowserFamily
  | chrome
  | firefox
  | safari
deriving DecidableEq

def BrowserFamily.name : BrowserFamily -> String
  | .chrome => "chrome"
  | .firefox => "firefox"
  | .safari => "safari"

/-- `str::contains`. -/
def containsText (text part : String) : Bool := decide (part.toList <:+: text.toList)

def browserFamily (name : String) : Option BrowserFamily :=
  if containsText name "chrome" then some .chrome
  else if containsText name "firefox" then some .firefox
  else if containsText name "safari" then some .safari
  else none

/-- The names that `resolve_tls_profile` knows. -/
def tlsProfiles : List String :=
  ["chrome_131", "chrome_144", "chrome_145", "chrome_146", "chrome_147", "chrome_148", "chrome_149",
    "chrome_150", "chrome_151", "chrome_152", "chrome_153", "chrome_154", "chrome_155", "firefox_133",
    "firefox_147", "firefox_156", "safari_18", "safari_26"]

/-- `resolve_tls_profile`, where `presets` are upstream's profiles by the names
of their functions. -/
def resolveTlsProfile {TlsProfile : Type} (presets : String -> TlsProfile) (name : String) :
    Except PyErr TlsProfile :=
  if name ∈ tlsProfiles then .ok (presets name)
  else
    .error (.valueError ("Unknown TLS profile: '" ++ name ++ "'. Available: " ++
      ", ".intercalate tlsProfiles))

/-- The two profiles of a warning. -/
def mismatch (first : String) (family : BrowserFamily) (second : String) (other : BrowserFamily) : String :=
  first ++ " family '" ++ family.name ++ "' does not match " ++ second ++ " family '" ++ other.name ++ "'"

/-- The dict that is returned. -/
structure Consistency where
  valid : Bool
  warnings : List String
deriving DecidableEq

section Validate

variable {TlsProfile : Type} (presets : String -> TlsProfile)
  (alpnProtocols : TlsProfile -> List String)

def validateFingerprintConsistency (tlsProfile h2Profile tcpFingerprint : Option String) : Consistency :=
  let tlsFamily := tlsProfile.bind browserFamily
  let h2Family := h2Profile.bind browserFamily
  let tcpFamily := tcpFingerprint.bind browserFamily
  let h2Warnings :=
    match tlsFamily, h2Family with
    | some tf, some hf => if tf ≠ hf then [mismatch "TLS profile" tf "H2 profile" hf] else []
    | _, _ => []
  let tcpWarnings :=
    match tlsFamily, tcpFamily with
    | some tf, some tcf => if tf ≠ tcf then [mismatch "TLS profile" tf "TCP fingerprint" tcf] else []
    | _, _ => []
  let alpnWarnings :=
    match tlsProfile with
    | none => []
    | some name =>
        match resolveTlsProfile presets name with
        | .error _ => []
        | .ok profile =>
            if (alpnProtocols profile).any (· == "h2") && h2Profile.isNone then
              ["TLS profile advertises h2 in ALPN but no H2 profile is set"]
            else []
  let warnings := h2Warnings ++ tcpWarnings ++ alpnWarnings
  ⟨warnings.isEmpty, warnings⟩

end Validate

/-! ## What a verdict means -/

/-- A supplied name of a known browser, with what it is the name of. -/
inductive Supplies (tlsProfile h2Profile tcpFingerprint : Option String) : String -> BrowserFamily -> Prop
  | tls {family : BrowserFamily} (known : tlsProfile.bind browserFamily = some family) :
      Supplies tlsProfile h2Profile tcpFingerprint "TLS profile" family
  | h2 {family : BrowserFamily} (known : h2Profile.bind browserFamily = some family) :
      Supplies tlsProfile h2Profile tcpFingerprint "H2 profile" family
  | tcp {family : BrowserFamily} (known : tcpFingerprint.bind browserFamily = some family) :
      Supplies tlsProfile h2Profile tcpFingerprint "TCP fingerprint" family

/-- A valid verdict means one browser, and two browsers mean a warning that names a mismatch. -/
structure Meaningful (tlsProfile h2Profile tcpFingerprint : Option String) (verdict : Consistency) :
    Prop where
  consistent : verdict.valid = true -> forall first family second other,
    Supplies tlsProfile h2Profile tcpFingerprint first family ->
      Supplies tlsProfile h2Profile tcpFingerprint second other -> family = other
  warned : (∃ first family second other, Supplies tlsProfile h2Profile tcpFingerprint first family ∧
      Supplies tlsProfile h2Profile tcpFingerprint second other ∧ family ≠ other) ->
    ∃ first family second other, Supplies tlsProfile h2Profile tcpFingerprint first family ∧
      Supplies tlsProfile h2Profile tcpFingerprint second other ∧ family ≠ other ∧
        mismatch first family second other ∈ verdict.warnings

/-- The H2 profile and the TCP fingerprint are of two browsers, and there is no
TLS profile of a known one. -/
def Unchecked (tlsProfile h2Profile tcpFingerprint : Option String) : Prop :=
  tlsProfile.bind browserFamily = none ∧ ∃ family other, h2Profile.bind browserFamily = some family ∧
    tcpFingerprint.bind browserFamily = some other ∧ family ≠ other

theorem browserFamily_known : ∀ name ∈ tlsProfiles, (browserFamily name).isSome := by decide

section Verdict

variable {TlsProfile : Type} (presets : String -> TlsProfile)
  (alpnProtocols : TlsProfile -> List String) {tlsProfile h2Profile tcpFingerprint : Option String}

/-- Without a TLS profile of a known browser, nothing is found. -/
theorem verdict_unknown (unknown : tlsProfile.bind browserFamily = none) :
    validateFingerprintConsistency presets alpnProtocols tlsProfile h2Profile tcpFingerprint = ⟨true, []⟩ := by
  unfold validateFingerprintConsistency
  dsimp only
  rw [unknown]
  cases tlsProfile with
  | none => rfl
  | some name =>
      have foreign : name ∉ tlsProfiles := by
        intro listed
        have known := browserFamily_known name listed
        rw [show browserFamily name = none from unknown] at known
        exact (nomatch known)
      have unresolved : resolveTlsProfile presets name = .error (.valueError
          ("Unknown TLS profile: '" ++ name ++ "'. Available: " ++ ", ".intercalate tlsProfiles)) :=
        if_neg foreign
      dsimp only
      rw [unresolved]
      rfl

/-- Two browsers of which one is that of the TLS profile make a warning. -/
theorem warned_of_tls {family : BrowserFamily} (known : tlsProfile.bind browserFamily = some family)
    {second : String} {other : BrowserFamily}
    (supplies : Supplies tlsProfile h2Profile tcpFingerprint second other) (differ : family ≠ other) :
    mismatch "TLS profile" family second other ∈
      (validateFingerprintConsistency presets alpnProtocols tlsProfile h2Profile tcpFingerprint).warnings := by
  unfold validateFingerprintConsistency
  dsimp only
  cases supplies with
  | tls own => exact absurd (Option.some.inj (known.symm.trans own)) differ
  | h2 own =>
      rw [known, own]
      dsimp only
      rw [if_pos differ]
      exact List.mem_append_left _ (List.mem_append_left _ (List.mem_singleton_self _))
  | tcp own =>
      rw [known, own]
      dsimp only
      rw [if_pos differ]
      exact List.mem_append_left _ (List.mem_append_right _ (List.mem_singleton_self _))

theorem warnings_of_valid
    (valid : (validateFingerprintConsistency presets alpnProtocols tlsProfile h2Profile
      tcpFingerprint).valid = true) :
    (validateFingerprintConsistency presets alpnProtocols tlsProfile h2Profile tcpFingerprint).warnings =
      [] := List.isEmpty_iff.mp valid

/-- The verdict means what it says unless the one pair that is not compared is
all there is to compare. -/
theorem fingerprint_verdict_means_iff :
    Meaningful tlsProfile h2Profile tcpFingerprint
        (validateFingerprintConsistency presets alpnProtocols tlsProfile h2Profile tcpFingerprint) <->
      ¬ Unchecked tlsProfile h2Profile tcpFingerprint := by
  cases known : tlsProfile.bind browserFamily with
  | none =>
      rw [verdict_unknown presets alpnProtocols known]
      constructor
      · rintro meaningful ⟨_, family, other, h2, tcp, differ⟩
        exact differ (meaningful.consistent rfl _ _ _ _ (.h2 h2) (.tcp tcp))
      · intro checked
        have same : forall first family second other,
            Supplies tlsProfile h2Profile tcpFingerprint first family ->
              Supplies tlsProfile h2Profile tcpFingerprint second other -> family = other := by
          intro first family second other one two
          cases one with
          | tls own => exact (nomatch known.symm.trans own)
          | h2 own =>
              cases two with
              | tls own' => exact (nomatch known.symm.trans own')
              | h2 own' => exact Option.some.inj (own.symm.trans own')
              | tcp own' => exact by_contra (fun differ => checked ⟨known, family, other, own, own', differ⟩)
          | tcp own =>
              cases two with
              | tls own' => exact (nomatch known.symm.trans own')
              | h2 own' =>
                  exact by_contra (fun differ => checked ⟨known, other, family, own', own, Ne.symm differ⟩)
              | tcp own' => exact Option.some.inj (own.symm.trans own')
        refine ⟨fun _ => same, ?_⟩
        rintro ⟨first, family, second, other, one, two, differ⟩
        exact absurd (same first family second other one two) differ
  | some tls =>
      have checked : ¬ Unchecked tlsProfile h2Profile tcpFingerprint :=
        fun unchecked => nomatch known.symm.trans unchecked.1
      refine ⟨fun _ => checked, fun _ => ⟨?_, ?_⟩⟩
      · intro valid
        have none := warnings_of_valid presets alpnProtocols valid
        have own : forall second other, Supplies tlsProfile h2Profile tcpFingerprint second other ->
            tls = other := by
          intro second other supplies
          by_contra differ
          have warned := warned_of_tls presets alpnProtocols known supplies differ
          rw [none] at warned
          exact List.not_mem_nil warned
        intro first family second other one two
        exact (own first family one).symm.trans (own second other two)
      · rintro ⟨first, family, second, other, one, two, differ⟩
        by_cases same : tls = family
        · exact ⟨_, tls, second, other, .tls known, two, same ▸ differ,
            warned_of_tls presets alpnProtocols known two (same ▸ differ)⟩
        · exact ⟨_, tls, first, family, .tls known, one, same,
            warned_of_tls presets alpnProtocols known one same⟩

end Verdict

/-- Chrome over HTTP/2 and Firefox over TCP, without a TLS profile. -/
theorem chrome_and_firefox_are_valid :
    validateFingerprintConsistency (fun name => name) (fun _ => ["h2"]) none (some "chrome_144")
        (some "firefox_win") = ⟨true, []⟩ ∧
      ¬ Meaningful none (some "chrome_144") (some "firefox_win")
        (validateFingerprintConsistency (fun name => name) (fun _ => ["h2"]) none (some "chrome_144")
          (some "firefox_win")) := by
  have verdict : validateFingerprintConsistency (fun name => name) (fun _ => ["h2"]) none
      (some "chrome_144") (some "firefox_win") = ⟨true, []⟩ := verdict_unknown _ _ rfl
  refine ⟨verdict, ?_⟩
  rw [verdict]
  intro meaningful
  have chrome : (some "chrome_144").bind browserFamily = some .chrome := by decide
  have firefox : (some "firefox_win").bind browserFamily = some .firefox := by decide
  exact (nomatch meaningful.consistent rfl _ _ _ _ (.h2 chrome) (.tcp firefox))

end Client
end Lkrequest
