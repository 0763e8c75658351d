import Lkrequest.Client.Config
import Lkrequest.Foundations.Binary64

namespace Lkrequest
namespace Client

open Foundations
open Request (Duration Failure Library PyFloat validatedDuration)

/-!
# Durations from Python

Every timeout, interval, window and delay is a float that becomes a `Duration`,
behind a check that is written twice: in `validated_duration` and in the policy
that asks a callable.  Both refuse what is negative or not finite.  Neither
refuses what a `Duration` has no room for.
-/

/-! ## Floats -/

/-- `f64`, by its bits. -/
structure F64 where
  bits : BitVec 64
deriving DecidableEq

def F64.toFloat (secs : F64) : PyFloat :=
  if Binary64.exponent secs.bits = 2047 then
    if Binary64.fraction secs.bits = 0 then .infinite (Binary64.negative secs.bits) else .nan
  else
    .finite (if Binary64.negative secs.bits then -Binary64.magnitude secs.bits
      else Binary64.magnitude secs.bits)

/-- `Duration::from_secs_f64`, which panics on what is not a duration. -/
def fromSecsF64 : PyFloat -> Option Duration
  | .finite value =>
      let nanos := roundHalfEven (value * 10 ^ 9)
      if value < 0 then none
      else if nanos < 2 ^ 64 * 10 ^ 9 then some ⟨nanos.toNat⟩
      else none
  | .infinite _ => none
  | .nan => none

/-- The library with the durations of Rust. -/
def withDurations (library : Library) : Library :=
  { library with fromSecs := fun value => fromSecsF64 (.finite value) }

/-- So many seconds that their number is no `u64`. -/
def F64.TooBig (secs : F64) : Prop := ∃ value, secs.toFloat = .finite value ∧ 2 ^ 64 ≤ value

/-- The duration is so many seconds, to the nanosecond. -/
def IsSeconds (duration : Duration) (secs : PyFloat) : Prop :=
  ∃ value, secs = .finite value ∧ |value * 10 ^ 9 - duration.nanos| ≤ 1 / 2

theorem F64.whole_or_small {secs : F64} {value : Rat} (finite : secs.toFloat = .finite value) :
    (∃ whole : Nat, value = whole) ∨ value < 2 ^ 53 := by
  unfold F64.toFloat at finite
  split at finite
  case isTrue => split at finite <;> exact (nomatch finite)
  case isFalse =>
    have same := PyFloat.finite.inj finite
    split at same
    case isTrue =>
      have above := Binary64.magnitude_nonneg secs.bits
      right
      linarith
    case isFalse =>
      rw [← same]
      exact Binary64.magnitude_whole_or_small secs.bits

/-- A float below `2 ^ 64` is not rounded up to it. -/
theorem F64.fits_iff {secs : F64} {value : Rat} (finite : secs.toFloat = .finite value) :
    roundHalfEven (value * 10 ^ 9) < 2 ^ 64 * 10 ^ 9 <-> value < 2 ^ 64 := by
  rcases F64.whole_or_small finite with ⟨whole, rfl⟩ | small
  · have exact : ((whole : Rat) * 10 ^ 9) = (((whole : Int) * 10 ^ 9 : Int) : Rat) := by push_cast; rfl
    rw [exact, roundHalfEven_whole]
    constructor
    · intro fits
      have below : whole < 2 ^ 64 := by omega
      exact_mod_cast below
    · intro below
      have short : whole < 2 ^ 64 := by exact_mod_cast below
      omega
  · have near := (abs_le.mp (roundHalfEven_near (value * 10 ^ 9))).1
    generalize roundHalfEven (value * 10 ^ 9) = nanos at near ⊢
    have short : (nanos : Rat) < ((2 ^ 64 * 10 ^ 9 : Int) : Rat) := by
      push_cast
      linarith
    exact ⟨fun _ => by linarith, fun _ => by exact_mod_cast short⟩

/-- `from_secs_f64` panics on what is negative, not finite or too big, and on nothing else. -/
theorem fromSecsF64_none_iff (secs : F64) : fromSecsF64 secs.toFloat = none <->
    (forall value, secs.toFloat = .finite value -> value < 0) ∨ secs.TooBig := by
  cases is : secs.toFloat with
  | infinite sign => exact ⟨fun _ => Or.inl nofun, fun _ => rfl⟩
  | nan => exact ⟨fun _ => Or.inl nofun, fun _ => rfl⟩
  | finite value =>
      unfold fromSecsF64 F64.TooBig
      dsimp only
      rw [is]
      by_cases negative : value < 0
      · rw [if_pos negative]
        exact ⟨fun _ => Or.inl (fun _ same => PyFloat.finite.inj same ▸ negative), fun _ => rfl⟩
      · rw [if_neg negative]
        have fits := F64.fits_iff is
        constructor
        · intro panics
          right
          refine ⟨value, rfl, le_of_not_gt (fun below => ?_)⟩
          rw [if_pos (fits.mpr below)] at panics
          exact (nomatch panics)
        · rintro (below | ⟨same, equal, big⟩)
          · exact absurd (below value rfl) negative
          · cases equal
            rw [if_neg (fun short => absurd (fits.mp short) (not_lt_of_ge big))]

theorem fromSecsF64_some {secs : PyFloat} {duration : Duration}
    (made : fromSecsF64 secs = some duration) : IsSeconds duration secs := by
  cases secs with
  | infinite sign => exact (nomatch made)
  | nan => exact (nomatch made)
  | finite value =>
      unfold fromSecsF64 at made
      dsimp only at made
      split at made
      case isTrue => exact (nomatch made)
      case isFalse nonneg =>
        split at made
        case isFalse => exact (nomatch made)
        case isTrue =>
          cases made
          refine ⟨value, rfl, ?_⟩
          have near := roundHalfEven_near (value * 10 ^ 9)
          generalize roundHalfEven (value * 10 ^ 9) = nanos at near ⊢
          have above : 0 ≤ nanos := by
            have least := (abs_le.mp near).2
            by_contra less
            have less : (nanos : Rat) ≤ -1 := by exact_mod_cast Int.le_sub_one_of_lt (lt_of_not_ge less)
            linarith
          have same : ((nanos.toNat : Nat) : Rat) = nanos := by
            exact_mod_cast congrArg (Int.cast : Int -> Rat) (Int.toNat_of_nonneg above)
          rw [same]
          exact near

/-! ## The two checks -/

/-- `!secs.is_finite() || secs < 0.0`. -/
def refused : PyFloat -> Bool
  | .finite value => decide (value < 0)
  | .infinite _ => true
  | .nan => true

/-- What a retry callable returns: `None`, or an object with what `extract::<f64>` makes of it. -/
inductive RetryAnswer
  | none
  | object (secs : Except PyErr F64)

/-- The callable is given the attempt, the text of the error and the status. -/
structure PyCallableRetryPolicy where
  callable : Nat -> Option String -> Option Nat -> Except PyErr RetryAnswer

def PyCallableRetryPolicy.shouldRetry (policy : PyCallableRetryPolicy) (attempt : Nat)
    (error : Option String) (status : Option Nat) : Except Failure (Option Duration) :=
  match policy.callable attempt error status with
  | .error _ => .ok none
  | .ok .none => .ok none
  | .ok (.object (.error _)) => .ok none
  | .ok (.object (.ok delaySecs)) =>
      if refused delaySecs.toFloat then .ok none
      else
        match fromSecsF64 delaySecs.toFloat with
        | some delay => .ok (some delay)
        | none => .error .panicked

theorem validatedDuration_eq (library : Library) (secs : PyFloat) :
    validatedDuration (withDurations library) secs =
      if refused secs then .error (.raised (.valueError
        ("Duration must be a finite non-negative number, got " ++ library.showFloat secs)))
      else
        match fromSecsF64 secs with
        | some duration => .ok duration
        | none => .error .panicked := by
  cases secs with
  | infinite sign => rfl
  | nan => rfl
  | finite value =>
      unfold validatedDuration refused
      dsimp only
      simp only [decide_eq_true_eq]
      rfl

/-- Behind the check, only what is too big makes `from_secs_f64` panic. -/
theorem fromSecsF64_valid {secs : F64} (valid : refused secs.toFloat = false) :
    fromSecsF64 secs.toFloat = none <-> secs.TooBig := by
  rw [fromSecsF64_none_iff]
  refine ⟨fun either => either.resolve_left (fun negative => ?_), Or.inr⟩
  cases is : secs.toFloat with
  | infinite sign => exact (nomatch is ▸ valid)
  | nan => exact (nomatch is ▸ valid)
  | finite value =>
      rw [is] at valid
      exact of_decide_eq_false valid (negative value is)

theorem F64.TooBig.valid {secs : F64} (big : secs.TooBig) : refused secs.toFloat = false := by
  rcases big with ⟨value, is, big⟩
  rw [is]
  exact decide_eq_false (by linarith)

/-! ## What the checks promise -/

/-- `validated_duration` makes a duration of so many seconds, or raises `ValueError`. -/
def Validates (library : Library) (secs : F64) : Prop :=
  (∃ duration, validatedDuration (withDurations library) secs.toFloat = .ok duration ∧
    IsSeconds duration secs.toFloat) ∨
  ∃ message, validatedDuration (withDurations library) secs.toFloat =
    .error (.raised (.valueError message))

/-- `should_retry` returns, and a delay is of as many seconds as the callable said. -/
def Decides (policy : PyCallableRetryPolicy) (attempt : Nat) (error : Option String)
    (status : Option Nat) : Prop :=
  ∃ delay, policy.shouldRetry attempt error status = .ok delay ∧ ∀ duration ∈ delay,
    ∃ secs, policy.callable attempt error status = .ok (.object (.ok secs)) ∧
      IsSeconds duration secs.toFloat

theorem validates_iff (library : Library) (secs : F64) : Validates library secs <-> ¬ secs.TooBig := by
  unfold Validates
  rw [validatedDuration_eq]
  cases valid : refused secs.toFloat with
  | true =>
      have small : ¬ secs.TooBig := fun big => Bool.false_ne_true (big.valid ▸ valid)
      exact ⟨fun _ => small, fun _ => Or.inr ⟨_, rfl⟩⟩
  | false =>
      rw [if_neg Bool.false_ne_true, ← fromSecsF64_valid valid]
      cases made : fromSecsF64 secs.toFloat with
      | none => simp
      | some duration =>
          have seconds := fromSecsF64_some made
          exact ⟨fun _ => nofun, fun _ => Or.inl ⟨duration, rfl, seconds⟩⟩

theorem decides_iff (policy : PyCallableRetryPolicy) (attempt : Nat) (error : Option String)
    (status : Option Nat) : Decides policy attempt error status <->
      forall secs, policy.callable attempt error status = .ok (.object (.ok secs)) -> ¬ secs.TooBig := by
  unfold Decides PyCallableRetryPolicy.shouldRetry
  cases said : policy.callable attempt error status with
  | error raised => exact ⟨fun _ => nofun, fun _ => ⟨none, rfl, nofun⟩⟩
  | ok answer =>
      cases answer with
      | none => exact ⟨fun _ => nofun, fun _ => ⟨none, rfl, nofun⟩⟩
      | object extracted =>
          cases extracted with
          | error raised => exact ⟨fun _ => nofun, fun _ => ⟨none, rfl, nofun⟩⟩
          | ok secs =>
              have only : (forall other, (.ok (.object (.ok secs)) : Except PyErr RetryAnswer) =
                  .ok (.object (.ok other)) -> ¬ other.TooBig) <-> ¬ secs.TooBig :=
                ⟨fun all => all secs rfl, fun small other same => by cases same; exact small⟩
              rw [only]
              dsimp only
              cases valid : refused secs.toFloat with
              | true =>
                  have small : ¬ secs.TooBig := fun big => Bool.false_ne_true (big.valid ▸ valid)
                  exact ⟨fun _ => small, fun _ => ⟨none, rfl, nofun⟩⟩
              | false =>
                  rw [if_neg Bool.false_ne_true, ← fromSecsF64_valid valid]
                  cases made : fromSecsF64 secs.toFloat with
                  | none => simp
                  | some delay =>
                      refine ⟨fun _ => nofun, fun _ => ⟨some delay, rfl, ?_⟩⟩
                      intro duration among
                      cases among
                      exact ⟨secs, rfl, fromSecsF64_some made⟩

/-! ## Arguments -/

section Arguments

variable (library : Library)

/-- `Option<f64>::map(validated_duration).transpose()`. -/
def argument (secs : Option F64) : Except Failure (Option Duration) :=
  secs.mapM (fun secs => validatedDuration (withDurations library) secs.toFloat)

/-- `validated_duration(..)?`. -/
def required (secs : F64) : Except Failure Duration :=
  validatedDuration (withDurations library) secs.toFloat

/-- The arguments are checked in this order, and one that is too big is reached. -/
def ReachesTooBig : List (Option F64) -> Prop
  | [] => False
  | none :: rest => ReachesTooBig rest
  | some secs :: rest => secs.TooBig ∨ (refused secs.toFloat = false ∧ ReachesTooBig rest)

theorem panics_bind {First Second : Type} {first : Except Failure First}
    {second : First -> Except Failure Second} : (first >>= second) = .error .panicked <->
      first = .error .panicked ∨ ∃ value, first = .ok value ∧ second value = .error .panicked := by
  cases first with
  | error failure =>
      change Except.error failure = .error .panicked <-> _
      simp
  | ok value =>
      change second value = .error .panicked <-> _
      simp

variable {library}

theorem required_panics {secs : F64} : required library secs = .error .panicked <-> secs.TooBig := by
  unfold required
  rw [validatedDuration_eq]
  cases valid : refused secs.toFloat with
  | true =>
      rw [if_pos rfl]
      exact ⟨nofun, fun big => absurd (big.valid ▸ valid) Bool.false_ne_true⟩
  | false =>
      rw [if_neg Bool.false_ne_true, ← fromSecsF64_valid valid]
      cases made : fromSecsF64 secs.toFloat with
      | none => simp
      | some duration => simp

theorem required_ok {secs : F64} (valid : refused secs.toFloat = false) (small : ¬ secs.TooBig) :
    ∃ duration, required library secs = .ok duration := by
  unfold required
  rw [validatedDuration_eq, valid, if_neg Bool.false_ne_true]
  cases made : fromSecsF64 secs.toFloat with
  | none => exact absurd ((fromSecsF64_valid valid).mp made) small
  | some duration => exact ⟨duration, rfl⟩

theorem valid_of_required_ok {secs : F64} {duration : Duration}
    (made : required library secs = .ok duration) : refused secs.toFloat = false := by
  unfold required at made
  rw [validatedDuration_eq] at made
  cases valid : refused secs.toFloat with
  | true =>
      rw [valid, if_pos rfl] at made
      exact (nomatch made)
  | false => rfl

variable {Result : Type} {rest : List (Option F64)}

theorem return_panics {result : Result} :
    (pure result : Except Failure Result) = .error .panicked <-> ReachesTooBig [] := by
  constructor
  · exact nofun
  · exact False.elim

theorem required_bind_panics {secs : F64} {next : Duration -> Except Failure Result}
    (follows : forall duration, next duration = .error .panicked <-> ReachesTooBig rest) :
    (required library secs >>= next) = .error .panicked <-> ReachesTooBig (some secs :: rest) := by
  rw [panics_bind, required_panics]
  constructor
  · rintro (big | ⟨duration, made, panics⟩)
    · exact Or.inl big
    · exact Or.inr ⟨valid_of_required_ok made, (follows duration).mp panics⟩
  · rintro (big | ⟨valid, reaches⟩)
    · exact Or.inl big
    · by_cases big : secs.TooBig
      · exact Or.inl big
      · rcases @required_ok library secs valid big with ⟨duration, made⟩
        exact Or.inr ⟨duration, made, (follows duration).mpr reaches⟩

theorem argument_bind_panics {secs : Option F64} {next : Option Duration -> Except Failure Result}
    (follows : forall duration, next duration = .error .panicked <-> ReachesTooBig rest) :
    (argument library secs >>= next) = .error .panicked <-> ReachesTooBig (secs :: rest) := by
  cases secs with
  | none => exact follows none
  | some secs =>
      have same : (argument library (some secs) >>= next) =
          required library secs >>= fun duration => next (some duration) := by
        change ((required library secs >>= fun duration => pure (some duration)) >>= next) = _
        rw [bind_assoc]
        rfl
      rw [same]
      exact required_bind_panics (fun duration => follows (some duration))

theorem argument_panics {secs : Option F64} :
    argument library secs = .error .panicked <-> ReachesTooBig [secs] := by
  rw [← bind_pure (argument library secs)]
  exact argument_bind_panics (fun _ => return_panics)

/-- Every argument that is given is made a duration. -/
def Convertible (durations : List (Option F64)) : Prop :=
  ∀ given ∈ durations, ∀ secs ∈ given, refused secs.toFloat = false ∧ ¬ secs.TooBig

theorem reaches_append {first second : List (Option F64)} :
    ReachesTooBig (first ++ second) <-> ReachesTooBig first ∨ Convertible first ∧ ReachesTooBig second := by
  induction first with
  | nil =>
      have accepted : Convertible [] := fun _ none => absurd none List.not_mem_nil
      rw [List.nil_append]
      exact ⟨fun reaches => Or.inr ⟨accepted, reaches⟩, fun either => either.elim False.elim And.right⟩
  | cons given rest ih =>
      have split : Convertible (given :: rest) <->
          (∀ secs ∈ given, refused secs.toFloat = false ∧ ¬ secs.TooBig) ∧ Convertible rest :=
        List.forall_mem_cons
      rw [List.cons_append, split]
      cases given with
      | none =>
          have first : ∀ secs ∈ (none : Option F64), refused secs.toFloat = false ∧ ¬ secs.TooBig := nofun
          rw [and_iff_right first]
          exact ih
      | some secs =>
          have first : (∀ other ∈ some secs, refused other.toFloat = false ∧ ¬ other.TooBig) <->
              refused secs.toFloat = false ∧ ¬ secs.TooBig :=
            ⟨fun all => all secs rfl, fun small other same => by cases same; exact small⟩
          rw [first]
          change secs.TooBig ∨ _ ∧ ReachesTooBig (rest ++ second) <-> (secs.TooBig ∨ _) ∨ _
          rw [ih]
          tauto

theorem argument_ok_iff {secs : Option F64} :
    (argument library secs).isOk = true <-> Convertible [secs] := by
  have single : Convertible [secs] <-> ∀ given ∈ secs, refused given.toFloat = false ∧ ¬ given.TooBig :=
    List.forall_mem_singleton
  rw [single]
  cases secs with
  | none => exact iff_of_true rfl nofun
  | some secs =>
      constructor
      · intro isOk given same
        cases same
        cases made : required library secs with
        | error failure =>
            have failed : argument library (some secs) = .error failure := by
              change (required library secs >>= fun duration => pure (some duration)) = _
              rw [made]
              rfl
            rw [failed] at isOk
            exact (nomatch isOk)
        | ok duration =>
            refine ⟨valid_of_required_ok made, fun big => ?_⟩
            exact (nomatch (required_panics.mpr big).symm.trans made)
      · intro small
        rcases small secs rfl with ⟨valid, small⟩
        rcases @required_ok library secs valid small with ⟨duration, made⟩
        change (required library secs >>= fun duration => pure (some duration)).isOk = true
        rw [made]
        rfl

/-- A program that checks arguments and goes on to succeed accepts them all. -/
theorem argument_bind_ok {secs : Option F64} {next : Option Duration -> Except Failure Result}
    (follows : forall duration, (next duration).isOk = true <-> Convertible rest) :
    (argument library secs >>= next).isOk = true <-> Convertible (secs :: rest) := by
  have split : Convertible (secs :: rest) <-> Convertible [secs] ∧ Convertible rest := by
    unfold Convertible
    rw [List.forall_mem_cons, List.forall_mem_singleton]
  rw [split, ← @argument_ok_iff library secs]
  cases argument library secs with
  | error failure => exact iff_of_false (fun isOk => nomatch isOk) (fun both => nomatch both.1)
  | ok duration => exact (follows duration).trans (and_iff_right rfl).symm

theorem return_ok {result : Result} : (pure result : Except Failure Result).isOk = true <-> Convertible [] :=
  iff_of_true rfl (fun _ none => absurd none List.not_mem_nil)

end Arguments

end Client
end Lkrequest
