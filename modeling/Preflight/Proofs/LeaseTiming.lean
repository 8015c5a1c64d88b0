import Preflight.LeaseTiming

/-!
# The time between renewals

A duration is a pair of machine words, and a lease is divided word by word: the subtraction of a
second may borrow from the seconds, and the division hands what remains of the seconds on to the
nanoseconds.  `Duration.Words` has these operations as the machine carries them out, on words that
wrap around.  `Words.saturatingSub_exact` and `Words.div_exact` say that nothing wraps around and
that they are subtraction and division of the length as a whole.

As well-formed words with the same length are the same, `toWords_minusOneSecond` and
`toWords_third` identify the operations of `Duration` with those of words.
`LeaseTiming.resolve_exact` puts together what follows for the timing that a caller asks for.
-/

namespace Preflight

namespace Duration

/-! ## Lengths -/

/-- The length has the seconds and the nanoseconds as quotient and remainder. -/
theorem parts_eq {s s' n n' : Nat} (hn : n < nanosPerSecond) (hn' : n' < nanosPerSecond)
    (h : s * nanosPerSecond + n = s' * nanosPerSecond + n') : s = s' ∧ n = n' := by
  unfold nanosPerSecond at hn hn' h
  omega

theorem toNanos_injective : Function.Injective toNanos := by
  rintro ⟨s, n, hn⟩ ⟨s', n', hn'⟩ h
  obtain ⟨hseconds, rfl⟩ := parts_eq hn hn' h
  obtain rfl := UInt64.toNat_inj.1 hseconds
  rfl

theorem toNanos_zero : zero.toNanos = 0 := rfl

theorem toNanos_ofSeconds (s : UInt64) : (ofSeconds s).toNanos = s.toNat * nanosPerSecond :=
  Nat.add_zero _

theorem isZero_iff {d : Duration} : d.isZero = true ↔ d.toNanos = 0 := by
  have hseconds : d.seconds = 0 ↔ d.seconds.toNat = 0 := UInt64.toNat_inj.symm
  simp only [isZero, toNanos, nanosPerSecond, Bool.and_eq_true, beq_iff_eq, hseconds]
  omega

/-- One second less, as far as there is one. -/
theorem toNanos_minusOneSecond (d : Duration) :
    d.minusOneSecond.toNanos = d.toNanos - nanosPerSecond := by
  unfold minusOneSecond
  by_cases hzero : d.seconds = 0
  · have hlt : d.toNanos < nanosPerSecond := by
      simpa [toNanos, hzero] using d.nanos_lt
    rw [if_pos hzero, toNanos_zero, Nat.sub_eq_zero_of_le (Nat.le_of_lt hlt)]
  · have hpos : 1 ≤ d.seconds.toNat := by
      rw [← UInt64.toNat_inj] at hzero
      exact Nat.pos_of_ne_zero hzero
    have hpred : (d.seconds - 1).toNat = d.seconds.toNat - 1 :=
      UInt64.toNat_sub_of_le _ _ (UInt64.le_iff_toNat_le.2 hpos)
    rw [if_neg hzero]
    show (d.seconds - 1).toNat * nanosPerSecond + d.nanos =
      d.seconds.toNat * nanosPerSecond + d.nanos - nanosPerSecond
    rw [hpred]
    unfold nanosPerSecond
    omega

/-! ## Machine words -/

/-- Seconds and nanoseconds as machine words. -/
structure Words where
  seconds : UInt64
  nanos : UInt32
  deriving DecidableEq

namespace Words

/-- The nanoseconds make less than a second. -/
def WellFormed (w : Words) : Prop := w.nanos.toNat < nanosPerSecond

/-- The length in nanoseconds. -/
def toNanos (w : Words) : Nat := w.seconds.toNat * nanosPerSecond + w.nanos.toNat

/-- What is left, nothing when there is less; the nanoseconds may borrow a second. -/
def saturatingSub (w v : Words) : Words :=
  if w.seconds < v.seconds then ⟨0, 0⟩
  else if v.nanos ≤ w.nanos then ⟨w.seconds - v.seconds, w.nanos - v.nanos⟩
  else if w.seconds = v.seconds then ⟨0, 0⟩
  else ⟨w.seconds - v.seconds - 1, w.nanos + 1000000000 - v.nanos⟩

/-- The nanoseconds that the division of either word leaves over. -/
def leftOver (w : Words) (n : UInt32) : UInt64 :=
  w.seconds % n.toUInt64 * 1000000000 + (w.nanos % n).toUInt64

/-- Each word divided, and then what is left over. -/
def div (w : Words) (n : UInt32) : Words :=
  ⟨w.seconds / n.toUInt64, w.nanos / n + (w.leftOver n / n.toUInt64).toUInt32⟩

/-- The length tells well-formed words apart. -/
theorem eq_of_toNanos_eq {w v : Words} (hw : w.WellFormed) (hv : v.WellFormed)
    (h : w.toNanos = v.toNanos) : w = v := by
  obtain ⟨s, n⟩ := w
  obtain ⟨s', n'⟩ := v
  obtain ⟨hseconds, hnanos⟩ := parts_eq hw hv h
  obtain rfl := UInt64.toNat_inj.1 hseconds
  obtain rfl := UInt32.toNat_inj.1 hnanos
  rfl

/-- A borrowed second fits into the word of the nanoseconds. -/
theorem toNat_borrow {w v : Words} (hw : w.WellFormed) (hv : v.WellFormed) :
    (w.nanos + 1000000000 - v.nanos).toNat =
      w.nanos.toNat + nanosPerSecond - v.nanos.toNat := by
  unfold WellFormed nanosPerSecond at hw hv
  have hsum : (w.nanos + 1000000000).toNat = w.nanos.toNat + 1000000000 := by
    rw [UInt32.toNat_add]
    exact Nat.mod_eq_of_lt (by show _ + 1000000000 < 2 ^ 32; omega)
  have hle : v.nanos ≤ w.nanos + 1000000000 := by
    rw [UInt32.le_iff_toNat_le, hsum]
    omega
  rw [UInt32.toNat_sub_of_le _ _ hle, hsum, nanosPerSecond]

theorem zero_exact {w v : Words} (hle : w.toNanos ≤ v.toNanos) :
    (⟨0, 0⟩ : Words).WellFormed ∧ (⟨0, 0⟩ : Words).toNanos = w.toNanos - v.toNanos := by
  constructor
  · show (0 : UInt32).toNat < nanosPerSecond
    decide
  · rw [Nat.sub_eq_zero_of_le hle]
    rfl

/-- The subtraction is that of the lengths. -/
theorem saturatingSub_exact {w v : Words} (hw : w.WellFormed) (hv : v.WellFormed) :
    (w.saturatingSub v).WellFormed ∧ (w.saturatingSub v).toNanos = w.toNanos - v.toNanos := by
  have hborrow := toNat_borrow hw hv
  unfold saturatingSub
  -- in each case the words are exact, and what is left is linear in their values
  by_cases hless : w.seconds < v.seconds
  · have hlt : w.seconds.toNat < v.seconds.toNat := UInt64.lt_iff_toNat_lt.1 hless
    rw [if_pos hless]
    apply zero_exact
    simp only [WellFormed, toNanos, nanosPerSecond] at hw ⊢
    omega
  · have hle : v.seconds.toNat ≤ w.seconds.toNat :=
      UInt64.le_iff_toNat_le.1 (UInt64.not_lt.1 hless)
    have hseconds : (w.seconds - v.seconds).toNat = w.seconds.toNat - v.seconds.toNat :=
      UInt64.toNat_sub_of_le _ _ (UInt64.not_lt.1 hless)
    rw [if_neg hless]
    by_cases henough : v.nanos ≤ w.nanos
    · have hnanos : v.nanos.toNat ≤ w.nanos.toNat := UInt32.le_iff_toNat_le.1 henough
      have hdiff : (w.nanos - v.nanos).toNat = w.nanos.toNat - v.nanos.toNat :=
        UInt32.toNat_sub_of_le _ _ henough
      rw [if_pos henough]
      simp only [WellFormed, toNanos, nanosPerSecond, hseconds, hdiff] at hw ⊢
      omega
    · have hnanos : w.nanos.toNat < v.nanos.toNat := by
        rwa [UInt32.le_iff_toNat_le, Nat.not_le] at henough
      rw [if_neg henough]
      by_cases hsame : w.seconds = v.seconds
      · rw [if_pos hsame]
        apply zero_exact
        rw [toNanos, toNanos, hsame]
        exact Nat.add_le_add_left (Nat.le_of_lt hnanos) _
      · have hpos : 1 ≤ (w.seconds - v.seconds).toNat := by
          rw [← UInt64.toNat_inj] at hsame
          omega
        have hpred : (w.seconds - v.seconds - 1).toNat = (w.seconds - v.seconds).toNat - 1 :=
          UInt64.toNat_sub_of_le _ _ (UInt64.le_iff_toNat_le.2 hpos)
        rw [if_neg hsame]
        simp only [WellFormed, toNanos, nanosPerSecond, hborrow, hpred, hseconds] at hw hv ⊢
        omega

section Division

variable {w : Words} {n : UInt32} (hn : 0 < n.toNat)
include hn

/-- What is left over fits into its word. -/
theorem toNat_leftOver : (w.leftOver n).toNat =
    w.seconds.toNat % n.toNat * nanosPerSecond + w.nanos.toNat % n.toNat := by
  have hseconds : w.seconds.toNat % n.toNat < n.toNat := Nat.mod_lt _ hn
  have hnanos : w.nanos.toNat % n.toNat < n.toNat := Nat.mod_lt _ hn
  have hword : n.toNat < 2 ^ 32 := n.toNat_lt
  unfold leftOver nanosPerSecond
  rw [UInt64.toNat_add, UInt64.toNat_mul, UInt64.toNat_mod, UInt32.toNat_toUInt64,
    UInt32.toNat_toUInt64, UInt32.toNat_mod]
  show (w.seconds.toNat % n.toNat * 1000000000 % 2 ^ 64 + w.nanos.toNat % n.toNat) % 2 ^ 64 = _
  omega

/-- The nanoseconds of the quotient are those of the seconds that remain and of the word. -/
theorem div_leftOver : w.nanos.toNat / n.toNat + (w.leftOver n).toNat / n.toNat =
    (w.seconds.toNat % n.toNat * nanosPerSecond + w.nanos.toNat) / n.toNat := by
  calc w.nanos.toNat / n.toNat + (w.leftOver n).toNat / n.toNat
      = ((w.leftOver n).toNat + n.toNat * (w.nanos.toNat / n.toNat)) / n.toNat := by
        rw [Nat.add_mul_div_left _ _ hn, Nat.add_comm]
    _ = (w.seconds.toNat % n.toNat * nanosPerSecond + w.nanos.toNat) / n.toNat := by
        rw [toNat_leftOver hn, Nat.add_assoc, Nat.mod_add_div]

/-- They make less than a second. -/
theorem div_leftOver_lt (hw : w.WellFormed) :
    w.nanos.toNat / n.toNat + (w.leftOver n).toNat / n.toNat < nanosPerSecond := by
  have hseconds : w.seconds.toNat % n.toNat + 1 ≤ n.toNat := Nat.mod_lt _ hn
  rw [div_leftOver hn, Nat.div_lt_iff_lt_mul hn]
  calc w.seconds.toNat % n.toNat * nanosPerSecond + w.nanos.toNat
      < w.seconds.toNat % n.toNat * nanosPerSecond + nanosPerSecond := Nat.add_lt_add_left hw _
    _ = (w.seconds.toNat % n.toNat + 1) * nanosPerSecond := (Nat.succ_mul _ _).symm
    _ ≤ n.toNat * nanosPerSecond := Nat.mul_le_mul_right _ hseconds
    _ = nanosPerSecond * n.toNat := Nat.mul_comm _ _

/-- So they fit into their word. -/
theorem toNat_div_nanos (hw : w.WellFormed) : (w.div n).nanos.toNat =
    w.nanos.toNat / n.toNat + (w.leftOver n).toNat / n.toNat := by
  have hword : nanosPerSecond < 2 ^ 32 := by decide
  have hsum := Nat.lt_trans (div_leftOver_lt hn hw) hword
  have hleft := Nat.lt_of_le_of_lt (Nat.le_add_left _ _) hsum
  show (w.nanos / n + (w.leftOver n / n.toUInt64).toUInt32).toNat = _
  rw [UInt32.toNat_add, UInt32.toNat_div, UInt64.toNat_toUInt32, UInt64.toNat_div,
    UInt32.toNat_toUInt64, Nat.mod_eq_of_lt hleft, Nat.mod_eq_of_lt hsum]

/-- The division is that of the length. -/
theorem div_exact (hw : w.WellFormed) :
    (w.div n).WellFormed ∧ (w.div n).toNanos = w.toNanos / n.toNat := by
  constructor
  · unfold WellFormed
    rw [toNat_div_nanos hn hw]
    exact div_leftOver_lt hn hw
  · -- whole multiples of the divisor go into the seconds, the rest into the nanoseconds
    have hseconds : (w.div n).seconds.toNat = w.seconds.toNat / n.toNat := by
      show (w.seconds / n.toUInt64).toNat = _
      rw [UInt64.toNat_div, UInt32.toNat_toUInt64]
    have hlength : w.toNanos = w.seconds.toNat % n.toNat * nanosPerSecond + w.nanos.toNat +
        n.toNat * (w.seconds.toNat / n.toNat * nanosPerSecond) := by
      have hsplit := Nat.mod_add_div w.seconds.toNat n.toNat
      rw [toNanos, Nat.add_right_comm, ← Nat.mul_assoc, ← Nat.add_mul, hsplit]
    rw [toNanos, hseconds, toNat_div_nanos hn hw, div_leftOver hn, hlength,
      Nat.add_mul_div_left _ _ hn, Nat.add_comm]

end Division

end Words

/-- The words of a duration. -/
def toWords (d : Duration) : Words := ⟨d.seconds, UInt32.ofNat d.nanos⟩

theorem toNat_toWords_nanos (d : Duration) : d.toWords.nanos.toNat = d.nanos := by
  have hlt := d.nanos_lt
  unfold nanosPerSecond at hlt
  exact UInt32.toNat_ofNat_of_lt' (by show _ < 2 ^ 32; omega)

theorem wellFormed_toWords (d : Duration) : d.toWords.WellFormed := by
  unfold Words.WellFormed
  rw [toNat_toWords_nanos]
  exact d.nanos_lt

theorem toNanos_toWords (d : Duration) : d.toWords.toNanos = d.toNanos := by
  rw [Words.toNanos, toNat_toWords_nanos]
  rfl

theorem toWords_minusOneSecond (d : Duration) :
    d.minusOneSecond.toWords = d.toWords.saturatingSub (ofSeconds 1).toWords := by
  have hsub := Words.saturatingSub_exact d.wellFormed_toWords (ofSeconds 1).wellFormed_toWords
  apply Words.eq_of_toNanos_eq (wellFormed_toWords _) hsub.1
  rw [hsub.2, toNanos_toWords, toNanos_toWords, toNanos_toWords, toNanos_minusOneSecond,
    toNanos_ofSeconds]
  rfl

/-- A third, rounded down. -/
theorem toNanos_third (d : Duration) : d.third.toNanos = d.toNanos / 3 := by
  have hseconds : d.third.seconds.toNat = d.seconds.toNat / 3 := UInt64.toNat_div _ _
  show d.third.seconds.toNat * nanosPerSecond +
    (d.nanos / 3 + (d.seconds.toNat % 3 * nanosPerSecond + d.nanos % 3) / 3) =
      (d.seconds.toNat * nanosPerSecond + d.nanos) / 3
  rw [hseconds]
  unfold nanosPerSecond
  omega

theorem toWords_third (d : Duration) : d.third.toWords = d.toWords.div 3 := by
  have hdiv := Words.div_exact (n := 3) (by decide) d.wellFormed_toWords
  apply Words.eq_of_toNanos_eq (wellFormed_toWords _) hdiv.1
  rw [hdiv.2, toNanos_toWords, toNanos_toWords, toNanos_third]
  rfl

end Duration

namespace LeaseTiming

open Duration

/-! ## Timeouts -/

/-- A timeout that lasts: the given one where that lasts, otherwise the default. -/
structure Settles (given : Option Duration) (default timeout : Duration) : Prop where
  pos : 0 < timeout.toNanos
  keeps : ∀ d, given = some d → 0 < d.toNanos → timeout = d
  fallsBack : (∀ d, given = some d → d.toNanos = 0) → timeout = default

theorem settles_nonZeroOr (given : Option Duration) {default : Duration}
    (hdefault : 0 < default.toNanos) : Settles given default (nonZeroOr given default) := by
  cases given with
  | none =>
    refine ⟨hdefault, ?_, fun _ => rfl⟩
    rintro _ ⟨⟩
  | some d =>
    show Settles (some d) default (if d.isZero then default else d)
    by_cases hzero : d.isZero = true
    · have hlength : d.toNanos = 0 := isZero_iff.1 hzero
      rw [if_pos hzero]
      refine ⟨hdefault, ?_, fun _ => rfl⟩
      rintro _ ⟨rfl⟩ hpos
      omega
    · have hlength : 0 < d.toNanos := Nat.pos_of_ne_zero fun h => hzero (isZero_iff.2 h)
      rw [if_neg hzero]
      refine ⟨hlength, ?_, ?_⟩
      · rintro _ ⟨rfl⟩ _
        rfl
      · intro hall
        have hnone := hall d rfl
        omega

/-! ## Renewals -/

theorem toNanos_delayBetween (t : LeaseTiming) :
    t.delayBetween.toNanos = (t.leaseTimeout.toNanos - nanosPerSecond) / 3 := by
  rw [delayBetween, toNanos_third, toNanos_minusOneSecond]

/-- The words of what is left of a lease after one second. -/
def leftWords (t : LeaseTiming) : Words :=
  t.leaseTimeout.toWords.saturatingSub (ofSeconds 1).toWords

theorem wellFormed_leftWords (t : LeaseTiming) : t.leftWords.WellFormed :=
  (Words.saturatingSub_exact (wellFormed_toWords _) (wellFormed_toWords _)).1

/-- The time between renewals is that of the arithmetic of words, in which nothing wraps around,
and it is a third of what the lease has beyond a second. -/
structure RenewsInTime (t : LeaseTiming) : Prop where
  wellFormed : t.delayBetween.toWords.WellFormed
  inWords : t.delayBetween.toWords = t.leftWords.div 3
  /-- What the division leaves over of both words fits into 64 bits. -/
  leftOver : (t.leftWords.leftOver 3).toNat =
    t.leftWords.seconds.toNat % 3 * nanosPerSecond + t.leftWords.nanos.toNat % 3
  /-- And the nanoseconds of the quotient make less than a second. -/
  nanos : t.leftWords.nanos.toNat / 3 + (t.leftWords.leftOver 3).toNat / 3 < nanosPerSecond
  long : nanosPerSecond ≤ t.leaseTimeout.toNanos →
    t.delayBetween.toNanos = (t.leaseTimeout.toNanos - nanosPerSecond) / 3
  short : t.leaseTimeout.toNanos < nanosPerSecond → t.delayBetween = zero
  within : nanosPerSecond ≤ t.leaseTimeout.toNanos →
    3 * t.delayBetween.toNanos + nanosPerSecond ≤ t.leaseTimeout.toNanos ∧
      t.leaseTimeout.toNanos < 3 * t.delayBetween.toNanos + nanosPerSecond + 3
  lt : 0 < t.leaseTimeout.toNanos → t.delayBetween.toNanos < t.leaseTimeout.toNanos
  mono : ∀ t' : LeaseTiming, t.leaseTimeout.toNanos ≤ t'.leaseTimeout.toNanos →
    t.delayBetween.toNanos ≤ t'.delayBetween.toNanos

theorem renewsInTime (t : LeaseTiming) : RenewsInTime t := by
  have hdelay := toNanos_delayBetween t
  have hdivides : 0 < (3 : UInt32).toNat := by decide
  have hleft := wellFormed_leftWords t
  exact {
    wellFormed := wellFormed_toWords _
    inWords := by rw [delayBetween, toWords_third, toWords_minusOneSecond, leftWords]
    leftOver := Words.toNat_leftOver hdivides
    nanos := Words.div_leftOver_lt hdivides hleft
    long := fun _ => hdelay
    short := by
      intro hshort
      apply toNanos_injective
      rw [hdelay, Nat.sub_eq_zero_of_le (Nat.le_of_lt hshort), toNanos_zero]
    within := by
      intro hlong
      rw [hdelay]
      omega
    lt := by
      intro hpos
      rw [hdelay]
      omega
    mono := by
      intro t' hle
      rw [hdelay, toNanos_delayBetween]
      omega }

/-- What a caller asks for, and the time between renewals that follows. -/
theorem resolve_exact (wait lease : Option Duration) :
    Settles wait standard.waitTimeout (resolve wait lease).waitTimeout ∧
      Settles lease standard.leaseTimeout (resolve wait lease).leaseTimeout ∧
      RenewsInTime (resolve wait lease) ∧
      (resolve wait lease).delayBetween.toNanos < (resolve wait lease).leaseTimeout.toNanos := by
  have hwait : Settles wait standard.waitTimeout (resolve wait lease).waitTimeout :=
    settles_nonZeroOr wait (by decide)
  have hlease : Settles lease standard.leaseTimeout (resolve wait lease).leaseTimeout :=
    settles_nonZeroOr lease (by decide)
  have hrenews := renewsInTime (resolve wait lease)
  exact ⟨hwait, hlease, hrenews, hrenews.lt hlease.pos⟩

example : (resolve (some zero) none).delayBetween = ofSeconds 4 := by decide

end LeaseTiming

end Preflight
