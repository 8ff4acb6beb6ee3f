import AnselmGateway.Foundation.Int64

/-! The low-disk guard of `internal/infra/diskguard`: a probe of the data disk flips one flag.
Sizes and floors are the code's own 64-bit integers. -/
namespace AnselmGateway.DiskGuard
open Foundation

/-- What a check logs. -/
inductive Edge where
  | probeFailed
  | lowDegraded (freeMB totalMB minMB minPercent : Int64)
  | recovered (freeMB totalMB : Int64)
  deriving DecidableEq

/-- `Guard`. -/
structure Guard where
  minBytes : Int64
  minPercent : Int64
  degraded : Bool
  log : List Edge
  deriving DecidableEq

/-- `New`; an `int` has 64 bits. -/
def new (minMB minPercent : Int64) : Guard := ⟨minMB * 1024 * 1024, minPercent, false, []⟩

/-- `SetFloors`. -/
def Guard.setFloors (g : Guard) (minMB minPercent : Int64) : Guard :=
  { g with minBytes := minMB * 1024 * 1024, minPercent := minPercent }

/-- The verdict of `Check` on free and total bytes. -/
def Guard.low (g : Guard) (free total : Int64) : Bool :=
  (decide (g.minBytes > 0) && decide (free < g.minBytes)) ||
    (decide (g.minPercent > 0) && decide (total > 0) && decide (free * 100 / total < g.minPercent))

/-- `Check`, over what `statfs` answers, `none` where it fails. -/
def Guard.check (g : Guard) : Option (Int64 × Int64) → Guard
  | none => { g with log := g.log ++ [.probeFailed] }
  | some (free, total) =>
    let low := g.low free total
    let edges :=
      if low && !g.degraded then
        [.lowDegraded (free / (1024 * 1024)) (total / (1024 * 1024)) (g.minBytes / (1024 * 1024)) g.minPercent]
      else if !low && g.degraded then [.recovered (free / (1024 * 1024)) (total / (1024 * 1024))]
      else []
    { g with degraded := low, log := g.log ++ edges }

/-- `satInt64`. -/
def satInt64 (v : UInt64) : Int64 := if v > 9223372036854775807 then Int64.maxValue else v.toInt64

/-- `statfsReal`, over what the system call answers. -/
def statfsReal (bavail blocks bsize : UInt64) : Int64 × Int64 :=
  (satInt64 (bavail * bsize), satInt64 (blocks * bsize))

/-! ## Verdicts over the integers -/

/-- Free space is below a floor. -/
def Low (minMB minPercent free total : ℤ) : Prop :=
  (0 < minMB ∧ free < minMB * 2 ^ 20) ∨ (0 < minPercent ∧ 0 < total ∧ 100 * free < minPercent * total)

/-- What 64 bits keep of a number. -/
def kept (number : ℤ) : ℤ := number.bmod (2 ^ 64)

/-- The percentage floor is on, and what 64 bits keep of a hundred times the free space is
below it. -/
def PercentShort (minPercent free total : ℤ) : Prop :=
  0 < minPercent ∧ 0 < total ∧ kept (100 * free) < minPercent * total

/-- Free space is above both floors, but what is kept of it a hundred times is not. -/
def FalseAlarm (minMB minPercent free total : ℤ) : Prop :=
  ¬Low minMB minPercent free total ∧ 2 ^ 63 ≤ 100 * free ∧ PercentShort minPercent free total

/-- A floor from 2^43 MB on is past every disk, but what is kept of it is not. -/
def LostFloor (minMB minPercent free total : ℤ) : Prop :=
  2 ^ 43 ≤ minMB ∧ kept (minMB * 2 ^ 20) ≤ free ∧ ¬PercentShort minPercent free total

/-- What a probe reports of a size. -/
def reported (size : ℕ) : ℤ := min (size % 2 ^ 64 : ℕ) maxInt64

/-- The free space passes 2^64, and what is left of it is below the byte floor. -/
def BytesLost (minMB : ℤ) (free : ℕ) : Prop :=
  2 ^ 64 ≤ free ∧ (free % 2 ^ 64 : ℕ) < kept (minMB * 2 ^ 20)

/-- A size passes 2^64, or the reported free space passes 2^63 a hundred times, and what is
reported is below the percentage floor. -/
def PercentLost (minPercent : ℤ) (free total : ℕ) : Prop :=
  (2 ^ 64 ≤ free ∨ 2 ^ 64 ≤ total ∨ 2 ^ 63 ≤ 100 * reported free) ∧
    PercentShort minPercent (reported free) (reported total)

variable {g : Guard} {minMB minPercent free total : Int64}

/-- The floors a guard was last given. -/
structure Guard.Floors (g : Guard) (minMB minPercent : Int64) : Prop where
  minBytes : g.minBytes = minMB * 1024 * 1024
  minPercent : g.minPercent = minPercent

theorem floors_new (minMB minPercent : Int64) : (new minMB minPercent).Floors minMB minPercent := ⟨rfl, rfl⟩

theorem floors_setFloors (g : Guard) (minMB minPercent : Int64) :
    (g.setFloors minMB minPercent).Floors minMB minPercent := ⟨rfl, rfl⟩

theorem Guard.Floors.check (floors : g.Floors minMB minPercent) (probe : Option (Int64 × Int64)) :
    (g.check probe).Floors minMB minPercent := by
  cases probe with
  | none => exact ⟨floors.minBytes, floors.minPercent⟩
  | some sizes => exact ⟨floors.minBytes, floors.minPercent⟩

/-! ## What the arithmetic does -/

theorem kept_of_fits {number : ℤ} (low : -2 ^ 63 ≤ number) (high : number < 2 ^ 63) : kept number = number := by
  rw [kept, Int.bmod_eq_of_le] <;> omega

theorem kept_range (number : ℤ) : -2 ^ 63 ≤ kept number ∧ kept number < 2 ^ 63 := by
  unfold kept
  rw [Int.bmod_def]
  split <;> omega

/-- A number that does not fit only loses. -/
theorem kept_le {number : ℤ} (nonneg : 0 ≤ number) : kept number ≤ number := by
  unfold kept
  rw [Int.bmod_def]
  split <;> omega

/-- The quotient of `Check` is below the floor where the product is below its share. -/
theorem tdiv_lt_iff {number total floor : ℤ} (some_ : 0 < total) (armed : 0 < floor) :
    number.tdiv total < floor ↔ number < floor * total := by
  by_cases nonneg : 0 ≤ number
  · rw [Int.tdiv_eq_ediv_of_nonneg nonneg, Int.ediv_lt_iff_lt_mul some_]
  · have share : 0 < floor * total := Int.mul_pos armed some_
    have quotient : number.tdiv total ≤ 0 := by
      rw [← Int.neg_nonneg, ← Int.neg_tdiv]
      exact Int.tdiv_nonneg (by omega) (by omega)
    constructor <;> omega

theorem toInt_mebibytes (minMB : Int64) : (minMB * 1024 * 1024).toInt = kept (minMB.toInt * 2 ^ 20) := by
  rw [Int64.toInt_mul, Int64.toInt_mul, Int.bmod_mul_bmod, kept, Int.mul_assoc]
  rfl

theorem toInt_percent {free total : Int64} (some_ : 0 < total.toInt) :
    (free * 100 / total).toInt = (kept (100 * free.toInt)).tdiv total.toInt := by
  rw [Int64.toInt_div_of_ne_right, Int64.toInt_mul, Int.mul_comm]
  · rfl
  · rintro rfl
    cases some_

/-- The verdict of a check, over the integers. -/
theorem low_iff (floors : g.Floors minMB minPercent) (nonneg : 0 ≤ free.toInt) :
    g.low free total = true ↔ free.toInt < kept (minMB.toInt * 2 ^ 20) ∨
      PercentShort minPercent.toInt free.toInt total.toInt := by
  unfold Guard.low PercentShort
  rw [floors.minBytes, floors.minPercent]
  simp only [Bool.or_eq_true, Bool.and_eq_true, decide_eq_true_eq, gt_iff_lt, ← toInt_pos, and_assoc]
  rw [Int64.lt_iff_toInt_lt, Int64.lt_iff_toInt_lt, toInt_mebibytes]
  apply or_congr
  · constructor
    · exact fun short => short.2
    · exact fun short => ⟨by omega, short⟩
  · refine and_congr_right fun armed => and_congr_right fun some_ => ?_
    rw [toInt_percent some_, tdiv_lt_iff some_ armed]

/-- A byte floor that is met is not lost, and one that is not met is unless it is kept. -/
theorem bytes_iff {minMB free : ℤ} (floor : 0 ≤ minMB) (nonneg : 0 ≤ free) (small : free ≤ maxInt64) :
    (0 < minMB ∧ free < minMB * 2 ^ 20) ↔
      free < kept (minMB * 2 ^ 20) ∨ (2 ^ 43 ≤ minMB ∧ kept (minMB * 2 ^ 20) ≤ free) := by
  unfold maxInt64 at small
  by_cases fits : minMB < 2 ^ 43
  · rw [kept_of_fits (by omega) (by omega)]
    omega
  · have only : kept (minMB * 2 ^ 20) ≤ minMB * 2 ^ 20 := kept_le (by omega)
    omega

/-! ## One probe -/

/-- Free space that is below the percentage stays below it. -/
theorem percentShort_of_below {minPercent free total : ℤ} (nonneg : 0 ≤ free)
    (below : 0 < minPercent ∧ 0 < total ∧ 100 * free < minPercent * total) : PercentShort minPercent free total :=
  ⟨below.1, below.2.1, lt_of_le_of_lt (kept_le (by omega)) below.2.2⟩

/-- A percentage that nothing is lost of is exact. -/
theorem below_of_percentShort {minPercent free total : ℤ} (nonneg : 0 ≤ free) (fits : 100 * free < 2 ^ 63)
    (short : PercentShort minPercent free total) :
    0 < minPercent ∧ 0 < total ∧ 100 * free < minPercent * total := by
  obtain ⟨armed, some_, lost⟩ := short
  rw [kept_of_fits (by omega) fits] at lost
  exact ⟨armed, some_, lost⟩

private theorem verdicts_agree_iff {met past below short fits : Prop} (onward : below → short)
    (back : fits → short → below) :
    (met ∨ short ↔ (met ∨ past ∧ ¬met) ∨ below) ↔
      ¬(¬((met ∨ past ∧ ¬met) ∨ below) ∧ ¬fits ∧ short) ∧ ¬(past ∧ ¬met ∧ ¬short) := by
  by_cases met
  · simp_all
  · by_cases short
    · by_cases below <;> simp_all
    · have : ¬below := fun below => absurd (onward below) ‹_›
      simp_all

/-- On sizes a probe can report, a check errs by a false alarm or a lost floor. -/
theorem low_exact_iff (floors : g.Floors minMB minPercent) (floor : 0 ≤ minMB.toInt) (nonneg : 0 ≤ free.toInt) :
    (g.low free total = true ↔ Low minMB.toInt minPercent.toInt free.toInt total.toInt) ↔
      ¬FalseAlarm minMB.toInt minPercent.toInt free.toInt total.toInt ∧
        ¬LostFloor minMB.toInt minPercent.toInt free.toInt total.toInt := by
  have bytes := bytes_iff floor nonneg (toInt_le_maxInt64 free)
  have onward := @percentShort_of_below minPercent.toInt free.toInt total.toInt nonneg
  have back := @below_of_percentShort minPercent.toInt free.toInt total.toInt nonneg
  rw [low_iff floors nonneg]
  unfold FalseAlarm LostFloor Low
  rw [bytes]
  rw [← Int.not_lt (a := 100 * free.toInt), ← Int.not_lt (a := free.toInt)]
  exact verdicts_agree_iff onward back

/-! ## Sizes of a disk -/

theorem toInt_satInt64 (v : UInt64) : (satInt64 v).toInt = min (v.toNat : ℤ) maxInt64 := by
  have bound := v.toNat_lt
  unfold satInt64
  split
  · rename_i past
    have past' := UInt64.lt_iff_toNat_lt.mp past
    change 9223372036854775807 < v.toNat at past'
    rw [maxValue_toInt, maxInt64]
    omega
  · rename_i fits
    have fits' := fun past => fits (UInt64.lt_iff_toNat_lt.mpr past)
    change ¬9223372036854775807 < v.toNat at fits'
    rw [← Int64.toInt_toBitVec, UInt64.toBitVec_toInt64, BitVec.toInt_eq_toNat_bmod, UInt64.toNat_toBitVec,
      Int.bmod_eq_of_le (by omega) (by omega), maxInt64]
    omega

theorem statfsReal_reported (bavail blocks bsize : UInt64) :
    (statfsReal bavail blocks bsize).1.toInt = reported (bavail.toNat * bsize.toNat) ∧
      (statfsReal bavail blocks bsize).2.toInt = reported (blocks.toNat * bsize.toNat) :=
  ⟨(toInt_satInt64 _).trans (by rw [UInt64.toNat_mul]; rfl), (toInt_satInt64 _).trans (by rw [UInt64.toNat_mul]; rfl)⟩

theorem reported_nonneg (size : ℕ) : 0 ≤ reported size := by
  unfold reported maxInt64
  omega

/-- What 64 bits do not hold of a size is past every floor they hold. -/
theorem bytesLost_iff {minMB minPercent total : ℤ} {free : ℕ} (floor : 0 ≤ minMB)
    (healthy : ¬Low minMB minPercent free total) :
    reported free < kept (minMB * 2 ^ 20) ↔ BytesLost minMB free := by
  have range := kept_range (minMB * 2 ^ 20)
  have only : kept (minMB * 2 ^ 20) ≤ minMB * 2 ^ 20 := kept_le (by omega)
  unfold reported BytesLost maxInt64
  constructor
  · intro short
    refine ⟨?_, by omega⟩
    by_contra fits
    exact healthy (.inl ⟨by omega, by omega⟩)
  · rintro ⟨_, short⟩
    omega

theorem percentLost_iff {minMB minPercent : ℤ} {free total : ℕ} (healthy : ¬Low minMB minPercent free total) :
    PercentShort minPercent (reported free) (reported total) ↔ PercentLost minPercent free total := by
  constructor
  · intro short
    refine ⟨?_, short⟩
    by_contra fits
    simp only [not_or, not_le] at fits
    obtain ⟨freeFits, totalFits, percentFits⟩ := fits
    obtain ⟨armed, some_, below⟩ := below_of_percentShort (reported_nonneg free) percentFits short
    have whole : reported free = free := by
      unfold reported maxInt64 at percentFits ⊢
      omega
    have part : reported total ≤ total := by
      unfold reported
      omega
    have share := Int.mul_le_mul_of_nonneg_left part armed.le
    rw [whole] at below
    exact healthy (.inr ⟨armed, by omega, by omega⟩)
  · exact fun lost => lost.2

/-- A healthy disk stays healthy unless what is lost of its sizes is what kept it so. -/
theorem healthy_iff (floors : g.Floors minMB minPercent) (floor : 0 ≤ minMB.toInt) (bavail blocks bsize : UInt64) :
    (¬Low minMB.toInt minPercent.toInt (bavail.toNat * bsize.toNat : ℕ) (blocks.toNat * bsize.toNat : ℕ) →
        g.low (statfsReal bavail blocks bsize).1 (statfsReal bavail blocks bsize).2 = false) ↔
      Low minMB.toInt minPercent.toInt (bavail.toNat * bsize.toNat : ℕ) (blocks.toNat * bsize.toNat : ℕ) ∨
        (¬BytesLost minMB.toInt (bavail.toNat * bsize.toNat) ∧
          ¬PercentLost minPercent.toInt (bavail.toNat * bsize.toNat) (blocks.toNat * bsize.toNat)) := by
  obtain ⟨free, total⟩ := statfsReal_reported bavail blocks bsize
  have verdict := @low_iff _ _ _ _ (statfsReal bavail blocks bsize).2 floors
    (free ▸ reported_nonneg _ : 0 ≤ (statfsReal bavail blocks bsize).1.toInt)
  rw [free, total] at verdict
  by_cases healthy :
      Low minMB.toInt minPercent.toInt (bavail.toNat * bsize.toNat : ℕ) (blocks.toNat * bsize.toNat : ℕ)
  · simp only [healthy, not_true, false_implies, true_or]
  · rw [bytesLost_iff floor healthy, percentLost_iff healthy] at verdict
    simp only [healthy, not_false_eq_true, true_implies, false_or]
    rw [← Bool.not_eq_true, verdict, not_or]

/-! ## Checks -/

/-- A check is exact unless a product leaves 64 bits and comes back on the other side of its
floor, and a failed probe changes nothing. -/
theorem check_exact_iff (floors : g.Floors minMB minPercent) (floor : 0 ≤ minMB.toInt) :
    (∀ free total : Int64, 0 ≤ free.toInt → free.toInt ≤ total.toInt →
      (((g.check (some (free, total))).degraded = true ↔
          Low minMB.toInt minPercent.toInt free.toInt total.toInt) ↔
        ¬FalseAlarm minMB.toInt minPercent.toInt free.toInt total.toInt ∧
          ¬LostFloor minMB.toInt minPercent.toInt free.toInt total.toInt)) ∧
    (g.check none).degraded = g.degraded ∧
    ∀ bavail blocks bsize : UInt64,
      ((¬Low minMB.toInt minPercent.toInt (bavail.toNat * bsize.toNat : ℕ) (blocks.toNat * bsize.toNat : ℕ) →
          (g.check (some (statfsReal bavail blocks bsize))).degraded = false) ↔
        Low minMB.toInt minPercent.toInt (bavail.toNat * bsize.toNat : ℕ) (blocks.toNat * bsize.toNat : ℕ) ∨
          (¬BytesLost minMB.toInt (bavail.toNat * bsize.toNat) ∧
            ¬PercentLost minPercent.toInt (bavail.toNat * bsize.toNat) (blocks.toNat * bsize.toNat))) :=
  ⟨fun _ _ nonneg _ => low_exact_iff floors floor nonneg, rfl, healthy_iff floors floor⟩

/-- Half of two tebibytes is neither a false alarm nor a lost floor. -/
theorem check_exact_iff_half :
    ((new 500 5).check (some (1099511627776, 2199023255552))).degraded = true ↔
      Low 500 5 1099511627776 2199023255552 := by
  refine ((check_exact_iff (floors_new 500 5) (by decide)).1 1099511627776 2199023255552 (by decide)
    (by decide)).mpr ⟨?_, ?_⟩
  · rintro ⟨_, past, _⟩
    exact absurd past (by decide)
  · rintro ⟨past, _⟩
    exact absurd past (by decide)

/-- A disk of the largest size is all free, and sheds; so does one of 2^64 free bytes. -/
theorem free_disk_degraded :
    (((new 500 5).check (some (Int64.maxValue, Int64.maxValue))).degraded = true ∧
        ¬Low 500 5 maxInt64 maxInt64) ∧
      ((new 500 0).check (some (statfsReal 4503599627370496 4503599627370496 4096))).degraded = true ∧
        ¬Low 500 0 (4503599627370496 * 4096) (4503599627370496 * 4096) := by
  refine ⟨⟨by decide, ?_⟩, by decide, ?_⟩
  · unfold Low maxInt64
    omega
  · unfold Low
    omega

end AnselmGateway.DiskGuard
