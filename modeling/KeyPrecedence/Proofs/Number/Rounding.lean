import Mathlib.Data.Int.Log
import Mathlib.Data.Rat.Floor
import Mathlib.Tactic.Linarith
import Mathlib.Tactic.Positivity
import Mathlib.Tactic.FieldSimp
import KeyPrecedence.Number.Rounding
import KeyPrecedence.Proofs.Number.Order

/-!
# Adding times

* `Number.binaryExponent_eq_log`: the binary exponent is what it says it is;
* `Number.OnGrid`: the positive doubles, as whole numbers of steps;
* `Number.le_rounded`: nothing is rounded below a double that it is not below;
* `Number.IsTime.later`: a time later is a time, and does not lie before;
* `Number.add_ofNat`, `Number.foldl_add_ofNat`: whole ms are added exactly.
-/

namespace KeyPrecedence.Number

/-! ## Whole numbers -/

section
variable {q : Rat} {k : Int}

theorem floor_le_nearestWhole (q : Rat) : ⌊q⌋ ≤ nearestWhole q := by
  have whole : q.floor = ⌊q⌋ := rfl
  unfold nearestWhole
  simp only [whole]
  split_ifs <;> omega

theorem le_nearestWhole (h : (k : Rat) ≤ q) : k ≤ nearestWhole q :=
  (Int.le_floor.mpr h).trans (floor_le_nearestWhole q)

theorem nearestWhole_le (h : q ≤ k) : nearestWhole q ≤ k := by
  have whole : q.floor = ⌊q⌋ := rfl
  have below : ⌊q⌋ ≤ k := Int.floor_le_iff.mpr (by linarith)
  by_cases exact : ⌊q⌋ = k
  · -- Then `q` is whole itself, and nearest to itself.
    have same : q = k := le_antisymm h (exact ▸ Int.floor_le q)
    have left : q - (⌊q⌋ : Rat) < ((⌊q⌋ + 1 : Int) : Rat) - q := by
      rw [exact, same]
      push_cast
      linarith
    unfold nearestWhole
    simp only [whole, left, if_true]
    exact below
  · unfold nearestWhole
    simp only [whole]
    split_ifs <;> omega

theorem nearestWhole_intCast (k : Int) : nearestWhole k = k :=
  le_antisymm (nearestWhole_le le_rfl) (le_nearestWhole le_rfl)

end

/-! ## Doubles -/

theorem pow2_pos (e : Int) : 0 < pow2 e := zpow_pos two_pos e

theorem pow2_add (a b : Int) : pow2 (a + b) = pow2 a * pow2 b := zpow_add₀ two_ne_zero a b

theorem pow2_le_pow2 {a b : Int} (h : a ≤ b) : pow2 a ≤ pow2 b := zpow_le_zpow_right₀ one_le_two h

variable {q t : Rat}

theorem pow2_log2_le {n : Nat} (h : n ≠ 0) : pow2 n.log2 ≤ n := by
  rw [pow2, zpow_natCast]
  exact_mod_cast Nat.log2_self_le h

theorem lt_pow2_log2 (n : Nat) : (n : Rat) < pow2 (n.log2 + 1) := by
  rw [pow2, ← Nat.cast_succ, zpow_natCast]
  exact_mod_cast Nat.lt_log2_self

/-- The first guess is from the lengths of numerator and denominator, and at most one too large. -/
theorem binaryExponent_eq_log (h : 0 < q) : binaryExponent q = Int.log 2 q := by
  let n : Nat := q.num.toNat
  let guess : Int := n.log2 - q.den.log2
  have positive : 0 < q.num := Rat.num_pos.mpr h
  have denPos : (0 : Rat) < q.den := by exact_mod_cast q.pos
  have ratio : q = n / q.den := by
    have numerator : ((n : Int) : Rat) = q.num := congrArg _ (Int.toNat_of_nonneg positive.le)
    rw [← Int.cast_natCast, numerator, Rat.num_div_den]
  have above : q < pow2 (guess + 1) := by
    rw [ratio, div_lt_iff₀ denPos]
    calc (n : Rat) < pow2 (n.log2 + 1) := lt_pow2_log2 n
      _ = pow2 (guess + 1) * pow2 q.den.log2 := by rw [← pow2_add]; congr 1; omega
      _ ≤ pow2 (guess + 1) * q.den :=
          mul_le_mul_of_nonneg_left (pow2_log2_le q.den_nz) (pow2_pos _).le
  have below : pow2 (guess - 1) ≤ q := by
    rw [ratio, le_div_iff₀ denPos]
    calc pow2 (guess - 1) * q.den ≤ pow2 (guess - 1) * pow2 (q.den.log2 + 1) :=
          mul_le_mul_of_nonneg_left (lt_pow2_log2 q.den).le (pow2_pos _).le
      _ = pow2 n.log2 := by rw [← pow2_add]; congr 1; omega
      _ ≤ n := pow2_log2_le (by omega)
  have between {e : Int} (least : pow2 e ≤ q) (most : q < pow2 (e + 1)) : e = Int.log 2 q := by
    have lower := (Int.zpow_le_iff_le_log Nat.one_lt_two h).mp least
    have upper := (Int.lt_zpow_iff_log_lt Nat.one_lt_two h).mp most
    omega
  show (if pow2 guess ≤ q then guess else guess - 1) = Int.log 2 q
  by_cases fits : pow2 guess ≤ q
  · rw [if_pos fits]
    exact between fits above
  · rw [if_neg fits]
    refine between below ?_
    rw [Int.sub_add_cancel]
    exact not_le.mp fits

theorem pow2_binaryExponent_le (h : 0 < q) : pow2 (binaryExponent q) ≤ q := by
  rw [binaryExponent_eq_log h]
  exact Int.zpow_log_le_self Nat.one_lt_two h

theorem lt_pow2_binaryExponent (h : 0 < q) : q < pow2 (binaryExponent q + 1) := by
  rw [binaryExponent_eq_log h]
  exact Int.lt_zpow_succ_log_self Nat.one_lt_two q

theorem stepExponent_mono (h : 0 < t) (hq : t ≤ q) : stepExponent t ≤ stepExponent q := by
  have exponents : binaryExponent t ≤ binaryExponent q := by
    rw [binaryExponent_eq_log h, binaryExponent_eq_log (h.trans_le hq)]
    exact Int.log_mono_right h hq
  unfold stepExponent
  omega

theorem whole_mul_pow2 (n : Nat) (e : Int) : ((2 ^ n : Int) : Rat) * pow2 e = pow2 (e + n) := by
  rw [add_comm e, pow2_add, pow2, pow2, zpow_natCast]
  push_cast
  rfl

/-- The positive doubles: whole numbers of the steps of their size. -/
def OnGrid (t : Rat) : Prop := ∃ k : Int, t = k * pow2 (stepExponent t)

/-- Steps get longer, so a number on a grid of longer steps is on its own. -/
theorem onGrid_of_le {k e : Int} (h : stepExponent (k * pow2 e) ≤ e) : OnGrid (k * pow2 e) := by
  let own : Int := stepExponent (k * pow2 e)
  obtain ⟨n, hn⟩ := Int.eq_ofNat_of_zero_le (Int.sub_nonneg.mpr h)
  refine ⟨k * 2 ^ n, ?_⟩
  have split : pow2 e = pow2 n * pow2 own := by
    rw [← pow2_add]
    congr 1
    omega
  calc (k : Rat) * pow2 e = k * (pow2 n * pow2 own) := by rw [split]
    _ = ((k * 2 ^ n : Int) : Rat) * pow2 own := by
      rw [pow2, zpow_natCast]
      push_cast
      ring

/-- What is rounded lies on a grid that has the first digit of its mantissa at the 53rd place, or
further right. -/
theorem lt_pow2_stepExponent (h : 0 < q) : q < pow2 (stepExponent q + 53) := by
  refine (lt_pow2_binaryExponent h).trans_le (pow2_le_pow2 ?_)
  unfold stepExponent mantissaBits
  omega

/-- The nearest double, before it is tested whether it is too large. -/
def rounded (q : Rat) : Rat := nearestWhole (q / pow2 (stepExponent q)) * pow2 (stepExponent q)

theorem roundPositive_eq (q : Rat) :
    roundPositive q = if doubleBound ≤ rounded q then infinite false else finite (rounded q) := rfl

theorem le_rounded_of_whole {k : Int} (h : k * pow2 (stepExponent q) ≤ q) :
    k * pow2 (stepExponent q) ≤ rounded q := by
  have whole := le_nearestWhole ((le_div_iff₀ (pow2_pos (stepExponent q))).mpr h)
  exact mul_le_mul_of_nonneg_right (by exact_mod_cast whole) (pow2_pos _).le

theorem rounded_le_of_whole {k : Int} (h : q ≤ k * pow2 (stepExponent q)) :
    rounded q ≤ k * pow2 (stepExponent q) := by
  have whole := nearestWhole_le ((div_le_iff₀ (pow2_pos (stepExponent q))).mpr h)
  exact mul_le_mul_of_nonneg_right (by exact_mod_cast whole) (pow2_pos _).le

/-- Nothing is rounded below a double that it is not below. -/
theorem le_rounded (pos : 0 < t) (grid : OnGrid t) (h : t ≤ q) : t ≤ rounded q := by
  have steps := stepExponent_mono pos h
  obtain ⟨k, hk⟩ := grid
  by_cases same : stepExponent t = stepExponent q
  · rw [same] at hk
    rw [hk] at h ⊢
    exact le_rounded_of_whole h
  · -- A power of two lies between the two, and what is rounded is not below that.
    have below : t ≤ pow2 (stepExponent q + 52) := by
      refine (lt_pow2_stepExponent pos).le.trans (pow2_le_pow2 ?_)
      omega
    have normal : stepExponent q + 52 = binaryExponent q := by
      unfold stepExponent mantissaBits at steps same ⊢
      omega
    have reached : ((2 ^ 52 : Int) : Rat) * pow2 (stepExponent q) ≤ q := by
      rw [whole_mul_pow2]
      exact (congrArg pow2 normal).trans_le (pow2_binaryExponent_le (pos.trans_le h))
    have kept := le_rounded_of_whole reached
    rw [whole_mul_pow2] at kept
    exact below.trans kept

/-- What is rounded is a double. -/
theorem onGrid_rounded (pos : 0 < q) (h : 0 < rounded q) : OnGrid (rounded q) := by
  by_cases longer : stepExponent (rounded q) ≤ stepExponent q
  · exact onGrid_of_le longer
  · -- It was rounded up to a power of two, from where on steps are longer.
    have most : rounded q ≤ pow2 (stepExponent q + 53) := by
      have whole : q ≤ ((2 ^ 53 : Int) : Rat) * pow2 (stepExponent q) := by
        rw [whole_mul_pow2]
        exact (lt_pow2_stepExponent pos).le
      exact (rounded_le_of_whole whole).trans_eq (whole_mul_pow2 53 _)
    have normal : stepExponent (rounded q) + 52 = binaryExponent (rounded q) := by
      unfold stepExponent mantissaBits at longer ⊢
      omega
    have least : pow2 (stepExponent (rounded q) + 52) ≤ rounded q :=
      (congrArg pow2 normal).trans_le (pow2_binaryExponent_le h)
    have next : stepExponent (rounded q) = stepExponent q + 1 := by
      have exponents := (zpow_le_zpow_iff_right₀ one_lt_two).mp (least.trans most)
      omega
    have power : rounded q = pow2 (stepExponent (rounded q) + 52) := by
      refine le_antisymm (most.trans_eq (congrArg pow2 ?_)) least
      omega
    exact ⟨2 ^ 52, power.trans (whole_mul_pow2 52 _).symm⟩

/-- A double is its own rounding. -/
theorem rounded_of_onGrid (grid : OnGrid t) : rounded t = t := by
  obtain ⟨k, hk⟩ := grid
  have whole : t / pow2 (stepExponent t) = k := (div_eq_iff (pow2_pos _).ne').mpr hk
  rw [rounded, whole, nearestWhole_intCast]
  exact hk.symm

theorem rounded_nonneg (h : 0 ≤ q) : 0 ≤ rounded q := by
  have zero : ((0 : Int) : Rat) * pow2 (stepExponent q) ≤ q := by simpa using h
  simpa using le_rounded_of_whole zero

/-- Whole numbers of ms, up to 285 thousand years, are doubles. -/
theorem onGrid_natCast {n : Nat} (pos : 0 < n) (small : n < 2 ^ 53) : OnGrid n := by
  have exponent : binaryExponent n ≤ 52 := by
    have least : pow2 (binaryExponent n) ≤ n := pow2_binaryExponent_le (by exact_mod_cast pos)
    have most : (n : Rat) < pow2 53 := by
      rw [pow2]
      exact_mod_cast small
    have exponents := (zpow_lt_zpow_iff_right₀ one_lt_two).mp (least.trans_lt most)
    omega
  have unit : (n : Rat) = ((n : Int) : Rat) * pow2 0 := by simp [pow2]
  have steps : stepExponent (((n : Int) : Rat) * pow2 0) ≤ 0 := by
    rw [← unit]
    unfold stepExponent mantissaBits leastExponent
    omega
  rw [unit]
  exact onGrid_of_le steps

/-! ## Times -/

/-- What a clock may show that started at zero and never goes back: a double that is not negative,
or, after all of them, an infinite time. -/
def IsTime : Number → Prop
  | finite t => t = 0 ∨ 0 < t ∧ OnGrid t
  | nan => False
  | infinite negative => negative = false

theorem IsTime.ne_nan {t : Number} (h : t.IsTime) : t ≠ nan := by
  rintro rfl
  exact h

theorem isTime_zero : (ofNat 0).IsTime := .inl rfl

theorem round_eq (h : 0 < q) : round q = roundPositive q := by
  rw [round, if_neg h.ne', if_neg h.not_gt]

theorem isTime_round (h : 0 ≤ q) : (round q).IsTime := by
  obtain rfl | pos := h.eq_or_lt
  · exact .inl rfl
  · rw [round_eq pos, roundPositive_eq]
    split
    · rfl
    · obtain zero | above := (rounded_nonneg h).eq_or_lt
      · exact .inl zero.symm
      · exact .inr ⟨above, onGrid_rounded pos above⟩

theorem le_round {t : Rat} (time : (finite t).IsTime) (h : t ≤ q) : (finite t).le (round q) := by
  obtain rfl | ⟨pos, grid⟩ := time
  · obtain rfl | above := h.eq_or_lt
    · rfl
    · rw [round_eq above, roundPositive_eq]
      split
      · rfl
      · simpa using rounded_nonneg h
  · rw [round_eq (pos.trans_le h), roundPositive_eq]
    split
    · rfl
    · simpa using le_rounded pos grid h

theorem nonneg_of_isTime {t : Rat} (time : (finite t).IsTime) : 0 ≤ t := by
  obtain rfl | ⟨pos, -⟩ := time
  · exact le_rfl
  · exact pos.le

variable {t ms : Number}

/-- A time later is a time, and does not lie before. -/
theorem IsTime.later (time : t.IsTime) (passed : (ofNat 0).le ms) :
    (t.add ms).IsTime ∧ t.le (t.add ms) := by
  cases ms with
  | nan => cases passed
  | infinite negative =>
    cases negative with
    | true => cases passed
    | false =>
      cases t with
      | nan => exact time.elim
      | infinite negative =>
        cases time
        exact ⟨rfl, rfl⟩
      | finite t => exact ⟨rfl, rfl⟩
  | finite ms =>
    cases t with
    | nan => exact time.elim
    | infinite negative =>
      cases time
      exact ⟨rfl, rfl⟩
    | finite t =>
      have later : (0 : Rat) ≤ ms := by simpa [ofNat] using passed
      have sum : 0 ≤ t + ms := add_nonneg (nonneg_of_isTime time) later
      exact ⟨isTime_round sum, le_round time (le_add_of_nonneg_right later)⟩

theorem passed_ofNat (n : Nat) : (ofNat 0).le (ofNat n) := by
  simp [ofNat]

/-- Whole ms are added exactly. -/
theorem add_ofNat {a b : Nat} (small : a + b < 2 ^ 53) : (ofNat a).add (ofNat b) = ofNat (a + b) := by
  show round (a + b) = finite ((a + b : Nat) : Rat)
  rw [← Nat.cast_add]
  obtain zero | pos := Nat.eq_zero_or_pos (a + b)
  · rw [zero]
    rfl
  · have grid := onGrid_natCast pos small
    have bounded : ((a + b : Nat) : Rat) < doubleBound := by
      have most : ((a + b : Nat) : Rat) < pow2 53 := by
        rw [pow2]
        exact_mod_cast small
      exact most.trans_le (pow2_le_pow2 (by decide))
    rw [round_eq (by exact_mod_cast pos), roundPositive_eq, rounded_of_onGrid grid,
      if_neg bounded.not_ge]

/-- Whole ms add up to the same time, however they are divided. -/
theorem foldl_add_ofNat {time : Nat} {waits : List Nat} (small : time + waits.sum < 2 ^ 53) :
    waits.foldl (fun now ms => now.add (ofNat ms)) (ofNat time) = ofNat (time + waits.sum) := by
  induction waits generalizing time with
  | nil => rfl
  | cons first rest ih =>
    rw [List.sum_cons, ← Nat.add_assoc] at small ⊢
    rw [List.foldl_cons, add_ofNat (Nat.lt_of_le_of_lt (Nat.le_add_right _ _) small)]
    exact ih small

end KeyPrecedence.Number
