import Mathlib.Algebra.Order.Ring.Rat
import Mathlib.Tactic.Linarith
import KeyPrecedence.Number.Basic

/-!
# Comparing numbers

* `Number.finite_lt_finite`, `Number.finite_le_finite`: finite numbers compare by their values;
* `Number.le_trans`, `Number.lt_iff_not_le`: whatever has a value is in one linear order.
-/

namespace KeyPrecedence.Number

variable {a b c : Number}

@[simp]
theorem finite_lt_finite (a b : Rat) : (finite a).lt (finite b) = decide (a < b) := rfl

@[simp]
theorem finite_le_finite (a b : Rat) : (finite a).le (finite b) = decide (a ≤ b) := by
  have equal : (finite a == finite b) = decide (a = b) := by
    rw [Bool.eq_iff_iff]
    simp
  have value : (finite a != nan) = true := rfl
  simp only [le, finite_lt_finite, equal, value, Bool.and_true]
  rw [Bool.eq_iff_iff]
  simp [le_iff_lt_or_eq]

theorem le_refl (h : a ≠ nan) : a.le a := by
  cases a with
  | finite value => simp
  | nan => exact absurd rfl h
  | infinite negative => cases negative <;> rfl

theorem ne_nan_of_le (h : a.le b) : a ≠ nan ∧ b ≠ nan := by
  constructor
  · rintro rfl
    cases b <;> simp [le, lt] at h
  · rintro rfl
    cases a <;> simp [le, lt] at h

theorem le_of_infinite_le (h : (infinite false).le a) : a = infinite false := by
  cases a with
  | finite value => simp [le, lt] at h
  | nan => simp [le, lt] at h
  | infinite negative => cases negative <;> simp [le, lt] at h ⊢

theorem minus_infinite_le (h : a ≠ nan) : (infinite true).le a := by
  cases a with
  | finite value => rfl
  | nan => exact absurd rfl h
  | infinite negative => cases negative <;> rfl

theorem le_trans (hab : a.le b) (hbc : b.le c) : a.le c := by
  obtain ⟨ha, hb⟩ := ne_nan_of_le hab
  obtain ⟨-, hc⟩ := ne_nan_of_le hbc
  cases a with
  | nan => exact absurd rfl ha
  | infinite negative =>
    cases negative with
    | true => exact minus_infinite_le hc
    | false =>
      rw [le_of_infinite_le hab] at hbc
      exact hbc
  | finite a =>
    cases c with
    | nan => exact absurd rfl hc
    | infinite negative =>
      cases negative with
      | false => rfl
      | true => cases b <;> simp_all [le, lt]
    | finite c =>
      cases b with
      | nan => exact absurd rfl hb
      | infinite negative => cases negative <;> simp [le, lt] at hab hbc
      | finite b =>
        simp only [finite_le_finite, decide_eq_true_eq] at hab hbc ⊢
        linarith

theorem le_of_lt (h : a.lt b) : a.le b := by
  simp [le, h]

theorem lt_iff_not_le (ha : a ≠ nan) (hb : b ≠ nan) : a.lt b ↔ ¬ b.le a := by
  cases a with
  | nan => exact absurd rfl ha
  | finite a =>
    cases b with
    | nan => exact absurd rfl hb
    | finite b => simp
    | infinite negative => cases negative <;> simp [le, lt]
  | infinite negative =>
    cases b with
    | nan => exact absurd rfl hb
    | finite b => cases negative <;> simp [le, lt]
    | infinite other => cases negative <;> cases other <;> simp [le, lt]

end KeyPrecedence.Number
