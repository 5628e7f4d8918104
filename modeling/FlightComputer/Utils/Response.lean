import Mathlib.Algebra.Order.Field.Basic
import Mathlib.Order.Monotone.Basic
import Mathlib.Tactic.Linarith
import Mathlib.Tactic.Ring

/-!
# Odd responses

A control law that treats both directions alike is given by its response to the size of a
correction. A `Response` is never negative and does not fall with the size. With a dead band
and the sign restored (`signed`), it is an odd and monotone function of the correction.

Two readings can be compared by their order, or by being mirror images of each other. Sums and
odd, monotone functions keep both, and `Comparison` says no more than that.
-/

namespace FlightComputer

variable {K : Type*} [Field K] [LinearOrder K]

/-- A response to sizes. -/
structure Response (g : K → K) : Prop where
  nonneg : ∀ {x}, 0 ≤ x → 0 ≤ g x
  mono : ∀ {x y}, 0 ≤ x → x ≤ y → g x ≤ g y

/-- The response `g` outside a dead band, in the direction of the correction. -/
def signed (band : K) (g : K → K) (c : K) : K :=
  if |c| < band then 0 else if c < 0 then -g |c| else g |c|

variable [IsStrictOrderedRing K] {f g : K → K}

namespace Response

/-- Responses can be combined with weights. -/
theorem blend (hf : Response f) (hg : Response g) {w : K} (h0 : 0 ≤ w) (h1 : w ≤ 1) :
    Response fun x => f x + (g x - f x) * w := by
  have hsplit : ∀ x, f x + (g x - f x) * w = (1 - w) * f x + w * g x := fun x => by ring
  have h1' : 0 ≤ 1 - w := by linarith
  refine ⟨fun {x} hx => ?_, fun {x y} hx hxy => ?_⟩
  · rw [hsplit]
    exact add_nonneg (mul_nonneg h1' (hf.nonneg hx)) (mul_nonneg h0 (hg.nonneg hx))
  · rw [hsplit, hsplit]
    exact add_le_add (mul_le_mul_of_nonneg_left (hf.mono hx hxy) h1')
      (mul_le_mul_of_nonneg_left (hg.mono hx hxy) h0)

/-- The size may be measured in another unit. -/
theorem scale (hg : Response g) {a : K} (ha : 0 ≤ a) : Response fun x => g (x * a) :=
  ⟨fun hx => hg.nonneg (mul_nonneg hx ha), fun hx hxy =>
    hg.mono (mul_nonneg hx ha) (mul_le_mul_of_nonneg_right hxy ha)⟩

/-- Proportional to the size. -/
theorem proportional {a : K} (ha : 0 ≤ a) : Response fun x => x * a :=
  ⟨fun hx => mul_nonneg hx ha, fun _ hxy => mul_le_mul_of_nonneg_right hxy ha⟩

/-! ## With the sign restored -/

theorem signed_nonneg (hg : Response g) (band : K) {c : K} (hc : 0 ≤ c) : 0 ≤ signed band g c := by
  unfold signed
  rw [if_neg (not_lt.mpr hc)]
  split_ifs
  · exact le_refl 0
  · exact hg.nonneg (abs_nonneg c)

theorem signed_neg {band : K} (hband : 0 < band) (g : K → K) (c : K) :
    signed band g (-c) = -signed band g c := by
  unfold signed
  rw [abs_neg]
  by_cases hin : |c| < band
  · rw [if_pos hin, if_pos hin, neg_zero]
  · rw [if_neg hin, if_neg hin]
    have hne : c ≠ 0 := by
      rintro rfl
      exact hin (by rwa [abs_zero])
    rcases lt_or_gt_of_ne hne with hneg | hpos
    · rw [if_neg (by linarith), if_pos hneg, neg_neg]
    · rw [if_pos (by linarith), if_neg (by linarith)]

theorem signed_nonpos (hg : Response g) {band : K} (hband : 0 < band) {c : K} (hc : c ≤ 0) :
    signed band g c ≤ 0 := by
  have hodd := signed_neg hband g (-c)
  have hnonneg := hg.signed_nonneg band (neg_nonneg.mpr hc)
  rw [neg_neg] at hodd
  linarith

theorem signed_le_of_nonneg (hg : Response g) (band : K) {c d : K} (hc : 0 ≤ c) (h : c ≤ d) :
    signed band g c ≤ signed band g d := by
  have hd : 0 ≤ d := hc.trans h
  by_cases hin : |c| < band
  · have hzero : signed band g c = 0 := if_pos hin
    rw [hzero]
    exact hg.signed_nonneg band hd
  · have hout : ¬|d| < band := by
      rw [abs_of_nonneg hc] at hin
      rw [abs_of_nonneg hd]
      exact fun hlt => hin (lt_of_le_of_lt h hlt)
    unfold signed
    rw [if_neg hin, if_neg hout, if_neg (not_lt.mpr hc), if_neg (not_lt.mpr hd),
      abs_of_nonneg hc, abs_of_nonneg hd]
    exact hg.mono hc h

/-- **Monotone.** A larger correction is never answered with less. -/
theorem signed_monotone (hg : Response g) {band : K} (hband : 0 < band) :
    Monotone (signed band g) := by
  intro c d h
  rcases le_total 0 c with hc | hc
  · exact hg.signed_le_of_nonneg band hc h
  · rcases le_total 0 d with hd | hd
    · exact (hg.signed_nonpos hband hc).trans (hg.signed_nonneg band hd)
    · -- both corrections are negative: turned round, they are in the other order
      have hturned := hg.signed_le_of_nonneg band (neg_nonneg.mpr hd) (neg_le_neg h)
      rw [signed_neg hband, signed_neg hband] at hturned
      exact neg_le_neg_iff.mp hturned

omit [IsStrictOrderedRing K] in
/-- The sign can be restored before or after the weights. -/
theorem signed_blend (f g : K → K) (band w c : K) :
    signed band (fun x => f x + (g x - f x) * w) c =
      signed band f c + (signed band g c - signed band f c) * w := by
  unfold signed
  split_ifs <;> ring

/-- If an odd effect undoes a response, it undoes the signed response outside the dead band. -/
theorem signed_undone {effect : K → K} (hodd : ∀ a, effect (-a) = -effect a)
    (hundo : ∀ x, 0 ≤ x → effect (g x) = x) {band c : K} (hc : band ≤ |c|) :
    effect (signed band g c) = c := by
  unfold signed
  rw [if_neg (not_lt.mpr hc)]
  by_cases hneg : c < 0
  · rw [if_pos hneg, hodd, hundo _ (abs_nonneg c), abs_of_neg hneg, neg_neg]
  · rw [if_neg hneg, hundo _ (abs_nonneg c), abs_of_nonneg (not_lt.mp hneg)]

end Response

/-! ## Comparing readings -/

/-- A function that treats both directions alike. -/
structure OddMonotone (f : K → K) : Prop where
  monotone : Monotone f
  odd : ∀ x, f (-x) = -f x

/-- A way to compare two readings that sums and odd, monotone functions keep. -/
structure Comparison (rel : K → K → Prop) : Prop where
  zero : rel 0 0
  add : ∀ {x x' y y'}, rel x x' → rel y y' → rel (x + y) (x' + y')
  map : ∀ {f}, OddMonotone f → ∀ {x x'}, rel x x' → rel (f x) (f x')

theorem Comparison.le : Comparison fun x x' : K => x ≤ x' where
  zero := le_refl 0
  add := add_le_add
  map := fun hf _ _ h => hf.monotone h

omit [IsStrictOrderedRing K] in
theorem Comparison.mirror : Comparison fun x x' : K => x' = -x where
  zero := neg_zero.symm
  add := by
    rintro x _ y _ rfl rfl
    exact (neg_add x y).symm
  map := by
    rintro f hf x _ rfl
    exact hf.odd x

theorem oddMonotone_mul {k : K} (hk : 0 ≤ k) : OddMonotone fun x => k * x :=
  ⟨fun _ _ h => mul_le_mul_of_nonneg_left h hk, fun x => mul_neg k x⟩

end FlightComputer
