import RouteTable.Proofs.RouteSet.Layout

/-!
# The layout of any number of patterns

The layout of chunks goes through two roundings to 53 significant bits: that of the count, which
has more bits from 2^53 on, and that of its tenth. However these turn out, the parts hold all
patterns, would not if they were smaller by one, and are of about the size that is asked for.

* `NearestEven num den m`, `Ratio.RoundsTo x y`: what it is to be rounded, to a whole number and to
  53 significant bits.
* `roundsTo_toDouble`: `Ratio.toDouble` rounds so.
* `quotient_close`: two roundings together are off by less than a twentieth.
* `ceil_bounds`: bounds of the number of parts are bounds of the size of a part.
* `chunkLayout_sound`: what the layout promises for every count.
-/

namespace RouteTable

/-! ## What rounding is -/

/-- The whole number `m` is nearest to `num / den`, and even if another is as near. -/
structure NearestEven (num den m : Nat) : Prop where
  above : 2 * (m * den) ≤ 2 * num + den
  below : 2 * num ≤ 2 * (m * den) + den
  tie : 2 * (m * den) = 2 * num + den ∨ 2 * num = 2 * (m * den) + den → m % 2 = 0

/-- The ratio `y` is `x` rounded to 53 significant bits: scaled by the power of two that leaves 53
bits before the point, rounded to the nearest whole number, a half to the even one, and scaled
back. -/
def Ratio.RoundsTo (x y : Ratio) : Prop :=
  ∃ m up down, y = ⟨m * 2 ^ down, 2 ^ up⟩ ∧
    x.den * 2 ^ down * 2 ^ (significandBits - 1) ≤ x.num * 2 ^ up ∧
    x.num * 2 ^ up < x.den * 2 ^ down * 2 ^ significandBits ∧
    NearestEven (x.num * 2 ^ up) (x.den * 2 ^ down) m

theorem nearestEven_roundToEven (num : Nat) {den : Nat} (hden : den ≠ 0) :
    NearestEven num den (roundToEven num den) := by
  obtain ⟨habove, hbelow⟩ := roundToEven_near num hden
  refine ⟨habove, hbelow, fun htie => ?_⟩
  have hmod := Nat.mod_lt num (Nat.pos_of_ne_zero hden)
  have hdiv := Nat.div_add_mod num den
  rw [Nat.mul_comm] at hdiv
  have hsucc : (num / den + 1) * den = num / den * den + den := Nat.succ_mul ..
  unfold roundToEven at htie ⊢
  simp only at htie ⊢
  by_cases hhalf : 2 * (num % den) = den
  · have hbelow : ¬ 2 * (num % den) < den := by omega
    have habove : ¬ den < 2 * (num % den) := by omega
    rw [if_neg hbelow, if_neg habove]
    split_ifs <;> omega
  · -- Without a half, neither neighbour is a half away.
    exfalso
    split_ifs at htie <;> omega

theorem roundsTo_toDouble {x : Ratio} (hnum : x.num ≠ 0) (hden : x.den ≠ 0) :
    x.RoundsTo x.toDouble := by
  obtain ⟨up, down, htoDouble, hle, hlt⟩ := exists_scale rfl hnum hden
  have hscaled : x.den * 2 ^ down ≠ 0 :=
    Nat.mul_ne_zero hden (Nat.ne_of_gt (Nat.two_pow_pos down))
  refine ⟨_, up, down, htoDouble, ?_, hlt, nearestEven_roundToEven _ hscaled⟩
  have hhalf : 2 ^ significandBits = 2 * 2 ^ (significandBits - 1) := by decide
  rw [hhalf, Nat.mul_left_comm] at hle
  exact Nat.le_of_mul_le_mul_left hle (by decide)

/-! ## How far two roundings go -/

/-- A rounding is off by less than one part in fifty. -/
theorem toDouble_close {x : Ratio} (hnum : x.num ≠ 0) (hden : x.den ≠ 0) :
    49 * (x.num * x.toDouble.den) ≤ 50 * (x.toDouble.num * x.den) ∧
      49 * (x.toDouble.num * x.den) ≤ 50 * (x.num * x.toDouble.den) := by
  obtain ⟨bits, hbits⟩ : ∃ bits, significandBits = bits := ⟨_, rfl⟩
  obtain ⟨habove, hbelow⟩ := toDouble_near hbits hnum hden
  have hfifty : 50 ≤ 2 ^ bits := hbits ▸ by decide
  generalize 2 ^ bits = scale at habove hbelow hfifty
  generalize x.toDouble.num * x.den = rounded at habove hbelow ⊢
  generalize x.num * x.toDouble.den = exact at habove hbelow ⊢
  have hexact := Nat.mul_le_mul_left exact hfifty
  constructor
  · refine Nat.le_of_mul_le_mul_right (c := scale) ?_ (by omega)
    rw [Nat.mul_assoc, Nat.mul_assoc]
    omega
  · refine Nat.le_of_mul_le_mul_right (c := scale) ?_ (by omega)
    rw [Nat.mul_assoc, Nat.mul_assoc]
    omega

theorem num_toDouble {x : Ratio} (hnum : x.num ≠ 0) (hden : x.den ≠ 0) : x.toDouble.num ≠ 0 := by
  intro hzero
  obtain ⟨hlow, -⟩ := toDouble_close hnum hden
  have hpos := Nat.mul_pos (Nat.pos_of_ne_zero hnum)
    (Nat.pos_of_ne_zero (den_toDouble rfl hnum hden))
  rw [hzero, Nat.zero_mul] at hlow
  omega

/-- Two roundings, with a division by ten between, are off by less than a twentieth. -/
theorem quotient_close {n : Nat} (hn : n ≠ 0) {q : Ratio}
    (hq : ((Ratio.mk n 1).toDouble.divide approximateChunkSize).toDouble = q) :
    q.den ≠ 0 ∧ 19 * (n * q.den) ≤ 20 * (10 * q.num) ∧
      19 * (10 * q.num) ≤ 20 * (n * q.den) := by
  obtain ⟨hlow, hhigh⟩ := toDouble_close (x := ⟨n, 1⟩) hn Nat.one_ne_zero
  have hnum := num_toDouble (x := ⟨n, 1⟩) hn Nat.one_ne_zero
  have hden := den_toDouble (x := ⟨n, 1⟩) rfl hn Nat.one_ne_zero
  generalize (Ratio.mk n 1).toDouble = r at hlow hhigh hnum hden hq
  simp only [Nat.mul_one] at hlow hhigh
  have hpos := Nat.pos_of_ne_zero hden
  have hdivide : r.divide approximateChunkSize = ⟨r.num, r.den * 10⟩ := rfl
  rw [hdivide] at hq
  have hden' : r.den * 10 ≠ 0 := Nat.mul_ne_zero hden (by decide)
  have hqden := den_toDouble (x := ⟨r.num, r.den * 10⟩) rfl hnum hden'
  obtain ⟨hlow', hhigh'⟩ := toDouble_close (x := ⟨r.num, r.den * 10⟩) hnum hden'
  rw [hq] at hqden hlow' hhigh'
  -- Both errors are stated over the common denominator of the two ratios.
  have hten : q.num * (r.den * 10) = r.den * (10 * q.num) := by ac_rfl
  have hfirst : 49 * (r.den * (n * q.den)) ≤ 50 * (r.num * q.den) := by
    calc 49 * (r.den * (n * q.den)) = 49 * (n * r.den) * q.den := by ac_rfl
      _ ≤ 50 * r.num * q.den := Nat.mul_le_mul_right _ hlow
      _ = 50 * (r.num * q.den) := Nat.mul_assoc ..
  have hfirst' : 49 * (r.num * q.den) ≤ 50 * (r.den * (n * q.den)) := by
    calc 49 * (r.num * q.den) = 49 * r.num * q.den := (Nat.mul_assoc ..).symm
      _ ≤ 50 * (n * r.den) * q.den := Nat.mul_le_mul_right _ hhigh
      _ = 50 * (r.den * (n * q.den)) := by ac_rfl
  simp only [hten] at hlow' hhigh'
  generalize n * q.den = exact at hfirst hfirst' ⊢
  generalize 10 * q.num = rounded at hlow' hhigh' ⊢
  refine ⟨hqden, Nat.le_of_mul_le_mul_left ?_ hpos, Nat.le_of_mul_le_mul_left ?_ hpos⟩
  · rw [Nat.mul_left_comm, Nat.mul_left_comm r.den]
    omega
  · rw [Nat.mul_left_comm, Nat.mul_left_comm r.den]
    omega

/-- A count of fifty or more is cut into at least a twelfth and less than a seventh as many
parts. -/
theorem roundHalfUp_bounds {n num den : Nat} (hn : 50 ≤ n) (hden : den ≠ 0)
    (hlow : 19 * (n * den) ≤ 20 * (10 * num)) (hhigh : 19 * (10 * num) ≤ 20 * (n * den)) :
    7 * roundHalfUp num den < n ∧ n ≤ 12 * roundHalfUp num den := by
  have hpos := Nat.pos_of_ne_zero hden
  have hfifty := Nat.mul_le_mul_right den hn
  rw [roundHalfUp]
  generalize hparts : (2 * num + den) / (2 * den) = parts
  have hle : parts * (2 * den) ≤ 2 * num + den := hparts ▸ Nat.div_mul_le_self ..
  have hlt : 2 * num + den < (parts + 1) * (2 * den) :=
    (Nat.div_lt_iff_lt_mul (by omega)).mp (by omega)
  rw [Nat.mul_left_comm] at hle hlt
  rw [Nat.add_mul] at hlt
  constructor
  · refine Nat.lt_of_mul_lt_mul_right (a := den) ?_
    rw [Nat.mul_assoc]
    omega
  · refine Nat.le_of_mul_le_mul_right ?_ hpos
    rw [Nat.mul_assoc]
    omega

/-! ## The size of the parts -/

/-- Bounds of the number of parts are bounds of the size of a part. -/
theorem ceil_bounds {n parts : Nat} (hn : n ≠ 0) (hparts : 0 < parts) :
    parts * ((n + parts - 1) / parts - 1) < n ∧
      (∀ k, k * parts < n → k < (n + parts - 1) / parts) ∧
      ∀ k, n ≤ k * parts → (n + parts - 1) / parts ≤ k := by
  have hcover := le_mul_size (n := n) hparts
  have hle : parts * ((n + parts - 1) / parts) ≤ n + parts - 1 := Nat.mul_div_le ..
  generalize (n + parts - 1) / parts = size at hcover hle ⊢
  have hpred : parts * (size - 1) = parts * size - parts := Nat.mul_sub_one ..
  refine ⟨by omega, fun k hk => ?_, fun k hk => ?_⟩
  · refine Nat.lt_of_mul_lt_mul_left (a := parts) ?_
    rw [Nat.mul_comm parts k]
    omega
  · refine Nat.le_of_lt_succ (Nat.lt_of_mul_lt_mul_left (a := parts) ?_)
    rw [Nat.mul_succ, Nat.mul_comm parts k]
    omega

/-- From fifteen patterns on there are at least a twelfth and less than a seventh as many parts. -/
theorem parts_bounds {n : Nat} (hn : 15 ≤ n) :
    7 * (chunkLayout n).1 < n ∧ n ≤ 12 * (chunkLayout n).1 := by
  by_cases hexact : n < 2 ^ significandBits
  · rw [chunkLayout_eq (by omega) hexact]
    omega
  · have hfifty : 50 ≤ n := Nat.le_trans (by decide) (Nat.le_of_not_lt hexact)
    obtain ⟨hden, hlow, hhigh⟩ := quotient_close (n := n) (by omega) rfl
    have hbounds := roundHalfUp_bounds hfifty hden hlow hhigh
    rw [chunkLayout, if_neg (by omega)]
    simp only
    rw [Nat.max_eq_right (by omega)]
    exact hbounds

/-! ## The layout -/

/-- The layout in terms of rounding: the count is rounded, its tenth is rounded, and of that comes
the number of parts. -/
theorem exists_roundsTo {n : Nat} (hn : n ≠ 0) : ∃ count tenth : Ratio,
    Ratio.RoundsTo ⟨n, 1⟩ count ∧ (count.divide approximateChunkSize).RoundsTo tenth ∧
      (chunkLayout n).1 = max 1 (roundHalfUp tenth.num tenth.den) := by
  have hden := den_toDouble (x := ⟨n, 1⟩) rfl hn Nat.one_ne_zero
  have hnum := num_toDouble (x := ⟨n, 1⟩) hn Nat.one_ne_zero
  refine ⟨_, _, roundsTo_toDouble hn Nat.one_ne_zero, roundsTo_toDouble hnum ?_, ?_⟩
  · exact Nat.mul_ne_zero hden (by decide)
  · rw [chunkLayout, if_neg hn]

/-- **The layout is sound for every count.** -/
theorem chunkLayout_sound {n parts size : Nat} (hn : 1 ≤ n) (h : chunkLayout n = (parts, size)) :
    (∃ count tenth : Ratio, Ratio.RoundsTo ⟨n, 1⟩ count ∧
        (count.divide approximateChunkSize).RoundsTo tenth ∧
        parts = max 1 (roundHalfUp tenth.num tenth.den)) ∧
      1 ≤ parts ∧ n ≤ parts * size ∧ parts * (size - 1) < n ∧
      (n ≤ 14 → size = n) ∧ (15 ≤ n → 8 ≤ size ∧ size ≤ 12) ∧
      (n < 2 ^ significandBits → parts = max 1 ((n + 5) / 10)) := by
  have hne : n ≠ 0 := Nat.pos_iff_ne_zero.mp hn
  have hpos := chunkLayout_fst_pos hne
  have hsize := chunkLayout_snd hne
  have hrounds := exists_roundsTo hne
  have hbounds := fun hmany : 15 ≤ n => parts_bounds hmany
  have hexact := fun hlt : n < 2 ^ significandBits => chunkLayout_eq hne hlt
  rw [h] at hpos hsize hrounds hbounds hexact
  simp only at hpos hsize hrounds hbounds hexact
  obtain ⟨hlast, hlower, hupper⟩ := ceil_bounds hne hpos
  refine ⟨hrounds, hpos, ?_, ?_, fun hfew => ?_, fun hmany => ?_, hexact⟩
  · rw [hsize]
    exact le_mul_size hpos
  · rw [hsize]
    exact hlast
  · have hone : parts = 1 := by
      rw [hexact (Nat.lt_of_le_of_lt hfew (by decide))]
      omega
    rw [hsize, hone, Nat.add_sub_cancel, Nat.div_one]
  · rw [hsize]
    obtain ⟨hseven, htwelve⟩ := hbounds hmany
    exact ⟨hlower 7 hseven, hupper 12 htwelve⟩

/-- The greatest count of 64 bits becomes 2^64, of which a tenth is rounded up. There are more parts
than exact arithmetic has. -/
theorem sound_greatest : 1 ≤ 2 ^ 64 - 1 ∧ ∃ parts size, chunkLayout (2 ^ 64 - 1) = (parts, size) ∧
    2 ^ 64 - 1 ≤ parts * size ∧ parts * (size - 1) < 2 ^ 64 - 1 ∧ 8 ≤ size ∧ size ≤ 12 ∧
    (2 ^ 64 - 1 + 5) / 10 < parts := by
  have hlayout : chunkLayout (2 ^ 64 - 1) = (1844674407370955264, 10) := by decide +kernel
  obtain ⟨-, -, hcover, hlast, -, hsize, -⟩ := chunkLayout_sound (by decide) hlayout
  obtain ⟨hlow, hhigh⟩ := hsize (by decide)
  exact ⟨by decide, _, _, hlayout, hcover, hlast, hlow, hhigh, by decide⟩

end RouteTable
