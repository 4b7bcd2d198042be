import RouteTable.Proofs.Dispatch.Records

/-!
# How many chunks

The number of chunks to aim for is the number of expressions over ten, rounded. The expressions are
then cut by the size that this number asks for, and since the size is rounded up, the expressions
may be used up before the last chunk.

* `toDouble_near`, `toDouble_exact`: a ratio with 53 significant bits is near the ratio, and is the
  ratio itself where 53 bits suffice.
* `chunkLayout_eq`: for all counts of at most 53 bits the number of chunks is that of exact
  arithmetic.
* `map_length_splitEvery`: all pieces of a list have the size that is asked for, but the last.
* `mul_size_lt_iff`: for which counts the last chunk is reached.
* `chunks_of_build`: how many chunks a table has, and how many expressions are in each.
-/

namespace RouteTable

/-! ## Rounding to 53 bits -/

variable {x : Ratio} {bits : Nat}

/-- The first scale is the right one or one step too large. -/
theorem scale_bounds {num den up down : Nat} (hnum : num ≠ 0) (hden : den ≠ 0)
    (h : num.log2 + up = den.log2 + bits + down) :
    den * 2 ^ down * 2 ^ bits ≤ 2 * (num * 2 ^ up) ∧
      num * 2 ^ up < 2 * (den * 2 ^ down * 2 ^ bits) := by
  have hnumLe := Nat.log2_self_le hnum
  have hnumLt := Nat.lt_log2_self (n := num)
  have hdenLe := Nat.log2_self_le hden
  have hdenLt := Nat.lt_log2_self (n := den)
  have hpow : 2 ^ num.log2 * 2 ^ up = 2 ^ den.log2 * 2 ^ down * 2 ^ bits := by
    rw [← Nat.pow_add, ← Nat.pow_add, ← Nat.pow_add]
    exact congrArg (2 ^ ·) (by omega)
  constructor
  · calc den * 2 ^ down * 2 ^ bits
        ≤ 2 ^ (den.log2 + 1) * 2 ^ down * 2 ^ bits :=
          Nat.mul_le_mul_right _ (Nat.mul_le_mul_right _ (Nat.le_of_lt hdenLt))
      _ = 2 * (2 ^ den.log2 * 2 ^ down * 2 ^ bits) := by
        rw [Nat.pow_succ, Nat.mul_comm _ 2, Nat.mul_assoc 2, Nat.mul_assoc 2]
      _ ≤ 2 * (num * 2 ^ up) := by
        rw [← hpow]
        exact Nat.mul_le_mul_left _ (Nat.mul_le_mul_right _ hnumLe)
  · calc num * 2 ^ up
        < 2 ^ (num.log2 + 1) * 2 ^ up := Nat.mul_lt_mul_of_pos_right hnumLt (Nat.two_pow_pos up)
      _ = 2 * (2 ^ den.log2 * 2 ^ down * 2 ^ bits) := by
        rw [Nat.pow_succ, Nat.mul_comm _ 2, Nat.mul_assoc, hpow]
      _ ≤ 2 * (den * 2 ^ down * 2 ^ bits) :=
        Nat.mul_le_mul_left _ (Nat.mul_le_mul_right _ (Nat.mul_le_mul_right _ hdenLe))

/-- A ratio is scaled until it has as many bits before the point as a significand, rounded, and
scaled back. -/
theorem exists_scale (hbits : significandBits = bits) (hnum : x.num ≠ 0) (hden : x.den ≠ 0) :
    ∃ up down,
      x.toDouble = ⟨roundToEven (x.num * 2 ^ up) (x.den * 2 ^ down) * 2 ^ down, 2 ^ up⟩ ∧
        x.den * 2 ^ down * 2 ^ bits ≤ 2 * (x.num * 2 ^ up) ∧
        x.num * 2 ^ up < x.den * 2 ^ down * 2 ^ bits := by
  unfold Ratio.toDouble
  rw [hbits, if_neg hnum]
  simp only [Nat.pow_eq]
  obtain ⟨up, hup⟩ : ∃ up, up = x.den.log2 + bits - x.num.log2 := ⟨_, rfl⟩
  obtain ⟨down, hdown⟩ : ∃ down, down = x.num.log2 - (x.den.log2 + bits) := ⟨_, rfl⟩
  rw [← hup, ← hdown]
  have hlog : x.num.log2 + up = x.den.log2 + bits + down := by omega
  obtain ⟨hle, hlt⟩ := scale_bounds hnum hden hlog
  split_ifs with hsmall hpos
  · exact ⟨up, down, rfl, hle, hsmall⟩
  · obtain ⟨up, rfl⟩ := Nat.exists_eq_add_one_of_ne_zero (Nat.pos_iff_ne_zero.mp hpos)
    rw [Nat.pow_succ, ← Nat.mul_assoc] at hsmall hlt
    exact ⟨up, down, rfl, by omega, by omega⟩
  · refine ⟨up, down + 1, rfl, ?_⟩
    rw [Nat.pow_succ, ← Nat.mul_assoc, Nat.mul_right_comm]
    constructor <;> omega

/-- A quotient is rounded by at most a half. -/
theorem roundToEven_near (num : Nat) {den : Nat} (hden : den ≠ 0) :
    2 * (roundToEven num den * den) ≤ 2 * num + den ∧
      2 * num ≤ 2 * (roundToEven num den * den) + den := by
  have hmod := Nat.mod_lt num (Nat.pos_of_ne_zero hden)
  have hdiv := Nat.div_add_mod num den
  rw [Nat.mul_comm] at hdiv
  unfold roundToEven
  simp only
  have hsucc : (num / den + 1) * den = num / den * den + den := Nat.succ_mul ..
  split_ifs <;> omega

theorem roundToEven_mul (m : Nat) {den : Nat} (hden : den ≠ 0) : roundToEven (m * den) den = m := by
  have hpos := Nat.pos_of_ne_zero hden
  rw [roundToEven, Nat.mul_mod_left, Nat.mul_div_cancel m hpos]
  simp only [Nat.mul_zero]
  rw [if_pos hpos]

theorem den_toDouble (hbits : significandBits = bits) (hnum : x.num ≠ 0) (hden : x.den ≠ 0) :
    x.toDouble.den ≠ 0 := by
  obtain ⟨up, down, htoDouble, -, -⟩ := exists_scale hbits hnum hden
  rw [htoDouble]
  exact Nat.ne_of_gt (Nat.two_pow_pos up)

/-- A ratio is rounded by at most one part in 2^53. -/
theorem toDouble_near (hbits : significandBits = bits) (hnum : x.num ≠ 0) (hden : x.den ≠ 0) :
    x.toDouble.num * x.den * 2 ^ bits ≤
        x.num * x.toDouble.den * 2 ^ bits + x.num * x.toDouble.den ∧
      x.num * x.toDouble.den * 2 ^ bits ≤
        x.toDouble.num * x.den * 2 ^ bits + x.num * x.toDouble.den := by
  obtain ⟨up, down, htoDouble, hle, -⟩ := exists_scale hbits hnum hden
  have hscaled : x.den * 2 ^ down ≠ 0 :=
    Nat.mul_ne_zero hden (Nat.ne_of_gt (Nat.two_pow_pos down))
  rw [htoDouble]
  simp only
  rw [Nat.mul_assoc _ (2 ^ down), Nat.mul_comm (2 ^ down)]
  generalize x.num * 2 ^ up = num at hle ⊢
  generalize x.den * 2 ^ down = den at hle hscaled ⊢
  obtain ⟨habove, hbelow⟩ := roundToEven_near num hscaled
  have habove := Nat.mul_le_mul_right (2 ^ bits) habove
  have hbelow := Nat.mul_le_mul_right (2 ^ bits) hbelow
  rw [Nat.add_mul, Nat.mul_assoc 2, Nat.mul_assoc 2] at habove hbelow
  omega

/-- A ratio of which no bit is lost is not changed. -/
theorem toDouble_exact (hbits : significandBits = bits) (hnum : x.num ≠ 0) (hden : x.den ≠ 0)
    {m e : Nat} (hvalue : x.num * 2 ^ e = m * x.den) (hm : m < 2 ^ bits) :
    x.toDouble.num * x.den = x.num * x.toDouble.den := by
  obtain ⟨up, down, htoDouble, hle, -⟩ := exists_scale hbits hnum hden
  have hscaled : x.den * 2 ^ down ≠ 0 :=
    Nat.mul_ne_zero hden (Nat.ne_of_gt (Nat.two_pow_pos down))
  -- The scale leaves no digit behind the point.
  have hup : e + down ≤ up := by
    have hpow : x.den * 2 ^ (e + down + bits) < x.den * 2 ^ (up + 1 + bits) := by
      calc x.den * 2 ^ (e + down + bits)
          = x.den * 2 ^ down * 2 ^ bits * 2 ^ e := by
            rw [Nat.pow_add, Nat.pow_add]
            ac_rfl
        _ ≤ 2 * (x.num * 2 ^ up) * 2 ^ e := Nat.mul_le_mul_right _ hle
        _ = x.num * 2 ^ e * 2 ^ (up + 1) := by
            rw [Nat.pow_succ]
            ac_rfl
        _ = x.den * 2 ^ (up + 1) * m := by
            rw [hvalue]
            ac_rfl
        _ < x.den * 2 ^ (up + 1) * 2 ^ bits :=
            Nat.mul_lt_mul_of_pos_left hm
              (Nat.mul_pos (Nat.pos_of_ne_zero hden) (Nat.two_pow_pos _))
        _ = x.den * 2 ^ (up + 1 + bits) := by rw [Nat.mul_assoc, ← Nat.pow_add]
    have hpow := Nat.lt_of_mul_lt_mul_left hpow
    have hlt := (Nat.pow_lt_pow_iff_right (Nat.lt_succ_self 1)).mp hpow
    omega
  obtain ⟨k, rfl⟩ := Nat.exists_eq_add_of_le hup
  have hmul : x.num * 2 ^ (e + down + k) = m * 2 ^ k * (x.den * 2 ^ down) := by
    calc x.num * 2 ^ (e + down + k)
        = x.num * 2 ^ e * 2 ^ down * 2 ^ k := by
          rw [Nat.pow_add, Nat.pow_add]
          ac_rfl
      _ = m * 2 ^ k * (x.den * 2 ^ down) := by
          rw [hvalue]
          ac_rfl
  rw [htoDouble]
  simp only
  rw [hmul, roundToEven_mul _ hscaled]
  ac_rfl

/-! ## The number to aim for -/

/-- The quotient of a count by ten is off by less than a tenth, and not at all where it has at most
one bit behind the point. -/
theorem quotient_near (hbits : significandBits = bits) {n : Nat} (hn : n ≠ 0) (hlt : n < 2 ^ bits)
    {q : Ratio} (hq : ((Ratio.mk n 1).toDouble.divide approximateChunkSize).toDouble = q) :
    q.den ≠ 0 ∧ 10 * q.num < n * q.den + q.den ∧ n * q.den < 10 * q.num + q.den ∧
      (n % 5 = 0 → 10 * q.num = n * q.den) := by
  have hexact := toDouble_exact (x := ⟨n, 1⟩) hbits hn Nat.one_ne_zero
    (show n * 2 ^ 0 = n * 1 by omega) hlt
  have hden := den_toDouble (x := ⟨n, 1⟩) hbits hn Nat.one_ne_zero
  generalize (Ratio.mk n 1).toDouble = r at hexact hden hq
  have hdivide : r.divide approximateChunkSize = ⟨n * r.den, r.den * 10⟩ := by
    rw [Ratio.divide, approximateChunkSize, ← hexact, Nat.mul_one]
  rw [hdivide] at hq
  have hnum : (Ratio.mk (n * r.den) (r.den * 10)).num ≠ 0 := Nat.mul_ne_zero hn hden
  have hden' : (Ratio.mk (n * r.den) (r.den * 10)).den ≠ 0 := Nat.mul_ne_zero hden (by decide)
  have hqden := den_toDouble hbits hnum hden'
  obtain ⟨habove, hbelow⟩ := toDouble_near hbits hnum hden'
  rw [hq] at hqden habove hbelow
  have hleft : q.num * (r.den * 10) = r.den * (10 * q.num) := by ac_rfl
  have hright : n * r.den * q.den = r.den * (n * q.den) := by ac_rfl
  have hpos := Nat.pos_of_ne_zero hden
  -- What is lost is below one part in `n`.
  have hlost : n * q.den < q.den * 2 ^ bits := by
    rw [Nat.mul_comm]
    exact Nat.mul_lt_mul_of_pos_left hlt (Nat.pos_of_ne_zero hqden)
  simp only [hleft, hright, Nat.mul_assoc r.den, ← Nat.mul_add] at habove hbelow
  have habove := Nat.le_of_mul_le_mul_left habove hpos
  have hbelow := Nat.le_of_mul_le_mul_left hbelow hpos
  refine ⟨hqden, ?_, ?_, fun hfive => ?_⟩
  · refine Nat.lt_of_mul_lt_mul_right (a := 2 ^ bits) ?_
    rw [Nat.add_mul]
    omega
  · refine Nat.lt_of_mul_lt_mul_right (a := 2 ^ bits) ?_
    rw [Nat.add_mul]
    omega
  · have hhalf : n * r.den * 2 ^ 1 = n / 5 * (r.den * 10) := by
      obtain ⟨k, rfl⟩ : ∃ k, n = k * 5 := ⟨n / 5, by omega⟩
      rw [Nat.mul_div_cancel _ (by decide), Nat.mul_assoc k, Nat.mul_assoc k]
      congr 1
      omega
    have hsame := toDouble_exact hbits hnum hden' hhalf (by omega)
    rw [hq, hleft, hright] at hsame
    exact Nat.eq_of_mul_eq_mul_left hpos hsame

/-- A quotient that is off by less than a tenth is rounded as if it were exact. -/
theorem roundHalfUp_eq {n num den : Nat} (hden : den ≠ 0) (habove : 10 * num < n * den + den)
    (hbelow : n * den < 10 * num + den) (hfive : n % 5 = 0 → 10 * num = n * den) :
    roundHalfUp num den = (n + 5) / 10 := by
  obtain ⟨q, r, hr, rfl⟩ : ∃ q r, r < 10 ∧ n = 10 * q + r :=
    ⟨n / 10, n % 10, Nat.mod_lt n (by decide), by omega⟩
  have hpos := Nat.pos_of_ne_zero hden
  have hmul : (10 * q + r) * den = 10 * (q * den) + r * den := by
    rw [Nat.add_mul, Nat.mul_assoc]
  have hdouble : ∀ k, (q + k) * (2 * den) = 2 * (q * den) + k * (2 * den) := fun k => by
    rw [Nat.add_mul, Nat.mul_left_comm]
  rw [hmul] at habove hbelow hfive
  rw [roundHalfUp]
  by_cases hhalf : r < 5
  · rw [show (10 * q + r + 5) / 10 = q by omega]
    have hle : r * den ≤ 4 * den := Nat.mul_le_mul_right _ (by omega)
    refine Nat.div_eq_of_lt_le ?_ ?_
    · rw [Nat.mul_left_comm]
      omega
    · rw [hdouble 1]
      omega
  · rw [show (10 * q + r + 5) / 10 = q + 1 by omega]
    have hle : r * den ≤ 9 * den := Nat.mul_le_mul_right _ (by omega)
    refine Nat.div_eq_of_lt_le ?_ ?_
    · rw [hdouble 1]
      by_cases hr' : r = 5
      · have hexact := hfive (by omega)
        rw [hr'] at hexact
        omega
      · have hge : 6 * den ≤ r * den := Nat.mul_le_mul_right _ (by omega)
        omega
    · rw [Nat.add_assoc, hdouble 2]
      omega

/-- The number of chunks to aim for is a tenth of the count, rounded, and at least one. -/
theorem chunkLayout_eq {n : Nat} (hn : n ≠ 0) (hlt : n < 2 ^ significandBits) :
    (chunkLayout n).1 = max 1 ((n + 5) / 10) := by
  obtain ⟨hden, habove, hbelow, hfive⟩ := quotient_near rfl hn hlt rfl
  rw [chunkLayout, if_neg hn]
  simp only
  rw [roundHalfUp_eq hden habove hbelow hfive]

/-! ## The size of the pieces -/

/-- The sizes of the pieces of `count` members: the last piece has what is left. -/
def pieceSizes (size count : Nat) : List Nat :=
  List.replicate ((count - 1) / size) size ++ [count - (count - 1) / size * size]

theorem length_pieceSizes (size count : Nat) :
    (pieceSizes size count).length = (count - 1) / size + 1 := by
  rw [pieceSizes, List.length_append, List.length_replicate, List.length_singleton]

/-- All pieces of a list have the size that is asked for, but the last. -/
theorem map_length_splitEvery {α : Type} {size : Nat} (hsize : 0 < size) :
    ∀ {fuel : Nat} {xs : List α}, xs ≠ [] → xs.length ≤ fuel →
      (splitEvery size fuel xs).map List.length = pieceSizes size xs.length
  | 0, xs, hne, hfuel => absurd (List.length_eq_zero_iff.mp (Nat.le_zero.mp hfuel)) hne
  | fuel + 1, x :: xs, _, hfuel => by
    rw [splitEvery, List.map_cons, List.length_take]
    by_cases hlast : (x :: xs).length ≤ size
    · have hzero : ((x :: xs).length - 1) / size = 0 := Nat.div_eq_of_lt (by
        rw [List.length_cons] at hlast ⊢
        omega)
      rw [List.drop_eq_nil_iff.mpr hlast, pieceSizes, hzero, Nat.min_eq_right hlast, Nat.zero_mul]
      cases fuel <;> rfl
    · have hlength : ((x :: xs).drop size).length = (x :: xs).length - size := List.length_drop
      have hrest : (x :: xs).drop size ≠ [] := by
        rw [Ne, List.drop_eq_nil_iff]
        exact hlast
      have hdiv : ((x :: xs).length - 1) / size = ((x :: xs).length - size - 1) / size + 1 := by
        rw [← Nat.add_div_right _ hsize]
        congr 1
        omega
      have hfuel' : ((x :: xs).drop size).length ≤ fuel := by omega
      have ih := map_length_splitEvery hsize hrest hfuel'
      rw [ih, hlength, pieceSizes, pieceSizes, hdiv, Nat.min_eq_left (by omega),
        List.replicate_succ, Nat.succ_mul, List.cons_append]
      congr 3
      omega

/-! ## The number reached -/

theorem chunkLayout_snd {n : Nat} (hn : n ≠ 0) :
    (chunkLayout n).2 = (n + (chunkLayout n).1 - 1) / (chunkLayout n).1 := by
  rw [chunkLayout, if_neg hn]

theorem chunkLayout_fst_pos {n : Nat} (hn : n ≠ 0) : 0 < (chunkLayout n).1 := by
  rw [chunkLayout, if_neg hn]
  exact Nat.lt_of_lt_of_le Nat.one_pos (Nat.le_max_left ..)

/-- There are no more pieces than were aimed for. -/
theorem le_mul_size {n parts : Nat} (hparts : 0 < parts) :
    n ≤ parts * ((n + parts - 1) / parts) := by
  have hdiv := Nat.div_add_mod (n + parts - 1) parts
  have hmod := Nat.mod_lt (n + parts - 1) hparts
  omega

/-- With a remainder of one to four every chunk becomes larger than ten. -/
theorem mul_size_lt_iff_of_lt {q r : Nat} (hq : q ≠ 0) (hr : r < 5) :
    (q - 1) * ((10 * q + r + q - 1) / q) < 10 * q + r ↔ ¬ (1 ≤ r ∧ 11 + r ≤ q) := by
  have hpos := Nat.pos_of_ne_zero hq
  by_cases hzero : r = 0
  · have hsize : (10 * q + r + q - 1) / q = 10 := Nat.div_eq_of_lt_le (by omega) (by omega)
    rw [hsize]
    omega
  · by_cases hle : r ≤ q
    · have hsize : (10 * q + r + q - 1) / q = 11 := Nat.div_eq_of_lt_le (by omega) (by omega)
      rw [hsize]
      omega
    · have hsize : (10 * q + r + q - 1) / q ≤ 14 := Nat.le_of_lt_succ (by
        rw [Nat.div_lt_iff_lt_mul hpos]
        omega)
      have hmul : (q - 1) * ((10 * q + r + q - 1) / q) ≤ (q - 1) * 14 :=
        Nat.mul_le_mul_left _ hsize
      omega

/-- With a remainder of five to nine there is one chunk more, and none is larger than ten. -/
theorem mul_size_lt_of_le {q r : Nat} (hr : 5 ≤ r) (hr' : r < 10) :
    q * ((10 * q + r + (q + 1) - 1) / (q + 1)) < 10 * q + r := by
  have hsize : (10 * q + r + (q + 1) - 1) / (q + 1) ≤ 10 := Nat.le_of_lt_succ (by
    rw [Nat.div_lt_iff_lt_mul (Nat.succ_pos q)]
    omega)
  have hmul := Nat.mul_le_mul_left q hsize
  omega

/-- The expressions last until the last chunk, unless a remainder of one to four makes so many
chunks larger that they are used up before. -/
theorem mul_size_lt_iff {n : Nat} (hn : n ≠ 0) (hlt : n < 2 ^ significandBits) :
    ((chunkLayout n).1 - 1) * (chunkLayout n).2 < n ↔
      ¬ (1 ≤ n % 10 ∧ n % 10 ≤ 4 ∧ 11 + n % 10 ≤ n / 10) := by
  rw [chunkLayout_snd hn, chunkLayout_eq hn hlt]
  obtain ⟨q, r, hr, rfl⟩ : ∃ q r, r < 10 ∧ n = 10 * q + r :=
    ⟨n / 10, n % 10, Nat.mod_lt n (by decide), by omega⟩
  have hmod : (10 * q + r) % 10 = r := by omega
  have hdiv : (10 * q + r) / 10 = q := by omega
  rw [hmod, hdiv]
  by_cases hsmall : r < 5
  · by_cases hq : q = 0
    · rw [show max 1 ((10 * q + r + 5) / 10) = 1 by omega, Nat.sub_self, Nat.zero_mul]
      omega
    · rw [show max 1 ((10 * q + r + 5) / 10) = q by omega, mul_size_lt_iff_of_lt hq hsmall]
      omega
  · rw [show max 1 ((10 * q + r + 5) / 10) = q + 1 by omega, Nat.add_sub_cancel]
    exact iff_of_true (mul_size_lt_of_le (by omega) hr) (by omega)

/-- There are as many pieces as were aimed for, or fewer. -/
theorem length_pieceSizes_le {n : Nat} (hn : n ≠ 0) :
    (pieceSizes (chunkLayout n).2 n).length ≤ (chunkLayout n).1 ∧
      ((pieceSizes (chunkLayout n).2 n).length = (chunkLayout n).1 ↔
        ((chunkLayout n).1 - 1) * (chunkLayout n).2 < n) := by
  have hparts := chunkLayout_fst_pos hn
  have hsize : 0 < (chunkLayout n).2 := chunkLayout_positive (Nat.pos_of_ne_zero hn)
  have hle : n ≤ (chunkLayout n).1 * (chunkLayout n).2 := by
    rw [chunkLayout_snd hn]
    exact le_mul_size hparts
  rw [length_pieceSizes]
  generalize (chunkLayout n).1 = parts at hparts hle
  generalize (chunkLayout n).2 = size at hsize hle
  have hupper : (n - 1) / size < parts := (Nat.div_lt_iff_lt_mul hsize).mpr (by omega)
  have hlower : parts - 1 ≤ (n - 1) / size ↔ (parts - 1) * size ≤ n - 1 :=
    Nat.le_div_iff_mul_le hsize
  omega

/-- No piece is empty. -/
theorem pos_of_mem_pieceSizes {size n : Nat} (hsize : 0 < size) (hn : n ≠ 0) :
    ∀ k ∈ pieceSizes size n, 0 < k := by
  intro k hk
  rw [pieceSizes, List.mem_append, List.mem_replicate, List.mem_singleton] at hk
  have hmul := Nat.div_mul_le_self (n - 1) size
  omega

/-! ## Tables -/

/-- The route map of a chunk has an entry for each of its routes. -/
theorem size_routeMap {rs : List VariableRoute} (h : ∀ r ∈ rs, 0 < r.groupCount) :
    (Chunk.ofRoutes rs).routeMap.size = rs.length := by
  rw [SortedMap.size, entries_routeMap h, List.length_zip, length_positions, List.length_map,
    Nat.min_self]

/-- **How many chunks a table has.** The expressions of a set are cut into chunks of the size that
the layout asks for, of which only the last may be smaller and none is empty. There are never more
chunks than the layout aims for, which is a tenth of the expressions, rounded. There are as many
unless the expressions leave a remainder of one to four over the tens and are used up, in chunks of
eleven, before the last chunk. -/
theorem chunks_of_build {calls : List Declaration} {table : DispatchTable}
    (hbuild : (RouteSet.empty.declareEach calls).2.build = .ok table) {n : Nat}
    (hcount : ((RouteSet.empty.declareEach calls).1.filterMap
      Declaration.regex?).eraseDups.length = n) (hn : 1 ≤ n) :
    table.chunks.map (fun c => c.routeMap.size) = pieceSizes (chunkLayout n).2 n ∧
      (∀ c ∈ table.chunks, 0 < c.routeMap.size) ∧
      table.chunks.length ≤ (chunkLayout n).1 ∧
      (table.chunks.length = (chunkLayout n).1 ↔
        ((chunkLayout n).1 - 1) * (chunkLayout n).2 < n) ∧
      (n < 2 ^ significandBits →
        (chunkLayout n).1 = max 1 ((n + 5) / 10) ∧
          (table.chunks.length = (chunkLayout n).1 ↔
            ¬ (1 ≤ n % 10 ∧ n % 10 ≤ 4 ∧ 11 + n % 10 ≤ n / 10))) := by
  have hne : n ≠ 0 := Nat.pos_iff_ne_zero.mp hn
  have hsize : 0 < (chunkLayout n).2 := chunkLayout_positive hn
  have hlength : (RouteSet.empty.declareEach calls).2.variableRoutes.routes.length = n := by
    rw [← hcount, ← regexes_declareEach, List.length_map]
  obtain ⟨-, rfl⟩ := build_eq_ok hbuild
  have hsizes : ((RouteSet.empty.declareEach calls).2.variableRoutes.pieces.map
      Chunk.ofRoutes).map (fun c => c.routeMap.size) = pieceSizes (chunkLayout n).2 n := by
    have hroutes : (RouteSet.empty.declareEach calls).2.variableRoutes.routes ≠ [] :=
      List.length_pos_iff.mp (hlength ▸ hn)
    have hpieces := map_length_splitEvery hsize hroutes (Nat.le_refl _)
    rw [hlength] at hpieces
    rw [← hpieces, List.map_map, VariableRoutes.pieces, hlength]
    refine List.map_congr_left fun piece hpiece => size_routeMap fun r hr => ?_
    rw [← hlength] at hpiece
    exact ((history_declareEach calls).groupCount_pos piece hpiece r hr).2
  have hchunks := congrArg List.length hsizes
  rw [List.length_map] at hchunks
  obtain ⟨hle, hiff⟩ := length_pieceSizes_le hne
  rw [← hchunks] at hle hiff
  refine ⟨hsizes, fun c hc => ?_, hle, hiff, fun hlt => ⟨chunkLayout_eq hne hlt, ?_⟩⟩
  · refine pos_of_mem_pieceSizes hsize hne _ ?_
    rw [← hsizes]
    exact List.mem_map_of_mem hc
  · rw [hiff, mul_size_lt_iff hne hlt]

/-- The four declarations that are taken in have two expressions, which are one chunk. -/
theorem chunks_overlapping : ∃ table,
    (RouteSet.empty.declareEach overlapping).2.build = .ok table ∧
      table.chunks.map (fun c => c.routeMap.size) = [2] ∧
      table.chunks.length = (chunkLayout 2).1 := by
  have hcount : ((RouteSet.empty.declareEach overlapping).1.filterMap
      Declaration.regex?).eraseDups.length = 2 := by
    rw [declareEach_overlapping]
    decide +kernel
  obtain ⟨table, -, hbuild, -⟩ := exists_of_serves serves_overlapping
  obtain ⟨hsizes, -, -, hiff, -⟩ := chunks_of_build hbuild hcount (by decide)
  exact ⟨table, hbuild, hsizes, hiff.mpr (by decide +kernel)⟩

/-- 121 is the least count for which a chunk is missing: it aims for 12. -/
example : chunkLayout 121 = (12, 11) ∧ pieceSizes 11 121 = List.replicate 11 11 := by decide +kernel

end RouteTable
