import Mathlib.Algebra.Group.Nat.Defs
import RelationalMapping.Number.Binary

namespace RelationalMapping

theorem log2_mul_two_pow {n : Nat} (hn : n ≠ 0) (k : Nat) : (n * 2 ^ k).log2 = n.log2 + k := by
  have hpos := Nat.two_pow_pos k
  rw [Nat.log2_eq_iff (Nat.mul_ne_zero hn (Nat.ne_of_gt hpos))]
  constructor
  · rw [Nat.pow_add]
    exact Nat.mul_le_mul_right _ (Nat.log2_self_le hn)
  · rw [show n.log2 + k + 1 = (n.log2 + 1) + k by omega, Nat.pow_add]
    exact Nat.mul_lt_mul_of_pos_right Nat.lt_log2_self hpos

namespace BinaryFormat

theorem infinity_eq (f : BinaryFormat) :
    f.infinity = (2 ^ f.exponentBits - 1) * 2 ^ f.mantissaBits := by
  rw [infinity, Nat.shiftLeft_eq, Nat.one_shiftLeft]

theorem signWeight_eq (f : BinaryFormat) : f.signWeight = 2 ^ f.mantissaBits * 2 ^ f.exponentBits := by
  rw [signWeight, Nat.one_shiftLeft, Nat.pow_add]

theorem read_eq (f : BinaryFormat) (bits : Nat) :
    f.read bits =
      if bits / 2 ^ f.mantissaBits % 2 ^ f.exponentBits = 2 ^ f.exponentBits - 1 then
        if bits % 2 ^ f.mantissaBits = 0 then .infinite (bits / f.signWeight % 2 == 1) else .nan
      else if bits / 2 ^ f.mantissaBits % 2 ^ f.exponentBits = 0 then
        .finite (bits / f.signWeight % 2 == 1) (bits % 2 ^ f.mantissaBits) f.leastExponent
      else .finite (bits / f.signWeight % 2 == 1) (bits % 2 ^ f.mantissaBits + 2 ^ f.mantissaBits)
        (f.leastExponent + (bits / 2 ^ f.mantissaBits % 2 ^ f.exponentBits : Nat) - 1) := by
  simp only [read, Nat.one_shiftLeft, Nat.shiftRight_eq_div_pow]

theorem nearest_mul (q : Nat) {den : Nat} (hden : 0 < den) : nearest (q * den) den = q := by
  simp [nearest, Nat.mul_div_cancel _ hden, hden]

structure Canonical (f : BinaryFormat) (mantissa : Nat) (exponent : Int) : Prop where
  positive : 0 < mantissa
  least : f.leastExponent ≤ exponent
  bound : mantissa < 2 ^ (f.mantissaBits + 1)
  normal : 2 ^ f.mantissaBits ≤ mantissa ∨ exponent = f.leastExponent

variable {f : BinaryFormat} {m : Nat} {e : Int}

theorem Canonical.log2_le (h : f.Canonical m e) :
    m.log2 ≤ f.mantissaBits ∧ (m.log2 = f.mantissaBits ∨ e = f.leastExponent) := by
  have hm : m ≠ 0 := Nat.ne_of_gt h.positive
  have hle : m.log2 < f.mantissaBits + 1 := (Nat.log2_lt hm).mpr h.bound
  refine ⟨by omega, ?_⟩
  rcases h.normal with hnormal | hleast
  · have := (Nat.le_log2 hm).mpr hnormal
    exact .inl (by omega)
  · exact .inr hleast

theorem le_wide_iff {n : Nat} (hn : n ≠ 0) (a start : Int) (M : Nat) :
    2 ^ (M + 1) ≤ n * 2 ^ a.toNat * 2 ^ (-start).toNat / (2 ^ (-a).toNat * 2 ^ start.toNat)
      ↔ (M : Int) + 1 + start ≤ n.log2 + a := by
  have hlog : 2 ^ (M + 1 + ((-a).toNat + start.toNat)) ≤ n * 2 ^ (a.toNat + (-start).toNat)
      ↔ M + 1 + ((-a).toNat + start.toNat) ≤ n.log2 + (a.toNat + (-start).toNat) := by
    rw [← log2_mul_two_pow hn, Nat.le_log2]
    exact Nat.mul_ne_zero hn (Nat.ne_of_gt (Nat.two_pow_pos _))
  rw [Nat.mul_assoc, ← Nat.pow_add, ← Nat.pow_add, Nat.le_div_iff_mul_le (Nat.two_pow_pos _), ← Nat.pow_add, hlog]
  omega

theorem exists_shift (a e : Int) :
    ∃ k, a.toNat + (-e).toNat = (a - e).toNat + k ∧ (-a).toNat + e.toNat = (e - a).toNat + k :=
  ⟨a.toNat + (-e).toNat - (a - e).toNat, by omega, by omega⟩

theorem magnitude_exact (h : f.Canonical m e) {n : Nat} (hn : n ≠ 0) {a : Int}
    (heq : n * 2 ^ (a - e).toNat = m * 2 ^ (e - a).toNat) :
    f.magnitude (n * 2 ^ a.toNat) (2 ^ (-a).toNat)
      = min f.infinity ((e - f.leastExponent).toNat * 2 ^ f.mantissaBits + m) := by
  have hm : m ≠ 0 := Nat.ne_of_gt h.positive
  have hsize : (n.log2 : Int) + a = m.log2 + e := by
    have hlog : n.log2 + (a - e).toNat = m.log2 + (e - a).toNat := by
      rw [← log2_mul_two_pow hn, heq, log2_mul_two_pow hm]
    omega
  obtain ⟨hle, hnormal⟩ := h.log2_le
  have hleast := h.least
  have hexponent : ∀ start : Int,
      start = max f.leastExponent ((n.log2 : Int) + a - 1 - f.mantissaBits) →
      (if 2 ^ (f.mantissaBits + 1) ≤ n * 2 ^ a.toNat * 2 ^ (-start).toNat
        / (2 ^ (-a).toNat * 2 ^ start.toNat) then start + 1 else start) = e := by
    intro start hstart
    simp only [le_wide_iff hn]
    split <;> omega
  have hnum : (n * 2 ^ a.toNat).log2 = n.log2 + a.toNat := log2_mul_two_pow hn _
  have hden : (2 ^ (-a).toNat).log2 = (-a).toNat := Nat.log2_two_pow
  have hstart : (((n * 2 ^ a.toNat).log2 : Nat) : Int) - ((2 ^ (-a).toNat).log2 : Nat) - 1 - f.mantissaBits
      = (n.log2 : Int) + a - 1 - f.mantissaBits := by
    rw [hnum, hden]
    omega
  have hexact : n * 2 ^ a.toNat * 2 ^ (-e).toNat = m * (2 ^ (-a).toNat * 2 ^ e.toNat) := by
    obtain ⟨k, hleft, hright⟩ := exists_shift a e
    rw [Nat.mul_assoc, ← Nat.pow_add, ← Nat.pow_add, hleft, hright, Nat.pow_add, Nat.pow_add, ← Nat.mul_assoc,
      ← Nat.mul_assoc, heq]
  have hpositive : 0 < 2 ^ (-a).toNat * 2 ^ e.toNat :=
    Nat.mul_pos (Nat.two_pow_pos _) (Nat.two_pow_pos _)
  simp only [magnitude, scaled, Nat.shiftLeft_eq, Nat.one_mul, hstart, hexponent _ rfl, hexact,
    nearest_mul m hpositive]

def pack (f : BinaryFormat) (negative : Bool) (field fraction : Nat) : Nat :=
  (if negative then f.signWeight else 0) + (field * 2 ^ f.mantissaBits + fraction)

variable {negative : Bool} {bits : Nat}

theorem pack_eq (f : BinaryFormat) (negative : Bool) (field fraction : Nat) :
    f.pack negative field fraction = fraction
      + 2 ^ f.mantissaBits * (field + 2 ^ f.exponentBits * (if negative then 1 else 0)) := by
  rw [pack, signWeight_eq]
  generalize 2 ^ f.mantissaBits = p
  generalize 2 ^ f.exponentBits = q
  cases negative <;> simp only [Bool.false_eq_true, ↓reduceIte] <;> grind

theorem fields_pack (f : BinaryFormat) (negative : Bool) {field fraction : Nat}
    (hfield : field < 2 ^ f.exponentBits) (hfraction : fraction < 2 ^ f.mantissaBits) :
    f.pack negative field fraction % 2 ^ f.mantissaBits = fraction
      ∧ f.pack negative field fraction / 2 ^ f.mantissaBits % 2 ^ f.exponentBits = field
      ∧ (f.pack negative field fraction / f.signWeight % 2 == 1) = negative := by
  rw [pack_eq, signWeight_eq]
  have hp := Nat.two_pow_pos f.mantissaBits
  have hq := Nat.two_pow_pos f.exponentBits
  generalize 2 ^ f.mantissaBits = p at *
  generalize 2 ^ f.exponentBits = q at *
  have hquotient : (fraction + p * (field + q * (if negative then 1 else 0))) / p
      = field + q * (if negative then 1 else 0) := by
    rw [Nat.add_mul_div_left _ _ hp, Nat.div_eq_of_lt hfraction, Nat.zero_add]
  refine ⟨?_, ?_, ?_⟩
  · rw [Nat.add_mul_mod_self_left, Nat.mod_eq_of_lt hfraction]
  · rw [hquotient, Nat.add_mul_mod_self_left, Nat.mod_eq_of_lt hfield]
  · rw [← Nat.div_div_eq_div_mul, hquotient, Nat.add_mul_div_left _ _ hq, Nat.div_eq_of_lt hfield,
      Nat.zero_add]
    cases negative <;> rfl

theorem pack_fields (hbits : bits < 2 * f.signWeight) :
    f.pack (bits / f.signWeight % 2 == 1) (bits / 2 ^ f.mantissaBits % 2 ^ f.exponentBits)
      (bits % 2 ^ f.mantissaBits) = bits := by
  have hfields := Nat.div_add_mod bits (2 ^ f.mantissaBits)
  have hsign := Nat.div_add_mod (bits / 2 ^ f.mantissaBits) (2 ^ f.exponentBits)
  have hweight : bits / f.signWeight = bits / 2 ^ f.mantissaBits / 2 ^ f.exponentBits := by
    rw [signWeight_eq, Nat.div_div_eq_div_mul]
  have htwo : bits / f.signWeight < 2 := Nat.div_lt_of_lt_mul (by rwa [Nat.mul_comm])
  have hone : (if bits / f.signWeight % 2 == 1 then 1 else 0) = bits / f.signWeight := by
    rw [Nat.mod_eq_of_lt htwo]
    rcases Nat.lt_succ_iff_lt_or_eq.mp htwo with h | h
    · rw [Nat.lt_one_iff.mp h]
      rfl
    · rw [h]
      rfl
  rw [pack_eq, hone, hweight, Nat.add_comm (bits / 2 ^ f.mantissaBits % _), hsign, Nat.add_comm, hfields]

theorem read_pack_canonical (h : f.Canonical m e)
    (hfinite : (e - f.leastExponent).toNat + 1 < 2 ^ f.exponentBits - 1) :
    f.read ((if negative then f.signWeight else 0)
      + ((e - f.leastExponent).toNat * 2 ^ f.mantissaBits + m)) = .finite negative m e := by
  have hleast := h.least
  by_cases hnormal : 2 ^ f.mantissaBits ≤ m
  · have hpack : (if negative then f.signWeight else 0)
        + ((e - f.leastExponent).toNat * 2 ^ f.mantissaBits + m)
        = f.pack negative ((e - f.leastExponent).toNat + 1) (m - 2 ^ f.mantissaBits) := by
      rw [pack, Nat.add_mul, Nat.one_mul]
      omega
    have hbound := h.bound
    rw [Nat.pow_succ] at hbound
    have hinner : (e - f.leastExponent).toNat + 1 < 2 ^ f.exponentBits := by omega
    have hrest : m - 2 ^ f.mantissaBits < 2 ^ f.mantissaBits := by omega
    obtain ⟨hfraction, hfield, hsign⟩ := fields_pack f negative hinner hrest
    rw [hpack]
    simp only [read_eq, hfraction, hfield, hsign]
    rw [if_neg (by omega), if_neg (by omega), Nat.sub_add_cancel hnormal]
    congr 1
    omega
  · have he : e = f.leastExponent := h.normal.resolve_left hnormal
    have hpack : (if negative then f.signWeight else 0)
        + ((e - f.leastExponent).toNat * 2 ^ f.mantissaBits + m) = f.pack negative 0 m := by
      simp [pack, he]
    obtain ⟨hfraction, hfield, hsign⟩ :=
      fields_pack f negative (Nat.two_pow_pos _) (Nat.lt_of_not_le hnormal)
    rw [hpack]
    simp only [read_eq, hfraction, hfield, hsign]
    rw [if_neg (by omega), he]
    rfl

theorem ofReading_exact (h : f.Canonical m e)
    (hfinite : (e - f.leastExponent).toNat + 1 < 2 ^ f.exponentBits - 1) {n : Nat} (hn : n ≠ 0)
    {a : Int} (heq : n * 2 ^ (a - e).toNat = m * 2 ^ (e - a).toNat) :
    f.ofReading (.finite negative n a) = (if negative then f.signWeight else 0)
      + ((e - f.leastExponent).toNat * 2 ^ f.mantissaBits + m) := by
  have hnum : n * 2 ^ a.toNat ≠ 0 := Nat.mul_ne_zero hn (Nat.ne_of_gt (Nat.two_pow_pos _))
  have hbelow : (e - f.leastExponent).toNat * 2 ^ f.mantissaBits + m ≤ f.infinity := by
    have hbound := h.bound
    rw [Nat.pow_succ] at hbound
    have hsteps : ((e - f.leastExponent).toNat + 2) * 2 ^ f.mantissaBits ≤ f.infinity := by
      rw [infinity_eq]
      exact Nat.mul_le_mul_right _ (by omega)
    rw [Nat.add_mul] at hsteps
    omega
  rw [ofReading, ofRatio, Nat.shiftLeft_eq, Nat.one_shiftLeft, if_neg hnum, magnitude_exact h hn heq,
    Nat.min_eq_right hbelow]

theorem canonical_of_read (hq : 2 < 2 ^ f.exponentBits) (hm : m ≠ 0)
    (h : f.read bits = .finite negative m e) :
    f.Canonical m e ∧ (e - f.leastExponent).toNat + 1 < 2 ^ f.exponentBits - 1 := by
  have hfraction := Nat.mod_lt bits (Nat.two_pow_pos f.mantissaBits)
  have hfield := Nat.mod_lt (bits / 2 ^ f.mantissaBits) (Nat.two_pow_pos f.exponentBits)
  have hdouble : 2 ^ (f.mantissaBits + 1) = 2 ^ f.mantissaBits * 2 := Nat.pow_succ ..
  rw [read_eq] at h
  split at h
  · split at h <;> cases h
  · split at h
    · cases h
      exact ⟨⟨by omega, by omega, by omega, .inr rfl⟩, by omega⟩
    · cases h
      exact ⟨⟨by omega, by omega, by omega, .inl (by omega)⟩, by omega⟩

theorem bits_of_read (hbits : bits < 2 * f.signWeight) (h : f.read bits = .finite negative m e) :
    (if negative then f.signWeight else 0) + ((e - f.leastExponent).toNat * 2 ^ f.mantissaBits + m)
      = bits := by
  have hpack := pack_fields hbits
  rw [read_eq] at h
  split at h
  · split at h <;> cases h
  · split at h
    · rename_i hfield
      cases h
      rw [hfield] at hpack
      simpa [pack] using hpack
    · rename_i hfield
      cases h
      have hstep : (f.leastExponent + ((bits / 2 ^ f.mantissaBits % 2 ^ f.exponentBits : Nat) : Int) - 1
          - f.leastExponent).toNat = bits / 2 ^ f.mantissaBits % 2 ^ f.exponentBits - 1 := by omega
      have hfields : (bits / 2 ^ f.mantissaBits % 2 ^ f.exponentBits - 1) * 2 ^ f.mantissaBits
          + 2 ^ f.mantissaBits = bits / 2 ^ f.mantissaBits % 2 ^ f.exponentBits * 2 ^ f.mantissaBits := by
        rw [← Nat.succ_mul]
        congr 1
        omega
      rw [pack] at hpack
      rw [hstep]
      omega

theorem bits_of_read_infinite (hbits : bits < 2 * f.signWeight)
    (h : f.read bits = .infinite negative) :
    (if negative then f.signWeight else 0) + f.infinity = bits := by
  have hpack := pack_fields hbits
  rw [read_eq] at h
  split at h
  · rename_i hfield
    split at h
    · rename_i hfraction
      cases h
      rw [hfield, hfraction] at hpack
      rw [infinity_eq]
      exact hpack
    · cases h
  · split at h <;> cases h

theorem exponent_of_read_zero (h : f.read bits = .finite negative 0 e) : e = f.leastExponent := by
  have hpositive := Nat.two_pow_pos f.mantissaBits
  rw [read_eq] at h
  split at h
  · split at h <;> cases h
  · split at h
    · simp only [Reading.finite.injEq] at h
      exact h.2.2.symm
    · simp only [Reading.finite.injEq] at h
      omega

theorem ofReading_read (hq : 2 < 2 ^ f.exponentBits) (hbits : bits < 2 * f.signWeight)
    (hnan : f.read bits ≠ .nan) : f.ofReading (f.read bits) = bits := by
  rcases hread : f.read bits with _ | negative | ⟨negative, m, e⟩
  · exact absurd hread hnan
  · exact bits_of_read_infinite hbits hread
  · by_cases hm : m = 0
    · subst hm
      have hpattern := bits_of_read hbits hread
      simpa [exponent_of_read_zero hread, ofReading, ofRatio] using hpattern
    · obtain ⟨hcanonical, hfinite⟩ := canonical_of_read hq hm hread
      rw [ofReading_exact hcanonical hfinite hm rfl]
      exact bits_of_read hbits hread

end BinaryFormat

open BinaryFormat (Reading)

namespace Binary32

theorem bits_lt (x : Binary32) : x.bits.toNat < 2 * BinaryFormat.single.signWeight :=
  x.bits.toNat_lt

variable {x : Binary32} {negative : Bool} {m : Nat} {e : Int}

theorem read_widen_finite (h : x.read = .finite negative m e) (hm : m ≠ 0) :
    ∃ wide exponent, x.widen.read = .finite negative wide exponent ∧ wide ≠ 0
      ∧ wide * 2 ^ (exponent - e).toNat = m * 2 ^ (e - exponent).toNat := by
  obtain ⟨hcanonical, hfinite⟩ := BinaryFormat.canonical_of_read (by decide) hm h
  have hsize : m.log2 ≤ 23 := hcanonical.log2_le.1
  have hleast : -149 ≤ e := hcanonical.least
  have hhigh : (e - -149).toNat + 1 < 255 := hfinite
  have hlow : 2 ^ m.log2 * 2 ^ (52 - m.log2) ≤ m * 2 ^ (52 - m.log2) :=
    Nat.mul_le_mul_right _ (Nat.log2_self_le hm)
  have hbelow : m * 2 ^ (52 - m.log2) < 2 ^ (m.log2 + 1) * 2 ^ (52 - m.log2) :=
    Nat.mul_lt_mul_of_pos_right Nat.lt_log2_self (Nat.two_pow_pos _)
  rw [← Nat.pow_add, show m.log2 + (52 - m.log2) = 52 by omega] at hlow
  rw [← Nat.pow_add, show m.log2 + 1 + (52 - m.log2) = 53 by omega] at hbelow
  have hwide : BinaryFormat.double.Canonical (m * 2 ^ (52 - m.log2)) (e + m.log2 - 52) := by
    refine ⟨by omega, ?_, hbelow, .inl hlow⟩
    change (-1074 : Int) ≤ _
    omega
  have hfield : (e + m.log2 - 52 - -1074).toNat + 1 < 2047 := by omega
  have hexact : m * 2 ^ (e - (e + m.log2 - 52)).toNat
      = m * 2 ^ (52 - m.log2) * 2 ^ (e + m.log2 - 52 - e).toNat := by
    rw [show (e - (e + m.log2 - 52)).toNat = 52 - m.log2 by omega,
      show (e + m.log2 - 52 - e).toNat = 0 by omega, Nat.pow_zero, Nat.mul_one]
  have hpattern : BinaryFormat.double.ofReading (.finite negative m e) = _ :=
    BinaryFormat.ofReading_exact hwide hfield hm hexact
  have hword : BinaryFormat.double.ofReading (.finite negative m e) < 2 ^ 64 := by
    have hbound : (e + m.log2 - 52 - -1074).toNat * 2 ^ 52 + m * 2 ^ (52 - m.log2) < 2 ^ 63 := by omega
    rw [hpattern]
    cases negative
    · rw [if_neg (by decide), Nat.zero_add]
      exact Nat.lt_trans hbound (by decide)
    · exact Nat.add_lt_add_left hbound (2 ^ 63)
  refine ⟨m * 2 ^ (52 - m.log2), e + m.log2 - 52, ?_, by omega, hexact.symm⟩
  change BinaryFormat.double.read (Binary64.ofReading x.read).bits.toNat = _
  rw [h]
  change BinaryFormat.double.read (BinaryFormat.double.ofReading (.finite negative m e)).toUInt64.toNat = _
  rw [UInt64.toNat_ofNat', Nat.mod_eq_of_lt hword, hpattern]
  exact BinaryFormat.read_pack_canonical hwide hfield

theorem narrow_widen (h : x.read ≠ .nan) : x.widen.narrow = x := by
  have hback := BinaryFormat.ofReading_read (by decide) x.bits_lt h
  have hword : ∀ n, n = x.bits.toNat → (⟨n.toUInt32⟩ : Binary32) = x := by
    rintro _ rfl
    cases x
    simp
  apply hword
  rcases hread : x.read with _ | negative | ⟨negative, m, e⟩
  · exact absurd hread h
  · have hwide : x.widen.read = .infinite negative := by
      rw [widen, hread]
      cases negative <;> decide
    rw [hwide, ← hread]
    exact hback
  · by_cases hm : m = 0
    · subst hm
      have hpattern := BinaryFormat.bits_of_read x.bits_lt hread
      have he := BinaryFormat.exponent_of_read_zero hread
      rw [he] at hread hpattern
      have hwide : x.widen.read = .finite negative 0 (-1074) := by
        rw [widen, hread]
        cases negative <;> decide
      rw [hwide]
      simpa [BinaryFormat.ofReading, BinaryFormat.ofRatio] using hpattern
    · obtain ⟨wide, exponent, hwide, hne, heq⟩ := read_widen_finite hread hm
      obtain ⟨hcanonical, hfinite⟩ := BinaryFormat.canonical_of_read (by decide) hm hread
      rw [hwide, BinaryFormat.ofReading_exact hcanonical hfinite hne heq]
      exact BinaryFormat.bits_of_read x.bits_lt hread

theorem widen_narrow_widen (x : Binary32) : x.widen.narrow.widen = x.widen := by
  by_cases h : x.read = .nan
  · have hwide : x.widen = Binary64.ofReading .nan := by rw [widen, h]
    rw [hwide]
    decide
  · rw [narrow_widen h]

end Binary32

end RelationalMapping
