import EntityStore.Connection.Link
import EntityStore.Proofs.Encryption
import EntityStore.Proofs.Thresholds

/-! # Limits of time

A server is told in whole seconds how long a connection may take to be made, and in whole milliseconds
how long a statement may run; zero milliseconds would mean no limit. Seconds are rounded up, so no limit
is lost. Milliseconds are rounded down, and a span below a millisecond leaves none.
-/
namespace EntityStore

namespace Binary64

/-! ## Integer parts -/

section Parts

variable {m : ℕ} {e : ℤ} {h : isNormalForm m e = true}

/-- A number that is not negative is a fraction of naturals. -/
theorem ratio?_natural : ∃ num den : ℕ, (finite false m e h).ratio? = some ((num : ℤ), den) ∧
    (num : ℚ) / den = dyadic m e := by
  obtain ⟨n, d, hr, hd, hv⟩ := ratio?_finite false m e h
  have hdq : (0 : ℚ) < d := by exact_mod_cast hd
  simp only [Bool.false_eq_true, if_false] at hv
  have hn : (0 : ℚ) ≤ n := by
    have hmul : (n : ℚ) = dyadic m e * d := (div_eq_iff hdq.ne').mp hv
    rw [hmul]
    exact mul_nonneg (dyadic_nonneg m e) hdq.le
  obtain ⟨num, rfl⟩ := Int.eq_ofNat_of_zero_le (by exact_mod_cast hn : (0 : ℤ) ≤ n)
  rw [Int.cast_natCast] at hv
  exact ⟨num, d, hr, hv⟩

theorem truncate?_finite : (finite false m e h).truncate? = some ⌊dyadic m e⌋ := by
  obtain ⟨num, den, hr, hv⟩ := @ratio?_natural m e h
  have hfloor := Rat.floor_intCast_div_natCast num den
  rw [Int.cast_natCast, hv] at hfloor
  simp only [truncate?, hr, Option.map_some, hfloor,
    Int.tdiv_eq_ediv_of_nonneg (Int.natCast_nonneg num)]

theorem ceil?_finite : (finite false m e h).ceil? = some ⌈dyadic m e⌉ := by
  obtain ⟨num, den, hr, hv⟩ := @ratio?_natural m e h
  have hceil := Rat.ceil_intCast_div_natCast num den
  rw [Int.cast_natCast, hv] at hceil
  simp only [ceil?, hr, Option.map_some, hceil,
    Int.fdiv_eq_ediv_of_nonneg _ (Int.natCast_nonneg den)]

/-- Of a number with places after the point, the integer part leaves less than one unit by at least a
last place. -/
theorem fract_dyadic_le (k : ℕ) (he : e ≤ 0) : dyadic k e ≤ ⌊dyadic k e⌋ + (1 - 2 ^ e) := by
  obtain ⟨n, rfl⟩ := Int.exists_eq_neg_ofNat he
  have hpow : (0 : ℚ) < 2 ^ n := by positivity
  have hv : dyadic k (-n) = (k : ℚ) / (2 ^ n : ℕ) := by
    rw [dyadic, zpow_neg, zpow_natCast, div_eq_mul_inv]
    push_cast
    rfl
  have hfloor : ⌊dyadic k (-n)⌋ = ((k / 2 ^ n : ℕ) : ℤ) := by
    rw [hv, Rat.floor_natCast_div_natCast]
    rfl
  have hmod : k % 2 ^ n + 1 ≤ 2 ^ n := Nat.mod_lt k (by positivity)
  have hsplit := Nat.div_add_mod' k (2 ^ n)
  rw [hfloor, hv, zpow_neg, zpow_natCast, div_le_iff₀ (by exact_mod_cast hpow)]
  generalize k / 2 ^ n = q at hsplit ⊢
  generalize k % 2 ^ n = r at hmod hsplit
  have hsplitq : (q : ℚ) * 2 ^ n + r = k := by exact_mod_cast hsplit
  have hmodq : (r : ℚ) + 1 ≤ 2 ^ n := by exact_mod_cast hmod
  push_cast
  rw [add_mul, sub_mul, inv_mul_cancel₀ hpow.ne']
  linarith

end Parts

/-! ## Rounding a fraction, then taking its integer part -/

section Rounded

variable {num den : ℕ}

theorem rounded_le_pow (hd : 0 < den) {j : ℤ} (hj : lastPlace num den ≤ j)
    (h : (num : ℚ) / den ≤ 2 ^ j) : rounded num den ≤ 2 ^ j := by
  obtain ⟨i, hi⟩ := Int.le.dest hj
  have hpow : dyadic (2 ^ i) (lastPlace num den) = 2 ^ j := by
    rw [dyadic_two_pow, add_comm, hi]
  have hle : roundedMantissa num den ≤ 2 ^ i := roundedMantissa_le hd (by rwa [hpow])
  rw [← hpow, rounded, dyadic, dyadic]
  exact mul_le_mul_of_nonneg_right (by exact_mod_cast hle) (by positivity)

theorem pow_le_rounded (hd : 0 < den) {j : ℤ} (hj : lastPlace num den ≤ j)
    (h : 2 ^ j ≤ (num : ℚ) / den) : 2 ^ j ≤ rounded num den := by
  obtain ⟨i, hi⟩ := Int.le.dest hj
  have hpow : dyadic (2 ^ i) (lastPlace num den) = 2 ^ j := by
    rw [dyadic_two_pow, add_comm, hi]
  have hle : 2 ^ i ≤ roundedMantissa num den := le_roundedMantissa hd (by rwa [hpow])
  rw [← hpow, rounded, dyadic, dyadic]
  exact mul_le_mul_of_nonneg_right (by exact_mod_cast hle) (by positivity)

/-- A fraction is rounded to one or above from half a last place below one on. -/
theorem one_le_rounded_iff (hn : 0 < num) (hd : 0 < den) :
    1 ≤ rounded num den ↔ 1 - 1 / 2 ^ 54 ≤ (num : ℚ) / den := by
  obtain ⟨hb1, hb2⟩ := binade_spec hn hd
  rcases lt_trichotomy (binade num den) (-1) with hb | hb | hb
  · -- below one half
    have hlast : lastPlace num den ≤ -1 := by
      simp only [lastPlace, minExponent]
      omega
    have hhalf : (num : ℚ) / den ≤ 2 ^ (-1 : ℤ) :=
      hb2.le.trans (zpow_le_zpow_right₀ (by norm_num) (by omega))
    have hsmall := rounded_le_pow hd hlast hhalf
    norm_num at hhalf hsmall ⊢
    constructor <;> intro h <;> linarith
  · -- between one half and one, where halves of the last place decide
    have hlast : lastPlace num den = -53 := by
      simp only [lastPlace, minExponent]
      omega
    have hmantissa := @le_roundedMantissa_iff num den (2 ^ 53) hd (by norm_num)
    have hplace : (0 : ℚ) < 2 ^ (-53 : ℤ) := by positivity
    have hone : dyadic (2 ^ 53) (-53) = 1 := by
      rw [dyadic_two_pow]
      norm_num
    rw [hlast, hone] at hmantissa
    have hrounded : 1 ≤ rounded num den ↔ 2 ^ 53 ≤ roundedMantissa num den := by
      rw [← hone, rounded, hlast, dyadic, dyadic, mul_le_mul_iff_left₀ hplace]
      exact_mod_cast Iff.rfl
    rw [hrounded, hmantissa]
    norm_num
  · have hlast : lastPlace num den ≤ binade num den := by
      simp only [lastPlace, minExponent]
      omega
    have hone : (1 : ℚ) ≤ 2 ^ binade num den := one_le_zpow₀ (by norm_num) (by omega)
    have hlarge : 1 ≤ rounded num den := hone.trans (pow_le_rounded hd hlast hb1)
    have hv : (1 : ℚ) ≤ (num : ℚ) / den := hone.trans hb1
    norm_num at hlarge hv ⊢
    constructor <;> intro h <;> linarith

/-- Where the last place is no finer than one, nothing is left after the point. -/
theorem floor_rounded (h : 0 ≤ lastPlace num den) :
    (⌊rounded num den⌋ : ℚ) = rounded num den := by
  obtain ⟨n, hn⟩ := Int.eq_ofNat_of_zero_le h
  have hint : rounded num den = ((roundedMantissa num den * 2 ^ n : ℕ) : ℤ) := by
    rw [rounded, dyadic, hn, zpow_natCast]
    push_cast
    rfl
  rw [hint, Int.floor_intCast]

theorem floor_rounded_near (hd : 0 < den) (h : lastPlace num den ≤ 0) :
    |(⌊rounded num den⌋ : ℚ) - (num : ℚ) / den| ≤ 1 := by
  have hplace : (2 : ℚ) ^ lastPlace num den ≤ 1 := zpow_le_one_of_nonpos₀ (by norm_num) h
  have hpos : (0 : ℚ) < 2 ^ lastPlace num den := by positivity
  obtain ⟨habove, hbelow⟩ := abs_sub_le_iff.mp (roundedMantissa_near num hd)
  have hfract := fract_dyadic_le (roundedMantissa num den) h
  have hfloor : (⌊rounded num den⌋ : ℚ) ≤ rounded num den := Int.floor_le _
  rw [rounded] at hfloor ⊢
  rw [abs_sub_le_iff]
  constructor <;> linarith

theorem floor_rounded_proportionate (hn : 0 < num) (hd : 0 < den) (h : 0 ≤ lastPlace num den) :
    |(⌊rounded num den⌋ : ℚ) - (num : ℚ) / den| ≤ (num : ℚ) / den / 2 ^ 53 := by
  have hlast : lastPlace num den = binade num den - 52 := by
    simp only [lastPlace, minExponent] at h ⊢
    omega
  rw [floor_rounded h]
  calc |rounded num den - (num : ℚ) / den| ≤ 2 ^ lastPlace num den / 2 := roundedMantissa_near num hd
    _ = 2 ^ binade num den / 2 ^ 53 := by
        rw [hlast, zpow_sub₀ (by norm_num), div_div]
        norm_num
    _ ≤ (num : ℚ) / den / 2 ^ 53 :=
        div_le_div_of_nonneg_right (binade_spec hn hd).1 (by positivity)

/-- Up to `2 ^ 54` the integer part of the rounded fraction is within one of the fraction. -/
theorem floor_rounded_within (hn : 0 < num) (hd : 0 < den) (h : (num : ℚ) / den ≤ 2 ^ 54) :
    |(⌊rounded num den⌋ : ℚ) - (num : ℚ) / den| ≤ 1 := by
  obtain ⟨hb1, hb2⟩ := binade_spec hn hd
  have hbinade : binade num den < 55 := by
    refine (zpow_lt_zpow_iff_right₀ (by norm_num : (1 : ℚ) < 2)).mp ((hb1.trans h).trans_lt ?_)
    norm_num
  rcases le_or_gt (lastPlace num den) 0 with hlow | hhigh
  · exact floor_rounded_near hd hlow
  · have hlast : lastPlace num den = binade num den - 52 := by
      simp only [lastPlace, minExponent] at hhigh ⊢
      omega
    by_cases htop : binade num den = 54
    · -- the bound itself, which is not changed
      have hle : lastPlace num den ≤ 54 := by omega
      rw [htop] at hb1
      have hupper := rounded_le_pow hd hle (by exact_mod_cast h)
      have hlower := pow_le_rounded hd hle hb1
      rw [floor_rounded hhigh.le, abs_sub_le_iff]
      norm_num at hb1 hupper hlower h ⊢
      constructor <;> linarith
    · have hone : lastPlace num den = 1 := by omega
      have hnear := roundedMantissa_near num hd
      rw [floor_rounded hhigh.le, rounded]
      rw [hone] at hnear ⊢
      simpa using hnear

end Rounded

end Binary64

namespace Seconds

/-! ## Spans -/

/-- The length of a span, if it ends. -/
def length? : Seconds → Option ℚ
  | whole n => some n
  | given x => x.toRat?

/-- The spans that settings can hold: the standard one, or one above zero that was given. -/
inductive Read (standard : ℕ) : Seconds → Prop where
  | standard : Read standard (.whole standard)
  | given (x : Binary64) (positive : Settings.isPositive x = true) : Read standard (.given x)

/-- How a count of milliseconds fits a span. -/
structure Counted (span : ℚ) (millis : ℤ) : Prop where
  limiting : 1 ≤ millis ↔ 1 - 1 / 2 ^ 54 ≤ 1000 * span
  near : 1000 * span ≤ 2 ^ 54 → |millis - 1000 * span| ≤ 1
  proportionate : |millis - 1000 * span| ≤ 1 ∨ |millis - 1000 * span| ≤ 1000 * span / 2 ^ 53

/-- What a server is told of two limits: whole seconds for the one, whole milliseconds for the other. -/
structure Told (connect statement : ℚ) (seconds millis : ℤ) : Prop where
  lasting : connect ≤ seconds
  rounding : seconds < connect + 1
  connecting : 1 ≤ seconds
  counted : Counted statement millis

variable {standard : ℕ} {d : Seconds} {q : ℚ}

theorem positive_cases {x : Binary64} (h : Settings.isPositive x = true) :
    x = .infinity false ∨ ∃ m e hf, x = .finite false m e hf ∧ 0 < m := by
  cases x with
  | finite s m e hf =>
    simp only [Settings.isPositive, Bool.and_eq_true, Bool.not_eq_true', decide_eq_true_eq] at h
    obtain ⟨rfl, hm⟩ := h
    exact .inr ⟨m, e, hf, rfl, Nat.pos_of_ne_zero hm⟩
  | infinity s =>
    simp only [Settings.isPositive, Bool.not_eq_true'] at h
    exact .inl (by rw [h])
  | nan => cases h

/-- A span of some length was given as a finite number, or is the standard one. -/
theorem Read.cases_length (hr : d.Read standard) (h : d.length? = some q) :
    d = .whole standard ∧ q = standard ∨
      ∃ m e hf, d = .given (.finite false m e hf) ∧ 0 < m ∧ q = Binary64.dyadic m e := by
  cases hr with
  | standard =>
    cases h
    exact .inl ⟨rfl, rfl⟩
  | given x hx =>
    obtain rfl | ⟨m, e, hf, rfl, hm⟩ := positive_cases hx
    · cases h
    · rw [length?, Binary64.toRat?_finite, Option.some.injEq] at h
      exact .inr ⟨m, e, hf, rfl, hm, h.symm⟩

theorem Read.endless (hr : d.Read standard) (h : d.length? = none) :
    d = .given (.infinity false) := by
  cases hr with
  | standard => cases h
  | given x hx =>
    obtain rfl | ⟨m, e, hf, rfl, -⟩ := positive_cases hx
    · rfl
    · simp [length?, Binary64.toRat?_finite] at h

theorem Read.length_pos (hr : d.Read standard) (hs : 0 < standard) (h : d.length? = some q) :
    0 < q := by
  obtain ⟨-, rfl⟩ | ⟨m, e, hf, -, hm, rfl⟩ := hr.cases_length h
  · exact_mod_cast hs
  · rw [Binary64.dyadic]
    positivity

/-! ## Seconds -/

theorem ceil?_of_length (hr : d.Read standard) (h : d.length? = some q) : d.ceil? = some ⌈q⌉ := by
  obtain ⟨rfl, rfl⟩ | ⟨m, e, hf, rfl, -, rfl⟩ := hr.cases_length h
  · simp [ceil?]
  · exact Binary64.ceil?_finite

/-! ## Milliseconds -/

/-- A thousand times a number is rounded once, then its integer part is taken. -/
theorem scale_finite (m : ℕ) (e : ℤ) (hf : Binary64.isNormalForm m e = true) (hm : 0 < m) :
    ∃ num den : ℕ, 0 < num ∧ 0 < den ∧ (num : ℚ) / den = 1000 * Binary64.dyadic m e ∧
      (Binary64.finite false m e hf).scale 1000 = .ofRatio false num den := by
  rcases le_or_gt 0 e with he | he
  · lift e to ℕ using he
    refine ⟨m * 1000 * 2 ^ e, 1, by positivity, Nat.one_pos, ?_, by simp [Binary64.scale]⟩
    rw [Binary64.dyadic, zpow_natCast]
    push_cast
    ring
  · obtain ⟨n, rfl⟩ := Int.exists_eq_neg_ofNat he.le
    refine ⟨m * 1000, 2 ^ n, by positivity, by positivity, ?_, ?_⟩
    · rw [Binary64.dyadic, zpow_neg, zpow_natCast]
      push_cast
      ring
    · simp only [Binary64.scale, if_neg (not_le.mpr he), neg_neg, Int.toNat_natCast, Nat.pow_eq]

theorem counted_whole {n : ℕ} (hn : 0 < n) : Counted n (n * 1000 : ℕ) := by
  have hexact : |(((n * 1000 : ℕ) : ℤ) : ℚ) - 1000 * (n : ℚ)| ≤ 1 := by
    push_cast
    rw [mul_comm, sub_self, abs_zero]
    norm_num
  have hone : (1 : ℚ) ≤ n := by exact_mod_cast hn
  refine ⟨?_, fun _ => hexact, .inl hexact⟩
  constructor
  · intro _
    norm_num
    linarith
  · intro _
    omega

theorem counted_rounded {num den : ℕ} (hn : 0 < num) (hd : 0 < den)
    (hq : (num : ℚ) / den = 1000 * q) : Counted q ⌊Binary64.rounded num den⌋ := by
  refine ⟨?_, ?_, ?_⟩
  · rw [Int.le_floor, Int.cast_one, Binary64.one_le_rounded_iff hn hd, hq]
  · intro hle
    rw [← hq] at hle ⊢
    exact Binary64.floor_rounded_within hn hd hle
  · rw [← hq]
    rcases le_total 0 (Binary64.lastPlace num den) with hl | hl
    · exact .inr (Binary64.floor_rounded_proportionate hn hd hl)
    · exact .inl (Binary64.floor_rounded_near hd hl)

/-- A span has milliseconds unless they are too many for a binary number. -/
theorem millis?_of_lt (hr : d.Read standard) (hs : 0 < standard) (h : d.length? = some q)
    (hq : 1000 * q < Binary64.overflowBound) : ∃ n, d.millis? = some n ∧ Counted q n := by
  obtain ⟨rfl, rfl⟩ | ⟨m, e, hf, rfl, hm, rfl⟩ := hr.cases_length h
  · exact ⟨_, rfl, counted_whole hs⟩
  · obtain ⟨num, den, hn, hd, hv, hscale⟩ := scale_finite m e hf hm
    rw [← hv] at hq
    obtain ⟨m', e', hf', hr', hrounded⟩ := Binary64.ofRatio_rounded false hn hd hq
    refine ⟨⌊Binary64.rounded num den⌋, ?_, counted_rounded hn hd hv⟩
    rw [millis?, hscale, hr', Binary64.truncate?_finite, hrounded]

theorem millis?_of_le (hr : d.Read standard) (hs : 1000 * (standard : ℚ) < Binary64.overflowBound)
    (h : d.length? = some q) (hq : Binary64.overflowBound ≤ 1000 * q) : d.millis? = none := by
  obtain ⟨-, rfl⟩ | ⟨m, e, hf, rfl, hm, rfl⟩ := hr.cases_length h
  · exact absurd hq (not_le.mpr hs)
  · obtain ⟨num, den, hn, hd, hv, hscale⟩ := scale_finite m e hf hm
    rw [millis?, hscale, Binary64.ofRatio_overflow false hn hd (hv ▸ hq)]
    rfl

end Seconds

namespace Settings

open Reading

variable {entries : Entries} {s : Settings}

/-! ## What a server is told -/

theorem span_read {key : String} {standard : ℕ} {d : Seconds}
    (h : optional entries key (.whole standard) span = .ok d) : d.Read standard := by
  cases hv : Value.entry? entries key with
  | none =>
    rw [optional_absent hv] at h
    cases h
    exact .standard
  | some v =>
    rw [optional_present hv, span, Gathered.ofRefusal_ok] at h
    obtain ⟨x, -, h⟩ := bind_ok.mp h
    split at h
    · rename_i hpositive
      cases h
      exact .given x hpositive
    · cases h

/-- The limits of some settings, where both end and the second one can be counted in milliseconds. -/
structure Limits (s : Settings) (connect statement : ℚ) : Prop where
  connecting : s.connectTimeout.length? = some connect
  running : s.statementTimeout.length? = some statement
  countable : 1000 * statement < Binary64.overflowBound

theorem link_of_backend (hb : s.backend = .ok "postgresql") :
    Link.ofSettings s = .ok ⟨s, .postgresql⟩ := by
  rw [Link.ofSettings, hb]
  rfl

theorem thousand_lt_overflowBound {n : ℚ} (h : n ≤ 30) :
    1000 * n < Binary64.overflowBound := by
  refine lt_of_lt_of_le ?_ Binary64.overflowBound_bounds.1
  calc 1000 * n ≤ 30000 := by linarith
    _ < 2 ^ (15 : ℤ) := by norm_num
    _ ≤ 2 ^ (1023 : ℤ) := zpow_le_zpow_right₀ (by norm_num) (by norm_num)

/-- What a server is told of the limits of any settings that can be read. The time to connect is rounded up to
whole seconds. The time for a statement is told in milliseconds, as they are counted. Where a limit is endless
or cannot be counted, no connection can be made. -/
theorem limits_told (h : read entries = .ok s) (hb : s.backend = .ok "postgresql") :
    ∃ link, Link.ofSettings s = .ok link ∧
      (∀ connect statement, s.Limits connect statement → ∃ seconds millis,
        link.poolOptions = .ok (.server s.poolSize s.connectTimeout s.idleTimeout seconds s.sslMode
          millis) ∧ Seconds.Told connect statement seconds millis) ∧
      ((∀ connect statement, ¬ s.Limits connect statement) →
        link.poolOptions = .error Link.endless) := by
  have hread := readFrom_of_read h
  have hconnect := span_read hread.connectTimeout
  have hstatement := span_read hread.statementTimeout
  refine ⟨_, link_of_backend hb, ?_, ?_⟩
  · rintro c t ⟨hc, ht, hcount⟩
    obtain ⟨millis, hmillis, hcounted⟩ :=
      Seconds.millis?_of_lt hstatement (by norm_num) ht hcount
    have hseconds := Seconds.ceil?_of_length hconnect hc
    have hpos := hconnect.length_pos (by norm_num) hc
    refine ⟨⌈c⌉, millis, ?_, Int.le_ceil c, Int.ceil_lt_add_one c, Int.one_le_ceil_iff.mpr hpos,
      hcounted⟩
    simp only [Link.poolOptions, hmillis, hseconds]
  · intro hnone
    have hmissing : s.statementTimeout.millis? = none ∨ s.connectTimeout.ceil? = none := by
      cases hc : s.connectTimeout.length? with
      | none =>
        rw [hconnect.endless hc]
        exact .inr rfl
      | some c =>
        cases ht : s.statementTimeout.length? with
        | none =>
          rw [hstatement.endless ht]
          exact .inl rfl
        | some t =>
          have hlarge : Binary64.overflowBound ≤ 1000 * t := by
            by_contra hlt
            exact hnone c t ⟨hc, ht, not_le.mp hlt⟩
          exact .inl (Seconds.millis?_of_le hstatement
            (thousand_lt_overflowBound (by norm_num)) ht hlarge)
    rcases hmissing with hmillis | hseconds
    · simp only [Link.poolOptions, hmillis]
    · cases hm : s.statementTimeout.millis? <;> simp only [Link.poolOptions, hm, hseconds]

/-- Settings of a server with limits that are no whole numbers of seconds. -/
def prompt : Settings :=
  { url := some "postgresql://app@db/forms"
    connectTimeout := .given (.ofRatio false 5 2)
    statementTimeout := .given (.ofRatio false 1 4) }

theorem prompt_told :
    read [("url", .text "postgresql://app@db/forms"), ("connect_timeout", .text "2.5"),
      ("statement_timeout", .text "0.25")] = .ok prompt ∧ prompt.backend = .ok "postgresql" ∧
    prompt.Limits (5 / 2) (1 / 4) ∧ ∃ link seconds millis, Link.ofSettings prompt = .ok link ∧
      link.poolOptions = .ok (.server 10 prompt.connectTimeout (.whole 20) seconds .prefer millis) ∧
      Seconds.Told (5 / 2) (1 / 4) seconds millis := by
  have hread : read [("url", .text "postgresql://app@db/forms"), ("connect_timeout", .text "2.5"),
      ("statement_timeout", .text "0.25")] = .ok prompt := ok_of_toOption (by decide +kernel)
  have hbackend : prompt.backend = .ok "postgresql" := ok_of_toOption (by decide +kernel)
  have hlimits : prompt.Limits (5 / 2) (1 / 4) :=
    ⟨by decide +kernel, by decide +kernel, thousand_lt_overflowBound (by norm_num)⟩
  obtain ⟨link, hlink, htold, -⟩ := limits_told hread hbackend
  obtain ⟨seconds, millis, hoptions, h⟩ := htold _ _ hlimits
  exact ⟨hread, hbackend, hlimits, link, seconds, millis, hlink, hoptions, h⟩

/-- Settings of a server with a limit below a millisecond. -/
def brief : Settings :=
  { url := some "postgresql://app@db/forms"
    statementTimeout := .given (.ofRatio false 4 10000) }

/-- A statement that may run for less than a millisecond is not limited at all. -/
theorem brief_unlimited : ∃ link, read [("url", .text "postgresql://app@db/forms"),
      ("statement_timeout", .text "0.0004")] = .ok brief ∧ brief.backend = .ok "postgresql" ∧
    Link.ofSettings brief = .ok link ∧
    link.poolOptions = .ok (.server 10 (.whole 10) (.whole 20) 10 .prefer 0) := by
  have hread : read [("url", .text "postgresql://app@db/forms"),
      ("statement_timeout", .text "0.0004")] = .ok brief := ok_of_toOption (by decide +kernel)
  have hbackend : brief.backend = .ok "postgresql" := ok_of_toOption (by decide +kernel)
  exact ⟨_, hread, hbackend, link_of_backend hbackend, ok_of_toOption (by decide +kernel)⟩

end Settings

end EntityStore
