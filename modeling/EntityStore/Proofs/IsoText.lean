import EntityStore.Database.Binding
import EntityStore.Proofs.DigitText
import EntityStore.Store.Clock
import Mathlib.Data.List.Basic
import Mathlib.Data.List.Flatten
import Mathlib.Data.List.TakeWhile

/-! # Dates and times as texts

The texts in which dates and times are stored are read back as what was written, and none of them
spells a number.
-/
namespace EntityStore

namespace Iso

/-! ## Bytes of a text -/

theorem toList_loop (bs : ByteArray) (i : ℕ) (r : List UInt8) :
    ByteArray.toList.loop bs i r = r.reverse ++ bs.data.toList.drop i := by
  fun_induction ByteArray.toList.loop bs i r with
  | case1 i r hi ih =>
    have hi : i < bs.data.toList.length := by simpa using hi
    have hb : bs.get! i = bs.data.toList[i] := by
      cases bs with
      | mk data =>
        have hi : i < data.size := by simpa using hi
        simp [ByteArray.get!, hi]
    rw [ih, hb, List.reverse_cons, List.append_assoc, List.singleton_append,
      ← List.drop_eq_getElem_cons hi]
  | case2 i r hi =>
    rw [List.drop_eq_nil_of_le (by simpa using hi), List.append_nil]

theorem bytesOf_eq (s : String) : bytesOf s = s.toList.flatMap String.utf8EncodeChar := by
  have hs : s.toByteArray = (s.toList.flatMap String.utf8EncodeChar).toByteArray := by
    conv_lhs => rw [← String.ofList_toList (s := s), String.toByteArray_ofList]
    rfl
  rw [bytesOf, String.toUTF8_eq_toByteArray, ByteArray.toList, toList_loop, hs]
  simp

/-- The byte of an ASCII character. -/
def byte (c : Char) : UInt8 := c.val.toUInt8

theorem bytesOf_ascii {s : String} (h : ∀ c ∈ s.toList, c.toNat < 128) :
    bytesOf s = s.toList.map byte := by
  rw [bytesOf_eq, List.map_eq_flatMap]
  refine List.flatMap_congr ?_
  intro c hc
  have hv : c.val ≤ 127 := by
    have := h c hc
    rw [UInt32.le_iff_toNat_le]
    exact Nat.le_of_lt_succ this
  exact String.utf8EncodeChar_eq_singleton (Char.utf8Size_eq_one_iff.mpr hv)

/-! ## Digits -/

theorem toNat_byte_digit {c : Char} (h : c.isDigit = true) : (byte c).toNat = c.toNat := by
  have hb := digit_bounds h
  rw [byte, UInt32.toNat_toUInt8]
  exact Nat.mod_eq_of_lt (show c.toNat < 256 by omega)

theorem digit?_byte {c : Char} (h : c.isDigit = true) : digit? (byte c) = some (c.toNat - 48) := by
  rw [digit?, toNat_byte_digit h, if_pos (digit_bounds h)]

/-- Bytes of digits are read as the number they spell. -/
theorem takeDigits_map {ds : List Char} (h : ∀ c ∈ ds, c.isDigit = true) (rest : Bytes) :
    takeDigits ds.length (ds.map byte ++ rest) = some (Nat.ofDigitChars 10 ds 0, rest) := by
  induction ds with
  | nil => rfl
  | cons c ds ih =>
    have ih := ih fun d hd => h d (List.mem_cons_of_mem _ hd)
    have hv : Nat.ofDigitChars 10 (c :: ds) 0 =
        (c.toNat - 48) * 10 ^ ds.length + Nat.ofDigitChars 10 ds 0 := by
      rw [Nat.ofDigitChars_cons, Nat.ofDigitChars_eq_ofDigitChars_zero, Nat.mul_comm]
      simp
    rw [List.length_cons, List.map_cons, List.cons_append, takeDigits, digit?_byte (h c (by simp))]
    simp only [ih, Option.bind_eq_bind, Option.bind_some, hv, Nat.pow_eq]

theorem takeDigits_padded {width n : ℕ} (hw : 0 < width) (hn : n < 10 ^ width) (rest : Bytes) :
    takeDigits width ((paddedDigits width n).map byte ++ rest) = some (n, rest) := by
  have h := @takeDigits_map (paddedDigits width n) (fun c hc => isDigit_paddedDigits hc) rest
  rwa [length_paddedDigits hw hn, ofDigitChars_paddedDigits] at h

theorem byte_digit {c : Char} (h : c.isDigit = true) :
    48 ≤ (byte c).toNat ∧ (byte c).toNat ≤ 57 := by
  rw [toNat_byte_digit h]
  exact digit_bounds h

/-- Padded digits begin with a digit. -/
theorem peek_padded {width n : ℕ} (hw : 0 < width) (rest : Bytes) :
    48 ≤ (peek ((paddedDigits width n).map byte ++ rest)).toNat ∧
      (peek ((paddedDigits width n).map byte ++ rest)).toNat ≤ 57 := by
  have hl := le_length_paddedDigits width n
  cases hp : paddedDigits width n with
  | nil =>
    rw [hp, List.length_nil] at hl
    omega
  | cons c cs =>
    exact byte_digit (isDigit_paddedDigits (hp ▸ List.mem_cons_self))

/-! ## Dates -/

theorem date_bounds (d : Date) : d.year < 10 ^ 4 ∧ d.month < 10 ^ 2 ∧ d.day < 10 ^ 2 := by
  have h := d.onCalendar
  simp only [isCalendarDay, Bool.and_eq_true, decide_eq_true_eq] at h
  have hm : daysInMonth d.year d.month ≤ 31 := by
    unfold daysInMonth
    split
    · split <;> omega
    · split <;> omega
  omega

def dateChars (d : Date) : List Char :=
  paddedDigits 4 d.year ++ '-' :: (paddedDigits 2 d.month ++ '-' :: paddedDigits 2 d.day)

theorem dateText_toList (d : Date) : (dateText d).toList = dateChars d := by
  simp [dateText, dateChars, padded_toList]

theorem length_dateChars (d : Date) : (dateChars d).length = 10 := by
  obtain ⟨hy, hm, hd⟩ := date_bounds d
  have hy := length_paddedDigits (show 0 < 4 by omega) hy
  have hm := length_paddedDigits (show 0 < 2 by omega) hm
  have hd := length_paddedDigits (show 0 < 2 by omega) hd
  simp [dateChars, hy, hm, hd]

theorem readDate?_dateChars (d : Date) (len : ℕ) (rest : Bytes) :
    readDate? len ((dateChars d).map byte ++ rest) = some d := by
  obtain ⟨hy, hm, hd⟩ := date_bounds d
  have hmonth := peek_padded (n := d.month) (show 0 < 2 by omega)
    (byte '-' :: ((paddedDigits 2 d.day).map byte ++ rest))
  have hw : peek ((paddedDigits 2 d.month).map byte ++
      byte '-' :: ((paddedDigits 2 d.day).map byte ++ rest)) ≠ weekMark := by
    intro h
    rw [h] at hmonth
    exact absurd hmonth (by decide)
  have hy := takeDigits_padded (show 0 < 4 by omega) hy
  have hm := takeDigits_padded (show 0 < 2 by omega) hm
  have hd := takeDigits_padded (show 0 < 2 by omega) hd
  have hp : ∀ bs : Bytes, peek (byte '-' :: bs) = hyphen := fun _ => rfl
  have hof : Date.ofParts? d.year d.month d.day = some d := dif_pos d.onCalendar
  simp only [dateChars, List.map_append, List.map_cons, List.append_assoc, List.cons_append]
  simp [readDate?, hy, hm, hd, hp, hw, hof]

/-- The characters that dates and times are written in. -/
def isMomentChar (c : Char) : Bool := c.isDigit || c = '-' || c = ' ' || c = ':' || c = '.'

theorem toNat_momentChar {c : Char} (h : isMomentChar c = true) :
    c.toNat = 32 ∨ c.toNat = 45 ∨ c.toNat = 46 ∨ 48 ≤ c.toNat ∧ c.toNat ≤ 58 := by
  simp only [isMomentChar, Bool.or_eq_true, decide_eq_true_eq] at h
  rcases h with (((h | rfl) | rfl) | rfl) | rfl
  · have := digit_bounds h
    omega
  all_goals decide

theorem isMomentChar_padded {width n : ℕ} {c : Char} (h : c ∈ paddedDigits width n) :
    isMomentChar c = true := by
  simp [isMomentChar, isDigit_paddedDigits h]

theorem isMomentChar_date {d : Date} {c : Char} (h : c ∈ dateChars d) : isMomentChar c = true := by
  simp only [dateChars, List.mem_append, List.mem_cons] at h
  rcases h with h | rfl | h | rfl | h
  · exact isMomentChar_padded h
  · rfl
  · exact isMomentChar_padded h
  · rfl
  · exact isMomentChar_padded h

theorem bytesOf_moment {s : String} (h : ∀ c ∈ s.toList, isMomentChar c = true) :
    bytesOf s = s.toList.map byte := by
  refine bytesOf_ascii ?_
  intro c hc
  have := toNat_momentChar (h c hc)
  omega

theorem date?_dateText (d : Date) : date? (dateText d) = some d := by
  have hb : bytesOf (dateText d) = (dateChars d).map byte := by
    rw [bytesOf_moment, dateText_toList]
    intro c hc
    rw [dateText_toList] at hc
    exact isMomentChar_date hc
  have h := readDate?_dateChars d 10 []
  rw [List.append_nil] at h
  simp [date?, hb, length_dateChars, h]

/-! ## Moments -/

theorem clock_bounds (t : Timestamp) :
    t.hour ≤ 23 ∧ t.minute ≤ 59 ∧ t.second ≤ 59 ∧ t.micro < 10 ^ 6 ∧
      ((t.hour * 60 + t.minute) * 60 + t.second) * 1000000 + t.micro = t.micros := by
  have h := t.micros_lt
  simp only [microsPerDay] at h
  simp only [Timestamp.hour, Timestamp.minute, Timestamp.second, Timestamp.micro]
  omega

/-- A moment with its seconds, and what follows them. -/
def momentChars (t : Timestamp) (tail : List Char) : List Char :=
  dateChars t.date ++ ' ' :: (paddedDigits 2 t.hour ++ ':' :: (paddedDigits 2 t.minute ++
    ':' :: (paddedDigits 2 t.second ++ tail)))

private theorem length_pair {n : ℕ} (hn : n ≤ 59) : (paddedDigits 2 n).length = 2 :=
  length_paddedDigits (by omega) (by omega)

private theorem digits_pair {n : ℕ} (hn : n ≤ 59) (rest : Bytes) :
    takeDigits 2 ((paddedDigits 2 n).map byte ++ rest) = some (n, rest) :=
  takeDigits_padded (by omega) (by omega) rest

/-- The date ends where ten bytes were read, whatever follows it. -/
theorem separatorPlace?_date (d : Date) (b : UInt8) (rest : Bytes) :
    separatorPlace? ((dateChars d).map byte ++ b :: rest) = some 10 := by
  obtain ⟨hy, hm, -⟩ := date_bounds d
  have hy4 := length_paddedDigits (show 0 < 4 by omega) hy
  have hm2 := length_paddedDigits (show 0 < 2 by omega) hm
  have hmonth : ∀ c ∈ paddedDigits 2 d.month, byte c ≠ weekMark := by
    intro c hc hw
    have := byte_digit (isDigit_paddedDigits hc)
    rw [hw] at this
    exact absurd this (by decide)
  have hlen : ((dateChars d).map byte ++ b :: rest).length = 11 + rest.length := by
    simp [length_dateChars]
    omega
  have h4 : ((dateChars d).map byte ++ b :: rest).getD 4 0 = hyphen := by
    simp [dateChars, hy4]
    rfl
  have h5 : ((dateChars d).map byte ++ b :: rest).getD 5 0 ≠ weekMark := by
    cases hp : paddedDigits 2 d.month with
    | nil => simp [hp] at hm2
    | cons c cs =>
      have : ((dateChars d).map byte ++ b :: rest).getD 5 0 = byte c := by
        simp [dateChars, List.getElem?_append_right, hy4, hp]
      rw [this]
      exact hmonth c (by simp [hp])
  have h7 : ¬ 11 + rest.length < 7 := by omega
  have h7' : 11 + rest.length ≠ 7 := by omega
  simp only [separatorPlace?, hlen, h4, if_neg h5, if_neg h7, if_neg h7', if_true]

/-- The time of day of a moment, as a reading takes it. -/
def clockBytes (t : Timestamp) (tail : List Char) : Bytes :=
  (paddedDigits 2 t.hour ++ ':' :: (paddedDigits 2 t.minute ++
    ':' :: (paddedDigits 2 t.second ++ tail))).map byte

/-- Before a colon and two digits a clock is not at its end. -/
theorem not_past {n : ℕ} (hn : n ≤ 59) (stop : ℕ) {rest : Bytes} (hr : stop ≤ rest.length) :
    ¬ (colon :: ((paddedDigits 2 n).map byte ++ rest)).length ≤ stop + 1 := by
  rw [List.length_cons, List.length_append, List.length_map, length_pair hn]
  omega

/-- A clock is read up to its seconds, where an offset or nothing follows. -/
theorem readClock?_seconds (t : Timestamp) (zone : Bytes) :
    readClock? zone.length (clockBytes t [] ++ zone) =
      some ⟨t.hour, t.minute, t.second, 0, decide (peek zone ≠ 0)⟩ := by
  obtain ⟨hh, hm, hs, -⟩ := clock_bounds t
  have hcol : byte ':' = colon := by decide
  have hmark : ¬ (colon = 46 ∨ colon = 44) := by decide
  have hpeek : ∀ bs : Bytes, peek (colon :: bs) = colon := fun _ => rfl
  have hseconds := not_past hs zone.length le_rfl
  have hlen : zone.length ≤ (colon :: ((paddedDigits 2 t.second).map byte ++ zone)).length := by
    simp only [List.length_cons, List.length_append]
    omega
  have hminutes := not_past hm zone.length hlen
  simp only [clockBytes, List.map_append, List.map_cons, List.append_nil, hcol, List.append_assoc,
    List.cons_append]
  simp only [readClock?, digits_pair (show t.hour ≤ 59 by omega), digits_pair hm, digits_pair hs,
    hpeek, hminutes, hseconds, hmark, Option.bind_eq_bind, Option.bind_some, decide_eq_true_eq,
    List.drop_succ_cons, List.drop_zero, Nat.le_add_right, not_true_eq_false, false_and, true_and,
    ne_eq, if_false, if_true]
  rfl

/-- The same where parts of a second come between. -/
theorem readClock?_micros (t : Timestamp) (zone : Bytes) (hz : zone.dropWhile isDigit = zone) :
    readClock? zone.length (clockBytes t ('.' :: paddedDigits 6 t.micro) ++ zone) =
      some ⟨t.hour, t.minute, t.second, t.micro, decide (peek zone ≠ 0)⟩ := by
  obtain ⟨hh, hm, hs, hf, -⟩ := clock_bounds t
  have hcol : byte ':' = colon := by decide
  have hdot : byte '.' = 46 := by decide
  have hmark : ¬ (colon = 46 ∨ colon = 44) := by decide
  have hpeek : ∀ (b : UInt8) (bs : Bytes), peek (b :: bs) = b := fun _ _ => rfl
  have hmicro := takeDigits_padded (show 0 < 6 by omega) hf zone
  set micros := (paddedDigits 6 t.micro).map byte ++ zone with hmicros
  have hlen : micros.length = zone.length + 6 := by
    rw [hmicros, List.length_append, List.length_map, length_paddedDigits (by omega) hf,
      Nat.add_comm]
  have hfrac : readFraction? zone.length micros = some (t.micro, decide (peek zone ≠ 0)) := by
    have hcount : min (micros.length - zone.length) 6 = 6 := by omega
    simp only [readFraction?, hcount, hmicro, Option.bind_eq_bind, Option.bind_some, hz,
      Nat.sub_self, Nat.pow_eq, Nat.pow_zero, Nat.mul_one]
  have hend : ¬ (46 :: micros).length ≤ zone.length + 1 := by
    rw [List.length_cons]
    omega
  have hdotted : zone.length ≤ (46 :: micros).length := by omega
  have hseconds := not_past hs zone.length hdotted
  have hcolon : zone.length ≤
      (colon :: ((paddedDigits 2 t.second).map byte ++ 46 :: micros)).length := by
    rw [List.length_cons, List.length_append]
    omega
  have hminutes := not_past hm zone.length hcolon
  simp only [clockBytes, List.map_append, List.map_cons, hcol, hdot, List.append_assoc,
    List.cons_append, ← hmicros]
  simp only [readClock?, digits_pair (show t.hour ≤ 59 by omega), digits_pair hm, digits_pair hs,
    hpeek, hminutes, hseconds, hend, hmark, hfrac, Option.bind_eq_bind, Option.bind_some,
    decide_eq_true_eq, List.drop_succ_cons, List.drop_zero, not_true_eq_false, false_and, true_and,
    true_or, ne_eq, if_false, if_true]
  rfl

/-- Nothing in a clock begins an offset. -/
theorem clockBytes_unmarked {t : Timestamp} {tail : List Char}
    (htail : ∀ c ∈ tail, c.isDigit = true ∨ c = '.') :
    ∀ b ∈ clockBytes t tail, (b = 43 || b = hyphen || b = 90) = false := by
  intro b hb
  obtain ⟨c, hc, rfl⟩ := List.mem_map.mp hb
  have hch : c.isDigit = true ∨ c = '.' ∨ c = ':' := by
    simp only [List.mem_append, List.mem_cons] at hc
    rcases hc with h | h | h | h | h | h
    · exact .inl (isDigit_paddedDigits h)
    · exact .inr (.inr h)
    · exact .inl (isDigit_paddedDigits h)
    · exact .inr (.inr h)
    · exact .inl (isDigit_paddedDigits h)
    · rcases htail c h with h | h
      · exact .inl h
      · exact .inr (.inl h)
  rcases hch with hd | rfl | rfl
  · have := byte_digit hd
    have hne : ∀ x : UInt8, x.toNat < 48 ∨ 57 < x.toNat → byte c ≠ x := by
      rintro x hx rfl
      omega
    simp [hne 43 (by decide), hne hyphen (by decide), hne 90 (by decide)]
  · decide
  · decide

theorem readTime?_clock {t : Timestamp} {tail : List Char} {micro : ℕ}
    (htail : ∀ c ∈ tail, c.isDigit = true ∨ c = '.')
    (hclock : readClock? 0 (clockBytes t tail) = some ⟨t.hour, t.minute, t.second, micro, false⟩) :
    readTime? t.date (clockBytes t tail) =
      Timestamp.ofParts? t.date t.hour t.minute t.second micro none := by
  have hzone : (clockBytes t tail).dropWhile (fun b => ! (b = 43 || b = hyphen || b = 90)) = [] := by
    rw [List.dropWhile_eq_nil_iff]
    intro b hb
    rw [clockBytes_unmarked htail b hb]
    rfl
  simp only [readTime?, hzone, List.length_nil, hclock, Option.bind_eq_bind, Option.bind_some,
    Bool.false_eq_true, if_false]

/-- The offset of universal time. -/
def utcZone : List Char := ['+', '0', '0', ':', '0', '0']

theorem readTime?_utc {t : Timestamp} {tail : List Char} {micro : ℕ}
    (htail : ∀ c ∈ tail, c.isDigit = true ∨ c = '.')
    (hclock : readClock? (utcZone.map byte).length (clockBytes t tail ++ utcZone.map byte) =
      some ⟨t.hour, t.minute, t.second, micro, true⟩) :
    readTime? t.date (clockBytes t tail ++ utcZone.map byte) =
      Timestamp.ofParts? t.date t.hour t.minute t.second micro (some 0) := by
  have hsplit : utcZone.map byte = 43 :: [48, 48, 58, 48, 48] := rfl
  have hzone : (clockBytes t tail ++ 43 :: [48, 48, 58, 48, 48]).dropWhile
      (fun b => ! (b = 43 || b = hyphen || b = 90)) = 43 :: [48, 48, 58, 48, 48] := by
    rw [List.dropWhile_append_of_pos]
    · rfl
    · intro b hb
      rw [clockBytes_unmarked htail b hb]
      rfl
  have hoffset : (readClock? 0 [48, 48, 58, 48, 48]).bind
      (offsetMicros? (decide ((43 : UInt8) = hyphen))) = some 0 := by decide
  have hplus : ¬ (43 : UInt8) = 90 := by decide
  rw [hsplit] at hclock ⊢
  simp only [readTime?, hzone, hclock, Option.bind_eq_bind, Option.bind_some, if_neg hplus,
    hoffset]

theorem ofParts?_clock (t : Timestamp) {micro : ℕ} (hm : micro ≤ t.micro) (offset : Option ℤ) :
    ∃ u : Timestamp, Timestamp.ofParts? t.date t.hour t.minute t.second micro offset = some u ∧
      u.date = t.date ∧ u.micros = t.micros - t.micro + micro ∧ u.offset = offset := by
  obtain ⟨hh, hmin, hs, -, hsum⟩ := clock_bounds t
  have hlt := t.micros_lt
  have hn : ¬ (23 < t.hour ∨ 59 < t.minute ∨ 59 < t.second) := by omega
  have hd : ((t.hour * 60 + t.minute) * 60 + t.second) * 1000000 + micro < microsPerDay := by omega
  simp only [Timestamp.ofParts?, if_neg hn, dif_pos hd]
  refine ⟨_, rfl, rfl, ?_, rfl⟩
  simp only
  omega

/-- The parts of a clock make the moment, with the offset that is given. -/
theorem ofParts?_micro (t : Timestamp) (offset : Option ℤ) :
    Timestamp.ofParts? t.date t.hour t.minute t.second t.micro offset =
      some { t with offset := offset } := by
  obtain ⟨u, hu, hd, hm, ho⟩ := ofParts?_clock t le_rfl offset
  rw [hu]
  have hle : t.micro ≤ t.micros := Nat.mod_le _ _
  congr 1
  cases u
  simp only at hd hm ho
  simp only [Timestamp.mk.injEq]
  exact ⟨hd, by omega, ho⟩

/-- A text with a date in front is read as that date with the time behind. -/
theorem timestamp?_parts {s : String} {d : Date} {sep : UInt8} {rest : Bytes}
    (hlead : leadLength sep = 1) (hb : bytesOf s = (dateChars d).map byte ++ sep :: rest) :
    timestamp? s = readTime? d rest := by
  have hplace : separatorPlace? (bytesOf s) = some 10 := by
    rw [hb, separatorPlace?_date]
  have hdate : readDate? 10 (bytesOf s) = some d := by
    rw [hb, readDate?_dateChars]
  have hrest : (bytesOf s).drop 10 = sep :: rest := by
    rw [hb, List.drop_left' (by rw [List.length_map, length_dateChars])]
  simp only [timestamp?, hplace, Option.bind_eq_bind, Option.bind_some, hdate, hrest,
    List.isEmpty_cons, Bool.false_eq_true, if_false, peek, List.headD_cons, hlead,
    List.drop_succ_cons, List.drop_zero]

theorem timestamp?_moment {s : String} {t : Timestamp} {tail : List Char} {micro : ℕ}
    (hs : s.toList = momentChars t tail) (htail : ∀ c ∈ tail, c.isDigit = true ∨ c = '.')
    (hclock : readClock? 0 (clockBytes t tail) = some ⟨t.hour, t.minute, t.second, micro, false⟩) :
    timestamp? s = Timestamp.ofParts? t.date t.hour t.minute t.second micro none := by
  have hch : ∀ c ∈ s.toList, isMomentChar c = true := by
    intro c hc
    rw [hs] at hc
    simp only [momentChars, List.mem_append, List.mem_cons] at hc
    rcases hc with h | rfl | h | rfl | h | rfl | h | h
    · exact isMomentChar_date h
    · rfl
    · exact isMomentChar_padded h
    · rfl
    · exact isMomentChar_padded h
    · rfl
    · exact isMomentChar_padded h
    · rcases htail c h with h | rfl
      · simp [isMomentChar, h]
      · rfl
  have hb : bytesOf s = (dateChars t.date).map byte ++ byte ' ' :: clockBytes t tail := by
    rw [bytesOf_moment hch, hs]
    simp [momentChars, clockBytes]
  rw [timestamp?_parts (by decide) hb, readTime?_clock htail hclock]

/-! ## Moments in universal time -/

/-- The parts of a second that are written. -/
def fractionChars (t : Timestamp) : List Char :=
  if t.micro = 0 then [] else '.' :: paddedDigits 6 t.micro

theorem fractionChars_digit (t : Timestamp) : ∀ c ∈ fractionChars t, c.isDigit = true ∨ c = '.' := by
  intro c hc
  rw [fractionChars] at hc
  split at hc
  · cases hc
  · rcases List.mem_cons.mp hc with rfl | hc
    · exact .inr rfl
    · exact .inl (isDigit_paddedDigits hc)

theorem readClock?_utc (t : Timestamp) :
    readClock? (utcZone.map byte).length (clockBytes t (fractionChars t) ++ utcZone.map byte) =
      some ⟨t.hour, t.minute, t.second, t.micro, true⟩ := by
  have hpeek : decide (peek (utcZone.map byte) ≠ 0) = true := by decide
  rw [fractionChars]
  split
  · rename_i hzero
    rw [readClock?_seconds, hpeek, hzero]
  · rw [readClock?_micros _ _ (by decide), hpeek]

theorem timestampText_toList {t : Timestamp} (h : t.offset = some 0) :
    (timestampText "T" t).toList = dateChars t.date ++ 'T' :: (paddedDigits 2 t.hour ++
      ':' :: (paddedDigits 2 t.minute ++ ':' :: (paddedDigits 2 t.second ++ fractionChars t))) ++
        utcZone := by
  have hoffset : offsetText 0 = "+00:00" := by decide
  have hfraction : (if t.micro = 0 then "" else "." ++ padded 6 t.micro).toList =
      fractionChars t := by
    rw [fractionChars]
    split <;> simp [padded_toList]
  simp [timestampText, dateText_toList, padded_toList, hfraction, h, hoffset, utcZone]

theorem timestampText_ascii {t : Timestamp} (h : t.offset = some 0) :
    ∀ c ∈ (timestampText "T" t).toList, c.toNat < 128 := by
  intro c hc
  rw [timestampText_toList h] at hc
  have hpadded : ∀ {width n : ℕ}, c ∈ paddedDigits width n → c.toNat < 128 := fun h => by
    have := digit_bounds (isDigit_paddedDigits h)
    omega
  simp only [List.mem_append, List.mem_cons] at hc
  rcases hc with (h | rfl | h | rfl | h | rfl | h | h) | h
  · have := toNat_momentChar (isMomentChar_date h)
    omega
  · decide
  · exact hpadded h
  · decide
  · exact hpadded h
  · decide
  · exact hpadded h
  · rcases fractionChars_digit t c h with h | rfl
    · have := digit_bounds h
      omega
    · decide
  · have hzone : utcZone.all (·.toNat < 128) = true := by decide
    exact of_decide_eq_true (List.all_eq_true.mp hzone c h)

/-- A moment in universal time is read back from its text. -/
theorem timestamp?_timestampText {t : Timestamp} (h : t.offset = some 0) :
    timestamp? (timestampText "T" t) = some t := by
  have hb : bytesOf (timestampText "T" t) = (dateChars t.date).map byte ++
      byte 'T' :: (clockBytes t (fractionChars t) ++ utcZone.map byte) := by
    rw [bytesOf_ascii (timestampText_ascii h), timestampText_toList h]
    simp [clockBytes]
  rw [timestamp?_parts (by decide) hb, readTime?_utc (fractionChars_digit t) (readClock?_utc t),
    ofParts?_micro, ← h]

end Iso

open Iso Database

theorem timestampCell_toList (t : Timestamp) :
    ∃ s, timestampCell t = .text s ∧ s.toList = momentChars t ('.' :: paddedDigits 6 t.micro) := by
  refine ⟨_, rfl, ?_⟩
  simp [momentChars, dateText_toList, padded_toList]

/-- A stored timestamp is read back as the same date and time, without an offset. -/
theorem timestamp?_timestampCell (t : Timestamp) :
    ∃ s, timestampCell t = .text s ∧ timestamp? s = some { t with offset := none } := by
  obtain ⟨s, hc, hs⟩ := timestampCell_toList t
  refine ⟨s, hc, ?_⟩
  have hclock := readClock?_micros t [] rfl
  rw [List.append_nil] at hclock
  rw [timestamp?_moment hs ?_ hclock, ofParts?_micro]
  intro c hc
  rcases List.mem_cons.mp hc with rfl | hc
  · exact .inr rfl
  · exact .inl (isDigit_paddedDigits hc)

/-- Two moments in universal time that are kept as one text are one moment. -/
theorem instant_of_timestampCell {t u : Timestamp} (h : timestampCell t = timestampCell u)
    (ht : t.offset = some 0) (hu : u.offset = some 0) : t.instant = u.instant := by
  obtain ⟨s, hs, hrs⟩ := timestamp?_timestampCell t
  obtain ⟨r, hr, hrr⟩ := timestamp?_timestampCell u
  rw [hs, hr] at h
  cases h
  rw [hrs] at hrr
  injection hrr with hrr
  injection hrr with hdate hmicros
  simp only [Timestamp.instant, Timestamp.localMicros, hdate, hmicros, ht, hu]

theorem stamp_toList (c : Clock) : c.stamp.toList = momentChars ((c.now.toUtc?).getD c.now) [] := by
  simp [Clock.stamp, momentChars, dateText_toList, padded_toList]

/-- The time that the database itself writes can be read. -/
theorem timestamp?_stamp (c : Clock) :
    ∃ u : Timestamp, timestamp? c.stamp = some u ∧ u.offset = none := by
  have hclock := readClock?_seconds ((c.now.toUtc?).getD c.now) []
  rw [List.append_nil] at hclock
  rw [timestamp?_moment (stamp_toList c) (by simp) hclock]
  obtain ⟨u, hu, -, -, ho⟩ := ofParts?_clock ((c.now.toUtc?).getD c.now) (Nat.zero_le _) none
  exact ⟨u, hu, ho⟩

/-! ## Texts that are no numbers -/

/-- A hyphen after digits ends a number where none can end. -/
theorem readScaled?_hyphen {ds : List Char} (h : ∀ c ∈ ds, c.isDigit = true) (rest : List Char) :
    Decimal.readScaled? (ds ++ '-' :: rest) = none := by
  obtain ⟨h1, h2⟩ := takeWhile_digits h ('-' :: rest) (by simp)
  simp [Decimal.readScaled?, h1, h2]

theorem isTextSpace_digit {c : Char} (h : c.isDigit = true) : Cell.isTextSpace c = false := by
  have hb := digit_bounds h
  have hne : ∀ d : Char, d.toNat < 48 → c ≠ d := by
    rintro d hd rfl
    omega
  simp [Cell.isTextSpace, hne ' ' (by decide), hne '\t' (by decide), hne '\n' (by decide),
    hne '\r' (by decide), hne '\x0b' (by decide), hne '\x0c' (by decide)]

/-- A text that begins and ends with digits has no blanks around it. -/
theorem trim_digits {l : List Char} (hf : ∀ c, l.head? = some c → c.isDigit = true)
    (hl : ∀ c, l.getLast? = some c → c.isDigit = true) :
    ((l.dropWhile Cell.isTextSpace).reverse.dropWhile Cell.isTextSpace).reverse = l := by
  have hd : ∀ k : List Char, (∀ c, k.head? = some c → c.isDigit = true) →
      k.dropWhile Cell.isTextSpace = k := by
    intro k hk
    cases k with
    | nil => rfl
    | cons c k => simp [isTextSpace_digit (hk c rfl)]
  rw [hd l hf, hd l.reverse (by rw [List.head?_reverse]; exact hl), List.reverse_reverse]

theorem numberOfText?_date {s : String} {d : Date} {tail : List Char}
    (hs : s.toList = dateChars d ++ tail)
    (hl : ∀ c, (dateChars d ++ tail).getLast? = some c → c.isDigit = true) :
    Cell.numberOfText? s = none := by
  obtain ⟨c, cs, hy⟩ : ∃ c cs, paddedDigits 4 d.year = c :: cs := by
    have := le_length_paddedDigits 4 d.year
    cases hp : paddedDigits 4 d.year with
    | nil => simp [hp] at this
    | cons c cs => exact ⟨c, cs, rfl⟩
  have hdigits : ∀ x ∈ c :: cs, x.isDigit = true := fun x hx => isDigit_paddedDigits (hy ▸ hx)
  have hc := hdigits c (by simp)
  have hshape : dateChars d ++ tail = c :: cs ++ '-' :: ((paddedDigits 2 d.month ++
      '-' :: paddedDigits 2 d.day) ++ tail) := by
    simp [dateChars, hy]
  have hsign : Decimal.splitSign (dateChars d ++ tail) = (false, dateChars d ++ tail) := by
    have hm : c ≠ '-' := by
      rintro rfl
      cases hc
    have hp : c ≠ '+' := by
      rintro rfl
      cases hc
    rw [hshape]
    simp [Decimal.splitSign, hm, hp]
  have hspell : (c :: cs).map (fun c => if c = 'E' then 'e' else c) = c :: cs := by
    refine (List.map_congr_left ?_).trans (List.map_id _)
    intro x hx
    have hx : x ≠ 'E' := by
      rintro rfl
      cases hdigits _ hx
    rw [if_neg hx, id]
  have htrim := trim_digits (l := dateChars d ++ tail) (by simp [hshape, hc]) hl
  have hnone := readScaled?_hyphen hdigits (((paddedDigits 2 d.month ++ '-' ::
    paddedDigits 2 d.day) ++ tail).map fun c => if c = 'E' then 'e' else c)
  have hread : Decimal.readScaled? ((dateChars d ++ tail).map
      fun c => if c = 'E' then 'e' else c) = none := by
    rw [hshape, List.map_append, hspell, List.map_cons]
    exact hnone
  simp only [Cell.numberOfText?, hs, htrim, hsign, hread]

private theorem getLast?_padded {width n : ℕ} (hw : 0 < width) (l : List Char) {c : Char}
    (h : (l ++ paddedDigits width n).getLast? = some c) : c.isDigit = true := by
  have hl := le_length_paddedDigits width n
  have hne : paddedDigits width n ≠ [] := by
    intro hp
    rw [hp, List.length_nil] at hl
    omega
  rw [List.getLast?_append_of_ne_nil _ hne] at h
  exact isDigit_paddedDigits (List.mem_of_getLast? h)

theorem numberOfText?_dateText (d : Date) : Cell.numberOfText? (dateText d) = none := by
  have hs : (dateText d).toList = dateChars d ++ [] := by rw [dateText_toList, List.append_nil]
  refine numberOfText?_date hs ?_
  intro c hc
  have hd : dateChars d ++ [] =
      (paddedDigits 4 d.year ++ '-' :: (paddedDigits 2 d.month ++ ['-'])) ++
        paddedDigits 2 d.day := by simp [dateChars]
  rw [hd] at hc
  exact getLast?_padded (by omega) _ hc

theorem numberOfText?_moment {s : String} {t : Timestamp} {l : List Char} {width n : ℕ}
    (hw : 0 < width) (hs : s.toList = momentChars t l)
    (hl : ∃ k, momentChars t l = k ++ paddedDigits width n) : Cell.numberOfText? s = none := by
  refine numberOfText?_date hs ?_
  intro c hc
  obtain ⟨k, hk⟩ := hl
  change (momentChars t l).getLast? = some c at hc
  rw [hk] at hc
  exact getLast?_padded hw _ hc

theorem numberOfText?_timestampCell (t : Timestamp) :
    ∃ s, timestampCell t = .text s ∧ Cell.numberOfText? s = none := by
  obtain ⟨s, hc, hs⟩ := timestampCell_toList t
  refine ⟨s, hc, numberOfText?_moment (n := t.micro) (show 0 < 6 by omega) hs ?_⟩
  exact ⟨dateChars t.date ++ ' ' :: (paddedDigits 2 t.hour ++ ':' :: (paddedDigits 2 t.minute ++
    ':' :: (paddedDigits 2 t.second ++ ['.']))), by simp [momentChars]⟩

theorem numberOfText?_stamp (c : Clock) : Cell.numberOfText? c.stamp = none := by
  refine numberOfText?_moment (n := ((c.now.toUtc?).getD c.now).second)
    (show 0 < 2 by omega) (stamp_toList c) ?_
  exact ⟨dateChars (((c.now.toUtc?).getD c.now).date) ++ ' ' ::
    (paddedDigits 2 (((c.now.toUtc?).getD c.now).hour) ++ ':' ::
      (paddedDigits 2 (((c.now.toUtc?).getD c.now).minute) ++ [':'])), by simp [momentChars]⟩

end EntityStore
