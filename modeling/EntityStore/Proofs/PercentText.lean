import EntityStore.Connection.Url
import EntityStore.Proofs.IsoText
import EntityStore.Proofs.Keys

/-! # Percent-encoded texts

What is encoded can be decoded, byte for byte, so texts that are encoded alike are alike. An encoded text
holds no character that divides the parts of a query.
-/

namespace EntityStore

open Iso

namespace Percent

variable {safe : Char → Bool} {b : UInt8} {s t : String}

/-! ## One byte -/

/-- Bytes that are written as the characters that they are. -/
def IsKept (safe : Char → Bool) (b : UInt8) : Prop :=
  b.toNat < 128 ∧ (isUnreserved (Char.ofNat b.toNat) ∨ safe (Char.ofNat b.toNat))

instance : Decidable (IsKept safe b) := inferInstanceAs (Decidable (_ ∧ _))

def digits (n : ℕ) : List Char :=
  let written := (Nat.toDigits 16 n).map Char.toUpper
  List.replicate (2 - written.length) '0' ++ written

theorem digits_spec : ∀ n < 256, (digits n).length = 2 ∧ (digits n).all isUnreserved = true ∧
    byte? (byte ((digits n).headD '0')) (byte ((digits n).getLastD '0')) = some (UInt8.ofNat n) := by
  decide +kernel

/-- The two digits of a byte stand for it. -/
theorem exists_digits (b : UInt8) : ∃ x y, digits b.toNat = [x, y] ∧ isUnreserved x = true ∧
    isUnreserved y = true ∧ byte? (byte x) (byte y) = some b := by
  obtain ⟨hlength, hall, hbyte⟩ := digits_spec b.toNat b.toNat_lt
  obtain ⟨x, y, hxy⟩ := List.length_eq_two.mp hlength
  rw [hxy, UInt8.ofNat_toNat] at hbyte
  rw [hxy] at hall
  have hxy' : isUnreserved x = true ∧ isUnreserved y = true := by simpa using hall
  exact ⟨x, y, hxy, hxy'.1, hxy'.2, hbyte⟩

theorem encodeByte_kept (h : IsKept safe b) : (encodeByte safe b).toList = [Char.ofNat b.toNat] := by
  have h' : b.toNat < 128 ∧ (isUnreserved (Char.ofNat b.toNat) = true ∨
      safe (Char.ofNat b.toNat) = true) := h
  rw [encodeByte, if_pos h', String.singleton_eq_ofList, String.toList_ofList]

theorem encodeByte_escaped (h : ¬ IsKept safe b) :
    (encodeByte safe b).toList = '%' :: digits b.toNat := by
  have h' : ¬ (b.toNat < 128 ∧ (isUnreserved (Char.ofNat b.toNat) = true ∨
      safe (Char.ofNat b.toNat) = true)) := h
  simp only [encodeByte, if_neg h', String.toList_append, String.toList_ofList]
  rfl

theorem mem_encodeByte {c : Char} (h : c ∈ (encodeByte safe b).toList) :
    c = '%' ∨ isUnreserved c = true ∨ safe c = true := by
  by_cases hk : IsKept safe b
  · rw [encodeByte_kept hk, List.mem_singleton] at h
    exact .inr (h ▸ hk.2)
  · rw [encodeByte_escaped hk] at h
    obtain ⟨x, y, hxy, hx, hy, -⟩ := exists_digits b
    rw [hxy] at h
    simp only [List.mem_cons, List.not_mem_nil, or_false] at h
    rcases h with rfl | rfl | rfl
    · exact .inl rfl
    · exact .inr (.inl hx)
    · exact .inr (.inl hy)

theorem ascii_of_isUnreserved {c : Char} (h : isUnreserved c = true) : c.toNat < 128 := by
  simp only [isUnreserved, Bool.or_eq_true, decide_eq_true_eq] at h
  rcases h with (((h | rfl) | rfl) | rfl) | rfl
  · exact (identifier_bounds (by simp [isIdentifierChar, h])).2
  all_goals decide

theorem toNat_ofNat {n : ℕ} (h : n < 128) : (Char.ofNat n).toNat = n := by
  have hv : n.isValidChar := .inl (by omega)
  rw [Char.ofNat, dif_pos hv]
  rfl

theorem ascii_encodeByte {c : Char} (h : c ∈ (encodeByte safe b).toList) : c.toNat < 128 := by
  by_cases hk : IsKept safe b
  · rw [encodeByte_kept hk, List.mem_singleton] at h
    rw [h, toNat_ofNat hk.1]
    exact hk.1
  · rw [encodeByte_escaped hk, List.mem_cons] at h
    obtain ⟨-, hall, -⟩ := digits_spec b.toNat b.toNat_lt
    rcases h with rfl | h
    · decide
    · exact ascii_of_isUnreserved (List.all_eq_true.mp hall c h)

theorem byte_ofNat (h : b.toNat < 128) : byte (Char.ofNat b.toNat) = b := by
  have hv : (Char.ofNat b.toNat).val.toNat = b.toNat := toNat_ofNat h
  apply UInt8.toNat_inj.mp
  rw [byte, UInt32.toNat_toUInt8, hv]
  omega

/-- A byte that is no percent sign is left as it is. -/
theorem decodeBytes_cons (h : b ≠ 37) (rest : List UInt8) :
    decodeBytes (b :: rest) = b :: decodeBytes rest := by
  rw [decodeBytes]
  rintro x y tail rfl
  exact absurd rfl h

/-- Decoding takes the characters of a byte back to it. -/
theorem decodeBytes_encodeByte (hsafe : safe '%' = false) (rest : List UInt8) :
    decodeBytes ((encodeByte safe b).toList.map byte ++ rest) = b :: decodeBytes rest := by
  by_cases hk : IsKept safe b
  · have hb : b ≠ 37 := by
      rintro rfl
      have hsign : isUnreserved '%' = true ∨ safe '%' = true := hk.2
      rw [hsafe] at hsign
      exact absurd hsign (by decide)
    rw [encodeByte_kept hk, List.map_singleton, byte_ofNat hk.1, List.singleton_append,
      decodeBytes_cons hb]
  · obtain ⟨x, y, hxy, -, -, hbyte⟩ := exists_digits b
    have hsign : byte '%' = 37 := rfl
    rw [encodeByte_escaped hk, hxy, List.map_cons, List.map_cons, List.map_singleton, hsign]
    simp only [List.cons_append, List.nil_append, decodeBytes, hbyte]

/-! ## Texts -/

theorem toList_encode (safe : Char → Bool) (s : String) :
    (encode safe s).toList = (bytesOf s).flatMap fun b => (encodeByte safe b).toList := by
  rw [encode, String.toList_join, List.flatMap_map]
  rfl

theorem bytesOf_encode (safe : Char → Bool) (s : String) :
    bytesOf (encode safe s) = (bytesOf s).flatMap fun b => (encodeByte safe b).toList.map byte := by
  rw [bytesOf_ascii, toList_encode, List.map_flatMap]
  intro c hc
  rw [toList_encode, List.mem_flatMap] at hc
  obtain ⟨b, -, hc⟩ := hc
  exact ascii_encodeByte hc

theorem decodeBytes_encode (hsafe : safe '%' = false) (s : String) :
    decodeBytes (bytesOf (encode safe s)) = bytesOf s := by
  rw [bytesOf_encode]
  induction bytesOf s with
  | nil => rfl
  | cons b rest ih => rw [List.flatMap_cons, decodeBytes_encodeByte hsafe, ih]

theorem bytesOf_inj : bytesOf s = bytesOf t ↔ s = t := by
  have hbytes : ∀ s, bytesOf s = s.toByteArray.data.toList := by
    intro s
    rw [bytesOf, String.toUTF8_eq_toByteArray, ByteArray.toList, toList_loop]
    rfl
  rw [hbytes, hbytes, Array.toList_inj, ← ByteArray.ext_iff, String.toByteArray_inj]

theorem encode_inj (hsafe : safe '%' = false) : encode safe s = encode safe t ↔ s = t := by
  constructor
  · intro h
    rw [← bytesOf_inj, ← decodeBytes_encode hsafe s, h, decodeBytes_encode hsafe]
  · rintro rfl
    rfl

theorem mem_encode {c : Char} (h : c ∈ (encode safe s).toList) :
    c = '%' ∨ isUnreserved c = true ∨ safe c = true := by
  rw [toList_encode, List.mem_flatMap] at h
  obtain ⟨b, -, h⟩ := h
  exact mem_encodeByte h

end Percent

namespace DatabaseUrl

variable {s t : String}

theorem not_mem_encode {c : Char} (hkept : c ≠ '%' ∧ Percent.isUnreserved c = false ∧ c ≠ ' ') :
    c ∉ (Percent.encode (· = ' ') s).toList := by
  intro h
  obtain ⟨hsign, hreserved, hspace⟩ := hkept
  rcases Percent.mem_encode h with heq | heq | heq
  · exact hsign heq
  · rw [hreserved] at heq
    cases heq
  · exact hspace (of_decide_eq_true heq)

/-- No text that is written in a query divides its parts. -/
theorem not_mem_encodeQuery (s : String) : '&' ∉ (encodeQuery s).toList := by
  rw [encodeQuery, String.toList_ofList, List.mem_map]
  rintro ⟨c, hc, heq⟩
  split at heq
  · cases heq
  · exact not_mem_encode (by decide) (heq ▸ hc)

theorem encodeQuery_inj : encodeQuery s = encodeQuery t ↔ s = t := by
  constructor
  · intro h
    have hback : ∀ s, ((encodeQuery s).toList.map fun c => if c = '+' then ' ' else c) =
        (Percent.encode (· = ' ') s).toList := by
      intro s
      rw [encodeQuery, String.toList_ofList, List.map_map]
      refine (List.map_congr_left ?_).trans (List.map_id _)
      intro c hc
      have hplus : c ≠ '+' := by
        rintro rfl
        exact not_mem_encode (by decide) hc
      by_cases hspace : c = ' '
      · simp [hspace]
      · simp [hspace, hplus]
    have hencode : (Percent.encode (· = ' ') s).toList = (Percent.encode (· = ' ') t).toList := by
      rw [← hback s, h, hback t]
    exact (Percent.encode_inj (by decide)).mp (String.toList_inj.mp hencode)
  · rintro rfl
    rfl

end DatabaseUrl

end EntityStore
