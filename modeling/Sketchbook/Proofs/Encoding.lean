import Mathlib.Tactic.SplitIfs
import Sketchbook.Text.Utf8

namespace Sketchbook.Text.Utf8

theorem encode_append (s t : String) : encode (s ++ t) = encode s ++ encode t := by
  unfold encode
  rw [String.toByteArray_append, ByteArray.data_append, Array.toList_append]

theorem encode_ofList (cs : List Char) :
    encode (String.ofList cs) = cs.flatMap String.utf8EncodeChar := by
  rw [encode, String.toByteArray_ofList, List.utf8Encode, List.toList_data_toByteArray]

theorem tail?_eq_some {lo hi x : Nat} {b : UInt8} :
    tail? lo hi b = some x ↔ (lo ≤ b.toNat ∧ b.toNat ≤ hi) ∧ b.toNat - 0x80 = x := by
  rw [tail?, Option.ite_none_right_eq_some, Option.some.injEq]

theorem val_toNat_ofNat {n : Nat} (h : n.isValidChar) : (Char.ofNat n).val.toNat = n := by
  rw [Char.ofNat, dif_pos h]
  rfl

theorem encodeChar_one {a : UInt8} (ha : a.toNat < 0x80) :
    String.utf8EncodeChar (Char.ofNat a.toNat) = [a] := by
  rw [String.utf8EncodeChar, val_toNat_ofNat (by unfold Nat.isValidChar; omega), if_pos (by omega),
    UInt8.ofNat_toNat]

theorem encodeChar_two {a b : UInt8} (ha : 0xC2 ≤ a.toNat ∧ a.toNat < 0xE0)
    (hb : 0x80 ≤ b.toNat ∧ b.toNat ≤ 0xBF) :
    String.utf8EncodeChar (Char.ofNat ((a.toNat - 0xC0) * 64 + (b.toNat - 0x80))) = [a, b] := by
  -- the number of the character gets a name, so that its digits to the base 64 can be taken off
  obtain ⟨v, hv⟩ : ∃ v, v = (a.toNat - 0xC0) * 64 + (b.toNat - 0x80) := ⟨_, rfl⟩
  have h1 : v / 64 % 0x20 + 0xC0 = a.toNat := by omega
  have h2 : v % 0x40 + 0x80 = b.toNat := by omega
  rw [← hv, String.utf8EncodeChar, val_toNat_ofNat (by unfold Nat.isValidChar; omega)]
  rw [if_neg (by omega), if_pos (by omega), h1, h2, UInt8.ofNat_toNat, UInt8.ofNat_toNat]

theorem encodeChar_three {a b c : UInt8} (ha : 0xE0 ≤ a.toNat ∧ a.toNat < 0xF0)
    (hb : (if a.toNat = 0xE0 then 0xA0 else 0x80) ≤ b.toNat ∧
      b.toNat ≤ if a.toNat = 0xED then 0x9F else 0xBF)
    (hc : 0x80 ≤ c.toNat ∧ c.toNat ≤ 0xBF) :
    String.utf8EncodeChar
      (Char.ofNat (((a.toNat - 0xE0) * 64 + (b.toNat - 0x80)) * 64 + (c.toNat - 0x80))) =
        [a, b, c] := by
  obtain ⟨v, hv⟩ : ∃ v, v =
    ((a.toNat - 0xE0) * 64 + (b.toNat - 0x80)) * 64 + (c.toNat - 0x80) := ⟨_, rfl⟩
  have h1 : v / 4096 % 0x10 + 0xE0 = a.toNat := by split_ifs at hb <;> omega
  have h2 : v / 64 % 0x40 + 0x80 = b.toNat := by split_ifs at hb <;> omega
  have h3 : v % 0x40 + 0x80 = c.toNat := by omega
  have hvalid : v.isValidChar := by unfold Nat.isValidChar; split_ifs at hb <;> omega
  rw [← hv, String.utf8EncodeChar, val_toNat_ofNat hvalid]
  rw [if_neg (by split_ifs at hb <;> omega), if_neg (by split_ifs at hb <;> omega),
    if_pos (by omega), h1, h2, h3, UInt8.ofNat_toNat, UInt8.ofNat_toNat, UInt8.ofNat_toNat]

theorem encodeChar_four {a b c d : UInt8} (ha : 0xF0 ≤ a.toNat ∧ a.toNat < 0xF5)
    (hb : (if a.toNat = 0xF0 then 0x90 else 0x80) ≤ b.toNat ∧
      b.toNat ≤ if a.toNat = 0xF4 then 0x8F else 0xBF)
    (hc : 0x80 ≤ c.toNat ∧ c.toNat ≤ 0xBF) (hd : 0x80 ≤ d.toNat ∧ d.toNat ≤ 0xBF) :
    String.utf8EncodeChar
      (Char.ofNat ((((a.toNat - 0xF0) * 64 + (b.toNat - 0x80)) * 64 + (c.toNat - 0x80)) * 64 +
        (d.toNat - 0x80))) = [a, b, c, d] := by
  obtain ⟨v, hv⟩ : ∃ v, v = (((a.toNat - 0xF0) * 64 + (b.toNat - 0x80)) * 64 +
    (c.toNat - 0x80)) * 64 + (d.toNat - 0x80) := ⟨_, rfl⟩
  have h1 : v / 262144 % 0x08 + 0xF0 = a.toNat := by split_ifs at hb <;> omega
  have h2 : v / 4096 % 0x40 + 0x80 = b.toNat := by split_ifs at hb <;> omega
  have h3 : v / 64 % 0x40 + 0x80 = c.toNat := by omega
  have h4 : v % 0x40 + 0x80 = d.toNat := by omega
  have hvalid : v.isValidChar := by unfold Nat.isValidChar; split_ifs at hb <;> omega
  rw [← hv, String.utf8EncodeChar, val_toNat_ofNat hvalid]
  rw [if_neg (by split_ifs at hb <;> omega), if_neg (by split_ifs at hb <;> omega),
    if_neg (by split_ifs at hb <;> omega), h1, h2, h3, h4, UInt8.ofNat_toNat, UInt8.ofNat_toNat,
    UInt8.ofNat_toNat, UInt8.ofNat_toNat]

theorem encodeChar_of_head? {s : Bytes} {c : Char} {w : Nat} (h : head? s = some (c, w)) :
    String.utf8EncodeChar c = s.take w := by
  cases s with
  | nil => cases h
  | cons a rest =>
    -- the cases are the ranges of the first byte, in the order in which they are tried
    simp only [head?] at h
    by_cases h1 : a.toNat < 0x80
    · rw [if_pos h1, Option.some.injEq, Prod.mk.injEq] at h
      obtain ⟨rfl, rfl⟩ := h
      exact encodeChar_one h1
    rw [if_neg h1] at h
    by_cases h2 : a.toNat < 0xC2
    · rw [if_pos h2] at h
      cases h
    rw [if_neg h2] at h
    by_cases h3 : a.toNat < 0xE0
    · rw [if_pos h3] at h
      rcases rest with _ | ⟨b, rest⟩
      · cases h
      · obtain ⟨x, hx, he⟩ := Option.map_eq_some_iff.mp h
        obtain ⟨hb, rfl⟩ := tail?_eq_some.mp hx
        obtain ⟨rfl, rfl⟩ := Prod.mk.injEq _ _ _ _ ▸ he
        exact encodeChar_two ⟨by omega, h3⟩ hb
    rw [if_neg h3] at h
    by_cases h4 : a.toNat < 0xF0
    · rw [if_pos h4] at h
      rcases rest with _ | ⟨b, _ | ⟨c, rest⟩⟩
      · cases h
      · cases h
      · obtain ⟨x, hx, h⟩ := Option.bind_eq_some_iff.mp h
        obtain ⟨y, hy, he⟩ := Option.map_eq_some_iff.mp h
        obtain ⟨hb, rfl⟩ := tail?_eq_some.mp hx
        obtain ⟨hc, rfl⟩ := tail?_eq_some.mp hy
        obtain ⟨rfl, rfl⟩ := Prod.mk.injEq _ _ _ _ ▸ he
        exact encodeChar_three ⟨by omega, h4⟩ hb hc
    rw [if_neg h4] at h
    by_cases h5 : a.toNat < 0xF5
    · rw [if_pos h5] at h
      rcases rest with _ | ⟨b, _ | ⟨c, _ | ⟨d, rest⟩⟩⟩
      · cases h
      · cases h
      · cases h
      · obtain ⟨x, hx, h⟩ := Option.bind_eq_some_iff.mp h
        obtain ⟨y, hy, h⟩ := Option.bind_eq_some_iff.mp h
        obtain ⟨z, hz, he⟩ := Option.map_eq_some_iff.mp h
        obtain ⟨hb, rfl⟩ := tail?_eq_some.mp hx
        obtain ⟨hc, rfl⟩ := tail?_eq_some.mp hy
        obtain ⟨hd, rfl⟩ := tail?_eq_some.mp hz
        obtain ⟨rfl, rfl⟩ := Prod.mk.injEq _ _ _ _ ▸ he
        exact encodeChar_four ⟨by omega, h5⟩ hb hc hd
    · rw [if_neg h5] at h
      cases h

theorem encode_of_decodeWithin? {fuel : Nat} {s : Bytes} {cs : List Char}
    (h : decodeWithin? fuel s = some cs) : encode (String.ofList cs) = s := by
  induction fuel generalizing s cs with
  | zero =>
    cases s with
    | nil =>
      cases h
      rfl
    | cons b rest => cases h
  | succ fuel ih =>
    cases s with
    | nil =>
      cases h
      rfl
    | cons b rest =>
      simp only [decodeWithin?] at h
      cases hc : head? (b :: rest) with
      | none =>
        rw [hc] at h
        cases h
      | some cw =>
        obtain ⟨c, w⟩ := cw
        rw [hc] at h
        obtain ⟨cs', hcs, rfl⟩ := Option.map_eq_some_iff.mp h
        -- one character is read and the rest is the bytes behind it
        rw [encode_ofList, List.flatMap_cons, ← encode_ofList, ih hcs, encodeChar_of_head? hc,
          List.take_append_drop]

theorem encode_of_decode? {s : Bytes} {t : String} (h : decode? s = some t) : encode t = s := by
  obtain ⟨cs, hcs, rfl⟩ := Option.map_eq_some_iff.mp h
  exact encode_of_decodeWithin? hcs

end Sketchbook.Text.Utf8
