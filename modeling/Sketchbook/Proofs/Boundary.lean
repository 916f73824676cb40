import Sketchbook.Proofs.Insertion
import Sketchbook.Proofs.Lines

namespace Sketchbook

open Sketchbook.Text

namespace Text.Utf8

def Continues (b : UInt8) : Prop := 0x80 ≤ b.toNat ∧ b.toNat ≤ 0xBF

instance : DecidablePred Continues :=
  fun b => inferInstanceAs (Decidable (0x80 ≤ b.toNat ∧ b.toNat ≤ 0xBF))

/-- Whether a place of a text lies between two characters or at an end. -/
def IsBoundary (s : Bytes) (i : Nat) : Prop := i ≤ s.length ∧ ∀ b ∈ s[i]?, ¬Continues b

instance (s : Bytes) (i : Nat) : Decidable (IsBoundary s i) :=
  inferInstanceAs (Decidable (i ≤ s.length ∧ ∀ b ∈ s[i]?, ¬Continues b))

theorem tail?_of_le {lo hi n : Nat} (h : lo ≤ n ∧ n ≤ hi) (hn : n < 256) :
    tail? lo hi (UInt8.ofNat n) = some (n - 0x80) := by
  rw [tail?, toNat_ofNat_of_lt hn, if_pos h]

theorem continues_ofNat {n : Nat} (h : 0x80 ≤ n ∧ n ≤ 0xBF) : Continues (UInt8.ofNat n) := by
  rw [Continues, toNat_ofNat_of_lt (by omega)]
  exact h

theorem head?_encodeChar (c : Char) (rest : Bytes) :
    head? (String.utf8EncodeChar c ++ rest) =
      some (c, (String.utf8EncodeChar c).length) := by
  have hvalid : c.val.toNat.isValidChar := c.valid
  have hofNat : Char.ofNat c.val.toNat = c := Char.ofNat_toNat c
  unfold Nat.isValidChar at hvalid
  -- the number of the character gets a name, so that its digits to the base 64 can be put together
  obtain ⟨v, hv⟩ : ∃ v, c.val.toNat = v := ⟨_, rfl⟩
  rw [hv] at hvalid hofNat
  unfold String.utf8EncodeChar
  rw [hv]
  dsimp only
  split_ifs with h1 h2 h3
  · have hlead : (UInt8.ofNat v).toNat = v := toNat_ofNat_of_lt (by omega)
    rw [List.singleton_append, head?_ascii _ _ (by omega), hlead, hofNat]
    rfl
  · have hlead : (UInt8.ofNat (v / 64 % 0x20 + 0xC0)).toNat = v / 64 % 0x20 + 0xC0 :=
      toNat_ofNat_of_lt (by omega)
    have hcode : (v / 64 % 0x20 + 0xC0 - 0xC0) * 64 + (v % 0x40 + 0x80 - 0x80) = v := by omega
    simp only [List.cons_append, List.nil_append, head?]
    rw [hlead, if_neg (by omega), if_neg (by omega), if_pos (by omega),
      tail?_of_le (by omega) (by omega), Option.map_some, hcode, hofNat]
    rfl
  · have hlead : (UInt8.ofNat (v / 4096 % 0x10 + 0xE0)).toNat = v / 4096 % 0x10 + 0xE0 :=
      toNat_ofNat_of_lt (by omega)
    have hcode : ((v / 4096 % 0x10 + 0xE0 - 0xE0) * 64 + (v / 64 % 0x40 + 0x80 - 0x80)) * 64 +
        (v % 0x40 + 0x80 - 0x80) = v := by omega
    simp only [List.cons_append, List.nil_append, head?]
    rw [hlead, if_neg (by omega), if_neg (by omega), if_neg (by omega), if_pos (by omega),
      tail?_of_le (by split_ifs <;> omega) (by omega), Option.bind_some,
      tail?_of_le (by omega) (by omega), Option.map_some, hcode, hofNat]
    rfl
  · have hlead : (UInt8.ofNat (v / 262144 % 0x08 + 0xF0)).toNat = v / 262144 % 0x08 + 0xF0 :=
      toNat_ofNat_of_lt (by omega)
    have hcode : (((v / 262144 % 0x08 + 0xF0 - 0xF0) * 64 + (v / 4096 % 0x40 + 0x80 - 0x80)) * 64 +
        (v / 64 % 0x40 + 0x80 - 0x80)) * 64 + (v % 0x40 + 0x80 - 0x80) = v := by omega
    simp only [List.cons_append, List.nil_append, head?]
    rw [hlead, if_neg (by omega), if_neg (by omega), if_neg (by omega), if_neg (by omega),
      if_pos (by omega), tail?_of_le (by split_ifs <;> omega) (by omega), Option.bind_some,
      tail?_of_le (by omega) (by omega), Option.bind_some, tail?_of_le (by omega) (by omega),
      Option.map_some, hcode, hofNat]
    rfl

theorem encodeChar_eq_cons (c : Char) : ∃ b bs, String.utf8EncodeChar c = b :: bs ∧
    ¬Continues b ∧ ∀ x ∈ bs, Continues x := by
  have hmax := UInt32.toNat_lt c.val
  have hvalid : c.val.toNat.isValidChar := c.valid
  unfold Nat.isValidChar at hvalid
  unfold String.utf8EncodeChar
  dsimp only
  split_ifs
  all_goals
    refine ⟨_, _, rfl, ?_, ?_⟩
    · rw [Continues, toNat_ofNat_of_lt (by omega)]
      omega
    · intro x hx
      simp only [List.mem_cons, List.not_mem_nil, or_false] at hx
      try rcases hx with rfl | rfl | rfl
      all_goals exact continues_ofNat (by omega)

theorem isBoundary_flatMap_iff {cs : List Char} {i : Nat} :
    IsBoundary (cs.flatMap String.utf8EncodeChar) i ↔
      ∃ front back, cs = front ++ back ∧ (front.flatMap String.utf8EncodeChar).length = i := by
  constructor
  · intro h
    induction cs generalizing i with
    | nil => exact ⟨[], [], rfl, (Nat.le_zero.mp h.1).symm⟩
    | cons c cs ih =>
      obtain ⟨b, bs, hc, -, hbs⟩ := encodeChar_eq_cons c
      by_cases h0 : i = 0
      · exact ⟨[], c :: cs, rfl, h0.symm⟩
      obtain ⟨hle, hbyte⟩ := h
      rw [List.flatMap_cons, hc] at hle hbyte
      rw [List.length_append] at hle
      have hwhole : (b :: bs).length ≤ i := by
        -- a byte within the character goes on with it
        by_contra hlt
        have hget : (b :: bs ++ cs.flatMap String.utf8EncodeChar)[i]? = some (b :: bs)[i] := by
          rw [List.getElem?_append_left (by omega), List.getElem?_eq_getElem]
        have hinner : (b :: bs)[i] ∈ bs := by
          rw [List.getElem_cons, dif_neg h0]
          exact List.getElem_mem _
        exact hbyte _ hget (hbs _ hinner)
      obtain ⟨j, rfl⟩ := Nat.exists_eq_add_of_le hwhole
      rw [List.getElem?_append_right (Nat.le_add_right _ _), Nat.add_sub_cancel_left] at hbyte
      obtain ⟨front, back, rfl, rfl⟩ := ih ⟨by omega, hbyte⟩
      refine ⟨c :: front, back, rfl, ?_⟩
      rw [List.flatMap_cons, List.length_append, hc]
  · rintro ⟨front, back, rfl, rfl⟩
    rw [List.flatMap_append]
    refine ⟨?_, ?_⟩
    · rw [List.length_append]
      exact Nat.le_add_right _ _
    · rw [List.getElem?_append_right (Nat.le_refl _), Nat.sub_self]
      intro b hb
      cases back with
      | nil => cases hb
      | cons c back =>
        obtain ⟨b', bs, hc, hfirst, -⟩ := encodeChar_eq_cons c
        rw [List.flatMap_cons, hc] at hb
        obtain rfl := Option.some.inj hb
        exact hfirst

theorem encode_eq_flatMap (t : String) : encode t = t.toList.flatMap String.utf8EncodeChar := by
  rw [← encode_ofList, String.ofList_toList]

theorem decodeWithin?_flatMap (cs : List Char) {fuel : Nat}
    (h : (cs.flatMap String.utf8EncodeChar).length ≤ fuel) :
    decodeWithin? fuel (cs.flatMap String.utf8EncodeChar) = some cs := by
  induction cs generalizing fuel with
  | nil => cases fuel <;> rfl
  | cons c cs ih =>
    obtain ⟨b, bs, hc, -⟩ := encodeChar_eq_cons c
    have hhead := head?_encodeChar c (cs.flatMap String.utf8EncodeChar)
    rw [List.flatMap_cons, List.length_append, hc, List.length_cons] at h
    rw [hc] at hhead
    obtain ⟨fuel, rfl⟩ : ∃ n, fuel = n + 1 := ⟨fuel - 1, by omega⟩
    have hrest : decodeWithin? fuel (cs.flatMap String.utf8EncodeChar) = some cs :=
      ih (by omega)
    rw [List.flatMap_cons, hc]
    rw [List.cons_append] at hhead ⊢
    rw [decodeWithin?, hhead]
    · dsimp only
      rw [← List.cons_append, List.drop_left, hrest]
      rfl
    · exact List.cons_ne_nil _ _

theorem decode?_encode (t : String) : decode? (encode t) = some t := by
  rw [← String.ofList_toList (s := t), encode_ofList, decode?,
    decodeWithin?_flatMap _ (Nat.le_refl _)]
  rfl

theorem exists_flatMap_of_append {cs ds : List Char} {rest : Bytes}
    (h : ds.flatMap String.utf8EncodeChar = cs.flatMap String.utf8EncodeChar ++ rest) :
    ∃ es : List Char, rest = es.flatMap String.utf8EncodeChar := by
  induction cs generalizing ds with
  | nil => exact ⟨ds, h.symm⟩
  | cons c cs ih =>
    rw [List.flatMap_cons, List.append_assoc] at h
    cases ds with
    | nil =>
      obtain ⟨b, bs, hc, -⟩ := encodeChar_eq_cons c
      rw [hc] at h
      cases h
    | cons d ds =>
      -- the first character is read off both sides, so both begin with the same one
      have hread := head?_encodeChar d (ds.flatMap String.utf8EncodeChar)
      rw [List.flatMap_cons] at h
      rw [h, head?_encodeChar, Option.some.injEq, Prod.mk.injEq] at hread
      obtain ⟨rfl, -⟩ := hread
      exact ih (List.append_cancel_left h)

theorem exists_encode_of_append {t : String} {front back : Bytes} (h : encode t = front ++ back)
    (hback : ∀ b ∈ back.head?, ¬Continues b) :
    (∃ u, front = encode u) ∧ ∃ v, back = encode v := by
  -- where no character goes on, the characters in front of the place are a list of their own
  have hboundary : IsBoundary (t.toList.flatMap String.utf8EncodeChar) front.length := by
    rw [← encode_eq_flatMap, h]
    refine ⟨by simp, ?_⟩
    rw [List.getElem?_append_right (Nat.le_refl _), Nat.sub_self, ← List.head?_eq_getElem?]
    exact hback
  obtain ⟨cs, ds, hchars, hlength⟩ := isBoundary_flatMap_iff.mp hboundary
  rw [encode_eq_flatMap, hchars, List.flatMap_append] at h
  obtain ⟨hfront, hrest⟩ := List.append_inj h hlength
  exact ⟨⟨String.ofList cs, by rw [encode_ofList, hfront]⟩,
    ⟨String.ofList ds, by rw [encode_ofList, hrest]⟩⟩

end Text.Utf8

end Sketchbook
