import Sketchbook.Proofs.Rendering

namespace Sketchbook

open Sketchbook.Text Sketchbook.Text.Utf8

namespace Text.Utf8

theorem head?_flatMap {cs : List Char} :
    ∀ b ∈ (cs.flatMap String.utf8EncodeChar).head?, ¬Continues b := by
  intro b hb
  cases cs with
  | nil => cases hb
  | cons c cs =>
    obtain ⟨x, xs, hc, hfirst, -⟩ := encodeChar_eq_cons c
    rw [List.flatMap_cons, hc] at hb
    obtain rfl := Option.some.inj hb
    exact hfirst

theorem not_encode_of_cut {c : Char} {front back : Bytes} {u : String}
    (hc : String.utf8EncodeChar c = front ++ back) (hfront : front ≠ []) (hback : back ≠ []) :
    front ≠ encode u := by
  rintro rfl
  obtain ⟨b, bs, hbytes, -, hbs⟩ := encodeChar_eq_cons c
  -- what is left of the character would be a text as well, but its first byte goes on with it
  have hchar : [c].flatMap String.utf8EncodeChar =
      u.toList.flatMap String.utf8EncodeChar ++ back := by
    rw [List.flatMap_singleton, hc, encode_eq_flatMap]
  obtain ⟨ds, rfl⟩ := exists_flatMap_of_append hchar
  obtain ⟨x, xs, hx⟩ := List.exists_cons_of_ne_nil hback
  obtain ⟨y, ys, hy⟩ := List.exists_cons_of_ne_nil hfront
  have hnot : ¬Continues x := head?_flatMap x (by rw [hx]; rfl)
  rw [hbytes, hy, hx, List.cons_append, List.cons.injEq] at hc
  exact hnot (hbs x (by rw [hc.2]; exact List.mem_append_right _ List.mem_cons_self))

end Text.Utf8

namespace Editing

/-- Whether a place lies within one of some characters, whose bytes begin at place 0. -/
def Splits (cs : List Char) (p : Int) : Prop :=
  ∃ front c back, cs = front ++ c :: back ∧
    ((front.flatMap String.utf8EncodeChar).length : Int) < p ∧
    p < (front.flatMap String.utf8EncodeChar).length + (String.utf8EncodeChar c).length

theorem splits_cons {c : Char} {cs : List Char} {p : Int}
    (h : Splits cs (p - (String.utf8EncodeChar c).length)) : Splits (c :: cs) p := by
  obtain ⟨front, d, back, rfl, hlow, hhigh⟩ := h
  refine ⟨c :: front, d, back, rfl, ?_⟩
  rw [List.flatMap_cons, List.length_append]
  omega

theorem not_splits_of_isBoundary {t : String} {i : Nat} (h : IsBoundary (encode t) i) :
    ¬Splits t.toList i := by
  rintro ⟨front, c, back, hchars, hlow, hhigh⟩
  obtain ⟨b, bs, hc, -, hbs⟩ := encodeChar_eq_cons c
  obtain ⟨k, rfl⟩ := Nat.exists_eq_add_of_lt (Int.ofNat_lt.mp hlow)
  rw [hc, List.length_cons] at hhigh
  have hbyte : (encode t)[(front.flatMap String.utf8EncodeChar).length + k + 1]? = bs[k]? := by
    rw [encode_eq_flatMap, hchars, List.flatMap_append, List.flatMap_cons, hc,
      List.getElem?_append_right (by omega), List.cons_append]
    have hk : (front.flatMap String.utf8EncodeChar).length + k + 1 -
        (front.flatMap String.utf8EncodeChar).length = k + 1 := by omega
    rw [hk, List.getElem?_cons_succ, List.getElem?_append_left (by omega)]
  have hk : k < bs.length := by omega
  rw [List.getElem?_eq_getElem hk] at hbyte
  exact h.2 _ hbyte (hbs _ (List.getElem_mem hk))

namespace Edit

def charsAt (es : List Edit) (p : Nat) : List Char :=
  (es.filter (isAt p .after) ++ es.filter (isAt p .before)).flatMap fun e => e.text.toList

/-- Characters from a place on, with what is inserted in front of each of them and behind the last. -/
def spell (es : List Edit) : Nat → List Char → List Char
  | p, [] => charsAt es p
  | p, c :: cs => charsAt es p ++ c :: spell es (p + (String.utf8EncodeChar c).length) cs

theorem textsAt_eq_flatMap (es : List Edit) (p : Nat) :
    textsAt es p = (charsAt es p).flatMap String.utf8EncodeChar := by
  rw [textsAt, charsAt, List.flatMap_assoc]
  exact List.flatMap_congr fun e _ => encode_eq_flatMap e.text

theorem textsAt_eq_nil_iff {es : List Edit} {p : Nat} :
    textsAt es p = [] ↔ ∀ e ∈ es, e.position = p → e.text = "" := by
  have hempty (t : String) : encode t = [] ↔ t = "" := by
    constructor
    · intro h
      have hread := decode?_encode t
      rw [h] at hread
      exact (Option.some.inj hread).symm
    · rintro rfl
      rfl
  rw [textsAt, List.flatMap_eq_nil_iff]
  constructor
  · intro h e he hp
    apply (hempty _).mp
    apply h e
    cases hs : e.side with
    | after => exact List.mem_append_left _ (List.mem_filter.mpr ⟨he, isAt_iff.mpr ⟨hp, hs⟩⟩)
    | before => exact List.mem_append_right _ (List.mem_filter.mpr ⟨he, isAt_iff.mpr ⟨hp, hs⟩⟩)
  · intro h e he
    rcases List.mem_append.mp he with he | he
    all_goals
      obtain ⟨he, hat⟩ := List.mem_filter.mp he
      exact (hempty _).mpr (h e he (isAt_iff.mp hat).1)

/-- If nothing with bytes is inserted within a character, the insertions stand between the
characters. -/
theorem copy_eq_spell {es : List Edit} {cs : List Char} {p : Nat}
    (h : ∀ e ∈ es, e.text ≠ "" → ¬Splits cs (e.position - p)) :
    copy es p (cs.flatMap String.utf8EncodeChar) ++
        textsAt es (p + (cs.flatMap String.utf8EncodeChar).length) =
      (spell es p cs).flatMap String.utf8EncodeChar := by
  induction cs generalizing p with
  | nil => exact textsAt_eq_flatMap es p
  | cons c cs ih =>
    obtain ⟨b, bs, hc, -⟩ := encodeChar_eq_cons c
    -- behind its first byte a character has nothing inserted
    have hinner : copy es (p + 1) bs = bs := by
      apply copy_eq_self
      intro q hq hlt
      apply textsAt_eq_nil_iff.mpr
      intro e he hpos
      by_contra htext
      refine h e he htext ⟨[], c, cs, rfl, ?_⟩
      rw [hc, List.flatMap_nil, List.length_nil, List.length_cons]
      omega
    have hrest := ih (p := p + (String.utf8EncodeChar c).length) fun e he htext hsplits => by
      apply h e he htext
      apply splits_cons
      convert hsplits using 1
      omega
    rw [List.flatMap_cons, copy_append, List.length_append, ← Nat.add_assoc, List.append_assoc,
      hrest, spell, List.flatMap_append, List.flatMap_cons, ← textsAt_eq_flatMap, hc, copy, hinner]
    simp only [List.append_assoc]

theorem merge_eq_spell {es : List Edit} {t : String}
    (h : ∀ e ∈ es, e.text ≠ "" → ¬Splits t.toList e.position) :
    merge es (encode t) = encode (String.ofList (spell es 0 t.toList)) := by
  have hclear : ∀ e ∈ es, e.text ≠ "" → ¬Splits t.toList (e.position - (0 : Nat)) := by
    simpa using h
  have hcopy := copy_eq_spell hclear
  rw [Nat.zero_add, ← encode_eq_flatMap] at hcopy
  rw [merge, hcopy, encode_ofList]

theorem exists_first_textsAt {es : List Edit} {n q : Nat} (hq : n < q) (h : textsAt es q ≠ []) :
    ∃ m, n < m ∧ m ≤ q ∧ textsAt es m ≠ [] ∧ ∀ j, n < j → j < m → textsAt es j = [] := by
  have hsome : ∃ m, n < m ∧ textsAt es m ≠ [] := ⟨q, hq, h⟩
  obtain ⟨hlt, hm⟩ := Nat.find_spec hsome
  refine ⟨Nat.find hsome, hlt, Nat.find_min' hsome ⟨hq, h⟩, hm, ?_⟩
  intro j hj hjm
  by_contra hnil
  exact Nat.find_min hsome hjm ⟨hj, hnil⟩

theorem merge_ne_encode {es : List Edit} {t : String}
    (h : ∃ e ∈ es, e.text ≠ "" ∧ Splits t.toList e.position) (u : String) :
    encode u ≠ merge es (encode t) := by
  intro hu
  obtain ⟨e, he, htext, front, c, back, hchars, hlow, hhigh⟩ := h
  obtain ⟨n, hn⟩ : ∃ n, (front.flatMap String.utf8EncodeChar).length = n := ⟨_, rfl⟩
  obtain ⟨q, hq⟩ : ∃ q : Nat, e.position = q := ⟨e.position.toNat, by omega⟩
  rw [hn, hq] at hlow hhigh
  -- the first place within the character at which something is inserted
  obtain ⟨m, hnm, hmq, hm, hbetween⟩ := exists_first_textsAt (n := n) (q := q) (by omega)
    fun hnil => htext (textsAt_eq_nil_iff.mp hnil e he hq)
  obtain ⟨b, bs, hc, hfirst, -⟩ := encodeChar_eq_cons c
  have hbytes : encode t = front.flatMap String.utf8EncodeChar ++
      (String.utf8EncodeChar c ++ back.flatMap String.utf8EncodeChar) := by
    rw [encode_eq_flatMap, hchars, List.flatMap_append, List.flatMap_cons]
  have hlength : m ≤ (encode t).length := by
    rw [hbytes, List.length_append, List.length_append]
    omega
  have hslice : slice (encode t) n m = b :: bs.take (m - n - 1) := by
    obtain ⟨k, rfl⟩ := Nat.exists_eq_add_of_lt hnm
    have hk : n + k + 1 - n = k + 1 := by omega
    rw [slice, hbytes, ← hn, List.drop_left, hn, List.take_append_of_le_length (by omega), hk, hc,
      List.take_succ_cons, Nat.add_sub_cancel]
  -- the part of the character up to there would be a text
  obtain ⟨before, after, hmerge⟩ := exists_merge_eq hnm hlength hbetween
  have hhead : ∀ x ∈ (textsAt es m ++ after).head?, ¬Continues x := by
    intro x hx
    rw [List.head?_append_of_ne_nil _ hm, textsAt_eq_flatMap] at hx
    exact head?_flatMap x hx
  obtain ⟨⟨v, hv⟩, -⟩ := exists_encode_of_append (hu.trans hmerge) hhead
  obtain ⟨-, w, hw⟩ := exists_encode_of_append hv.symm (by
    rw [hslice]
    intro x hx
    obtain rfl := Option.some.inj hx
    exact hfirst)
  have hcut : String.utf8EncodeChar c = slice (encode t) n m ++ bs.drop (m - n - 1) := by
    rw [hslice, List.cons_append, List.take_append_drop, hc]
  refine not_encode_of_cut hcut ?_ ?_ hw
  · rw [hslice]
    exact List.cons_ne_nil _ _
  · intro hnil
    rw [hc, List.length_cons] at hhigh
    rw [List.drop_eq_nil_iff] at hnil
    omega

end Edit

theorem render_of_not_splits {t : String} {edits : List Edit}
    (h : ∀ e ∈ edits, e.Fits (encode t).length)
    (hclear : ∀ e ∈ edits, e.text ≠ "" → ¬Splits t.toList e.position) :
    render (encode t) edits = .ok (String.ofList (Edit.spell edits 0 t.toList)) :=
  (render_eq_ok_iff h _).mpr (Edit.merge_eq_spell hclear).symm

theorem render_of_splits {t : String} {edits : List Edit}
    (h : ∀ e ∈ edits, e.Fits (encode t).length)
    (hsplits : ∃ e ∈ edits, e.text ≠ "" ∧ Splits t.toList e.position) :
    render (encode t) edits = .error .undecodable :=
  (render_eq_undecodable_iff h).mpr (Edit.merge_ne_encode hsplits)

theorem exists_render_eq_ok {t : String} {edits : List Edit}
    (h : ∀ e ∈ edits, ∃ i : Nat, e.position = i ∧ IsBoundary (encode t) i) :
    ∃ s, render (encode t) edits = .ok s := by
  have hfits : ∀ e ∈ edits, e.Fits (encode t).length := by
    intro e he
    obtain ⟨i, hi, hboundary⟩ := h e he
    have hle := hboundary.1
    exact ⟨by omega, by omega⟩
  refine ⟨_, render_of_not_splits hfits fun e he _ => ?_⟩
  obtain ⟨i, hi, hboundary⟩ := h e he
  rw [hi]
  exact not_splits_of_isBoundary hboundary

/-- Rendering a text fails exactly on edits that insert something within a character. If there is
none, the result is made of the characters of the text, each as it was, in order and with what is
inserted between them. -/
theorem render_text_iff (t : String) (edits : List Edit)
    (h : ∀ e ∈ edits, e.Fits (encode t).length) :
    (render (encode t) edits = .error .undecodable ↔
      ∃ e ∈ edits, e.text ≠ "" ∧ Splits t.toList e.position) ∧
    ((∀ e ∈ edits, e.text ≠ "" → ¬Splits t.toList e.position) →
      render (encode t) edits = .ok (String.ofList (Edit.spell edits 0 t.toList))) := by
  refine ⟨⟨?_, render_of_splits h⟩, render_of_not_splits h⟩
  intro hrender
  by_contra hnone
  rw [render_of_not_splits h fun e he htext hsplits => hnone ⟨e, he, htext, hsplits⟩] at hrender
  cases hrender

/-- Within a character of two bytes nothing may be inserted, but an edit that inserts nothing does no
harm there. -/
theorem render_text_iff_two_bytes :
    let source := encode "é"
    let harmless : List Edit := [.insertBefore 1 "", .insertAfter 2 ")", .insertBefore 0 "("]
    (∀ e ∈ harmless, e.Fits source.length) ∧ render source harmless = .ok "(é)" ∧
      (∀ e ∈ .insertBefore 1 "x" :: harmless, e.Fits source.length) ∧
      render source (.insertBefore 1 "x" :: harmless) = .error .undecodable := by
  intro source harmless
  have hfits : ∀ e ∈ harmless, e.Fits source.length := by decide
  have hfits' : ∀ e ∈ Edit.insertBefore 1 "x" :: harmless, e.Fits source.length := by decide
  have hplaces : ∀ e ∈ harmless, e.text ≠ "" → IsBoundary source e.position.toNat := by
    decide +kernel
  obtain ⟨-, hok⟩ := render_text_iff "é" harmless hfits
  obtain ⟨hfails, -⟩ := render_text_iff "é" _ hfits'
  refine ⟨hfits, hok fun e he htext => ?_, hfits', hfails.mpr ?_⟩
  · rw [← Int.toNat_of_nonneg (hfits e he).1]
    exact not_splits_of_isBoundary (hplaces e he htext)
  · exact ⟨_, List.mem_cons_self, by decide, [], 'é', [], rfl, by decide, by decide⟩

end Editing

end Sketchbook
