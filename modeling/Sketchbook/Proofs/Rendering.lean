import Sketchbook.Proofs.Boundary

namespace Sketchbook.Editing

open Sketchbook.Text

/-- A part of a rendered text: what an edit inserts, or a byte of the source. -/
inductive Piece where
  | inserted (text : String)
  | own (byte : UInt8)

namespace Piece

def bytes : Piece → Bytes
  | inserted text => Utf8.encode text
  | own byte => [byte]

def own? : Piece → Option UInt8
  | inserted _ => none
  | own byte => some byte

end Piece

def piecesAt (es : List Edit) (source : Bytes) (p : Nat) : List Piece :=
  (es.filter (Edit.isAt p .after) ++ es.filter (Edit.isAt p .before)).map
      (fun e => Piece.inserted e.text) ++
    source[p]?.toList.map Piece.own

def pieces (es : List Edit) (source : Bytes) : List Piece :=
  (List.range (source.length + 1)).flatMap (piecesAt es source)

theorem flatMap_bytes_piecesAt (es : List Edit) (source : Bytes) (p : Nat) :
    (piecesAt es source p).flatMap Piece.bytes = Edit.textsAt es p ++ source[p]?.toList := by
  rw [piecesAt, List.flatMap_append, List.flatMap_map, List.flatMap_map, Edit.textsAt]
  congr 1
  cases source[p]? <;> rfl

theorem filterMap_own?_piecesAt (es : List Edit) (source : Bytes) (p : Nat) :
    (piecesAt es source p).filterMap Piece.own? = source[p]?.toList := by
  have hinserted : ∀ ts : List Edit,
      (ts.map fun e => Piece.inserted e.text).filterMap Piece.own? = [] := by
    intro ts
    rw [List.filterMap_map, List.filterMap_eq_nil_iff]
    intro e _
    rfl
  rw [piecesAt, List.filterMap_append, hinserted, List.nil_append]
  cases source[p]? <;> rfl

namespace Edit

theorem copy_eq_flatMap (es : List Edit) (source : Bytes) :
    copy es 0 source =
      (List.range source.length).flatMap fun p => textsAt es p ++ source[p]?.toList := by
  induction source using List.reverseRecOn with
  | nil => rfl
  | append_singleton source b ih =>
    have hbefore : ∀ p ∈ List.range source.length,
        textsAt es p ++ (source ++ [b])[p]?.toList = textsAt es p ++ source[p]?.toList := by
      intro p hp
      rw [List.getElem?_append_left (List.mem_range.mp hp)]
    rw [copy_append, ih, List.length_append, List.length_singleton, List.range_succ,
      List.flatMap_append, List.flatMap_singleton, List.flatMap_congr hbefore,
      List.getElem?_concat_length, Nat.zero_add]
    rfl

theorem merge_eq_flatMap (es : List Edit) (source : Bytes) :
    merge es source =
      (List.range (source.length + 1)).flatMap fun p => textsAt es p ++ source[p]?.toList := by
  rw [merge, copy_eq_flatMap, List.range_succ, List.flatMap_append, List.flatMap_singleton,
    List.getElem?_eq_none (Nat.le_refl _), Option.toList_none, List.append_nil]

end Edit

theorem flatMap_bytes_pieces (es : List Edit) (source : Bytes) :
    (pieces es source).flatMap Piece.bytes = Edit.merge es source := by
  rw [pieces, List.flatMap_assoc, Edit.merge_eq_flatMap]
  exact List.flatMap_congr fun p _ => flatMap_bytes_piecesAt es source p

theorem filterMap_own?_pieces (es : List Edit) (source : Bytes) :
    (pieces es source).filterMap Piece.own? = source := by
  have hplain : Edit.merge [] source = source := by
    have hcopy : Edit.copy [] 0 source = source := Edit.copy_eq_self fun _ _ _ => rfl
    rw [Edit.merge, hcopy]
    exact List.append_nil source
  calc (pieces es source).filterMap Piece.own?
      = (List.range (source.length + 1)).flatMap fun p =>
          (piecesAt es source p).filterMap Piece.own? := by rw [pieces, List.filterMap_flatMap]
    _ = (List.range (source.length + 1)).flatMap fun p =>
          Edit.textsAt [] p ++ source[p]?.toList :=
        List.flatMap_congr fun p _ => filterMap_own?_piecesAt es source p
    _ = source := by rw [← Edit.merge_eq_flatMap, hplain]

def Edit.Fits (length : Nat) (e : Edit) : Prop := 0 ≤ e.position ∧ e.position ≤ length

instance (length : Nat) (e : Edit) : Decidable (e.Fits length) :=
  inferInstanceAs (Decidable (0 ≤ e.position ∧ e.position ≤ length))

/-- The place that is named if some edits cannot be made: the least of all places if that lies in
front of the text, and otherwise the least of those behind it. -/
structure FirstOutside (length : Nat) (es : List Edit) (p : Int) : Prop where
  mem : ∃ e ∈ es, e.position = p
  least : (p < 0 ∧ ∀ e ∈ es, p ≤ e.position) ∨
    ((length : Int) < p ∧ ∀ e ∈ es, 0 ≤ e.position ∧ ((length : Int) < e.position → p ≤ e.position))

variable {length : Nat} {es : List Edit} {p q : Int}

theorem FirstOutside.not_fits (h : FirstOutside length es p) : ∃ e ∈ es, ¬e.Fits length := by
  obtain ⟨e, he, rfl⟩ := h.mem
  refine ⟨e, he, ?_⟩
  rintro ⟨hlow, hhigh⟩
  rcases h.least with ⟨hneg, -⟩ | ⟨hpast, -⟩ <;> omega

theorem FirstOutside.unique (hp : FirstOutside length es p) (hq : FirstOutside length es q) :
    p = q := by
  obtain ⟨a, ha, rfl⟩ := hp.mem
  obtain ⟨b, hb, rfl⟩ := hq.mem
  rcases hp.least with ⟨ha0, hpa⟩ | ⟨ha0, hpa⟩ <;> rcases hq.least with ⟨hb0, hqb⟩ | ⟨hb0, hqb⟩
  · have := hpa b hb
    have := hqb a ha
    omega
  · have := (hqb a ha).1
    omega
  · have := (hpa b hb).1
    omega
  · have := (hpa b hb).2 hb0
    have := (hqb a ha).2 ha0
    omega

theorem FirstOutside.congr {es' : List Edit} (hes : ∀ e, e ∈ es' ↔ e ∈ es)
    (h : FirstOutside length es p) : FirstOutside length es' p := by
  obtain ⟨⟨e, he, hep⟩, hleast⟩ := h
  refine ⟨⟨e, (hes e).mpr he, hep⟩, ?_⟩
  rcases hleast with ⟨hneg, hall⟩ | ⟨hpast, hall⟩
  · exact .inl ⟨hneg, fun x hx => hall x ((hes x).mp hx)⟩
  · exact .inr ⟨hpast, fun x hx => hall x ((hes x).mp hx)⟩

theorem Edit.exists_firstOutside (cursor : Nat) (rest : Bytes)
    (hsorted : es.Pairwise fun a b => precedes a b = true) (hout : ∃ e ∈ es, ¬e.Fits length) :
    ∃ p, FirstOutside length es p ∧ apply length es cursor rest = .error (.outside p) := by
  induction es generalizing cursor rest with
  | nil =>
    obtain ⟨e, he, -⟩ := hout
    cases he
  | cons e es ih =>
    obtain ⟨hfirst, hsorted⟩ := List.pairwise_cons.mp hsorted
    have hlater : ∀ x ∈ es, e.position ≤ x.position := by
      intro x hx
      rcases (precedes_iff e x).mp (hfirst x hx) with hlt | ⟨heq, -⟩ <;> omega
    rw [apply]
    split_ifs with he
    · refine ⟨e.position, ⟨⟨e, List.mem_cons_self, rfl⟩, ?_⟩, rfl⟩
      rcases he with hneg | hpast
      · refine .inl ⟨hneg, fun x hx => ?_⟩
        rcases List.mem_cons.mp hx with rfl | hx
        · exact Int.le_refl _
        · exact hlater x hx
      · refine .inr ⟨hpast, fun x hx => ?_⟩
        rcases List.mem_cons.mp hx with rfl | hx
        · omega
        · have := hlater x hx
          omega
    · have hout : ∃ x ∈ es, ¬x.Fits length := by
        obtain ⟨x, hx, hnot⟩ := hout
        rcases List.mem_cons.mp hx with rfl | hx
        · exact absurd ⟨by omega, by omega⟩ hnot
        · exact ⟨x, hx, hnot⟩
      obtain ⟨p, hp, happly⟩ := ih e.position.toNat
        (rest.drop (e.position.toNat - cursor)) hsorted hout
      refine ⟨p, ⟨?_, ?_⟩, ?_⟩
      · obtain ⟨x, hx, hxp⟩ := hp.mem
        exact ⟨x, List.mem_cons_of_mem e hx, hxp⟩
      · -- the first edit lies within the text, so that no later one lies in front of it
        obtain ⟨x, hx, rfl⟩ := hp.mem
        have hxlow := hlater x hx
        rcases hp.least with ⟨hneg, -⟩ | ⟨hpast, hall⟩
        · omega
        · refine .inr ⟨hpast, fun y hy => ?_⟩
          rcases List.mem_cons.mp hy with rfl | hy
          · omega
          · exact hall y hy
      · dsimp only
        rw [happly]

variable {source : Bytes} {edits : List Edit}

theorem exists_render_eq_outside (h : ∃ e ∈ edits, ¬e.Fits source.length) :
    ∃ p, FirstOutside source.length edits p ∧ render source edits = .error (.outside p) := by
  have hmem (e : Edit) : e ∈ edits ↔ e ∈ Edit.sort edits := (Edit.perm_sort edits).mem_iff.symm
  have hsorted : ∃ e ∈ Edit.sort edits, ¬e.Fits source.length := by
    obtain ⟨e, he, hnot⟩ := h
    exact ⟨e, (hmem e).mp he, hnot⟩
  obtain ⟨p, hp, happly⟩ :=
    Edit.exists_firstOutside 0 source (Edit.pairwise_sort edits) hsorted
  refine ⟨p, hp.congr hmem, ?_⟩
  rw [render, happly]

theorem render_of_fits (h : ∀ e ∈ edits, e.Fits source.length) :
    render source edits = match Utf8.decode? (Edit.merge edits source) with
      | some s => .ok s
      | none => .error .undecodable := by
  have happly := Edit.apply_sort h
  unfold render
  cases hread : Utf8.decode? (Edit.merge edits source) <;> simp only [happly, hread]

theorem decode?_eq_none_iff {bytes : Bytes} :
    Utf8.decode? bytes = none ↔ ∀ s, Utf8.encode s ≠ bytes := by
  constructor
  · rintro h s rfl
    rw [Utf8.decode?_encode] at h
    cases h
  · intro h
    cases hs : Utf8.decode? bytes with
    | none => rfl
    | some s => exact absurd (Utf8.encode_of_decode? hs) (h s)

theorem render_eq_ok_iff (h : ∀ e ∈ edits, e.Fits source.length) (s : String) :
    render source edits = .ok s ↔ Utf8.encode s = Edit.merge edits source := by
  rw [render_of_fits h]
  constructor
  · intro hs
    split at hs
    · rename_i t ht
      cases hs
      exact Utf8.encode_of_decode? ht
    · cases hs
  · intro hs
    rw [← hs, Utf8.decode?_encode]

theorem render_eq_undecodable_iff (h : ∀ e ∈ edits, e.Fits source.length) :
    render source edits = .error .undecodable ↔ ∀ s, Utf8.encode s ≠ Edit.merge edits source := by
  rw [render_of_fits h, ← decode?_eq_none_iff]
  cases Utf8.decode? (Edit.merge edits source) <;> simp

theorem render_eq_outside_iff (p : Int) :
    render source edits = .error (.outside p) ↔ FirstOutside source.length edits p := by
  constructor
  · intro hrender
    have hnot : ¬∀ e ∈ edits, e.Fits source.length := by
      intro hfits
      rw [render_of_fits hfits] at hrender
      cases hs : Utf8.decode? (Edit.merge edits source) <;> simp [hs] at hrender
    push Not at hnot
    obtain ⟨q, hq, hrender'⟩ := exists_render_eq_outside hnot
    rw [hrender'] at hrender
    cases hrender
    exact hq
  · intro hp
    obtain ⟨q, hq, hrender⟩ := exists_render_eq_outside hp.not_fits
    rw [hrender, hp.unique hq]

theorem mem_iff_of_filter {edits' : List Edit}
    (h : ∀ p side, edits'.filter (Edit.isAt p side) = edits.filter (Edit.isAt p side)) (e : Edit) :
    e ∈ edits' ↔ e ∈ edits := by
  have hat : e.isAt e.position e.side = true := Edit.isAt_iff.mpr ⟨rfl, rfl⟩
  rw [← List.mem_filter.trans (and_iff_left hat), h, List.mem_filter.trans (and_iff_left hat)]

theorem render_congr {edits' : List Edit}
    (h : ∀ p side, edits'.filter (Edit.isAt p side) = edits.filter (Edit.isAt p side)) :
    render source edits' = render source edits := by
  have hmem := mem_iff_of_filter h
  by_cases hfits : ∀ e ∈ edits, e.Fits source.length
  · have hpieces (p : Nat) : piecesAt edits' source p = piecesAt edits source p := by
      rw [piecesAt, piecesAt, h, h]
    have hmerge : Edit.merge edits' source = Edit.merge edits source := by
      rw [← flatMap_bytes_pieces, ← flatMap_bytes_pieces, pieces, pieces,
        List.flatMap_congr fun p _ => hpieces p]
    rw [render_of_fits hfits, render_of_fits fun e he => hfits e ((hmem e).mp he), hmerge]
  · push Not at hfits
    obtain ⟨p, hp, hrender⟩ := exists_render_eq_outside hfits
    rw [hrender, render_eq_outside_iff]
    exact hp.congr hmem

/-- Rendering meets its description. Of places outside the source one is named, the least in front of
it or else the least behind it, and that whether or not the rest could be read. If there is none, the
result is the text whose bytes are the parts at all places in turn, and there is no result exactly if
these bytes are no text. The bytes of the source are all there, once and in order, between what is
inserted. Edits may change places as long as those on one side of one place stay in order. -/
theorem render_eq_pieces (source : Bytes) (edits : List Edit) :
    ((∃ e ∈ edits, ¬e.Fits source.length) ↔ ∃ p, render source edits = .error (.outside p)) ∧
    (∀ p, render source edits = .error (.outside p) ↔ FirstOutside source.length edits p) ∧
    ((∀ e ∈ edits, e.Fits source.length) →
      (∀ s, render source edits = .ok s ↔
        Utf8.encode s = (pieces edits source).flatMap Piece.bytes) ∧
      (render source edits = .error .undecodable ↔
        ∀ s, Utf8.encode s ≠ (pieces edits source).flatMap Piece.bytes)) ∧
    (pieces edits source).filterMap Piece.own? = source ∧
    ∀ edits', (∀ p side, edits'.filter (Edit.isAt p side) = edits.filter (Edit.isAt p side)) →
      render source edits' = render source edits := by
  refine ⟨?_, render_eq_outside_iff, ?_, filterMap_own?_pieces edits source, fun _ => render_congr⟩
  · constructor
    · intro h
      obtain ⟨p, -, hrender⟩ := exists_render_eq_outside h
      exact ⟨p, hrender⟩
    · rintro ⟨p, hrender⟩
      exact ((render_eq_outside_iff p).mp hrender).not_fits
  · intro hfits
    rw [flatMap_bytes_pieces]
    exact ⟨render_eq_ok_iff hfits, render_eq_undecodable_iff hfits⟩

/-- Edits out of order, two on one side of one place, one on its other side, an empty one and one at
the end. -/
theorem render_eq_pieces_out_of_order :
    let source := Utf8.encode "ab"
    let edits : List Edit := [.insertBefore 1 "(", .insertAfter 2 "!", .insertAfter 1 ")",
      .insertBefore 1 "<", .insertAfter 0 ""]
    (∀ e ∈ edits, e.Fits source.length) ∧ render source edits = .ok "a)(<b!" ∧
      render source (edits.reverse ++ [.insertBefore 7 ""]) = .error (.outside 7) := by
  intro source edits
  have hfits : ∀ e ∈ edits, e.Fits source.length := by decide
  obtain ⟨-, -, hok, -⟩ := render_eq_pieces source edits
  obtain ⟨-, houtside, -⟩ := render_eq_pieces source (edits.reverse ++ [.insertBefore 7 ""])
  refine ⟨hfits, ((hok hfits).1 _).mpr (by decide), (houtside 7).mpr ⟨?_, .inr ⟨by decide, ?_⟩⟩⟩
  · exact ⟨.insertBefore 7 "", by decide, rfl⟩
  · decide

end Sketchbook.Editing
