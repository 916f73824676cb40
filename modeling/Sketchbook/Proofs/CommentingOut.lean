import Sketchbook.Proofs.Copying
import Sketchbook.Proofs.Interleaving
import Sketchbook.Proofs.Neighbours

namespace Sketchbook

open Sketchbook.Editing Sketchbook.Text Sketchbook.Text.Utf8

namespace Wrap

def ofSpan (a : Span) : Wrap := ⟨a.start, a.stop, Edit.commentOpen, Edit.commentClose⟩

@[simp] theorem ofSpan_start (a : Span) : (ofSpan a).start = a.start := rfl

@[simp] theorem ofSpan_stop (a : Span) : (ofSpan a).stop = a.stop := rfl

theorem flatMap_edits_ofSpan (spans : List Span) :
    (spans.map ofSpan).flatMap edits = spans.flatMap fun a => Edit.commentOut a.start a.stop := by
  rw [List.flatMap_map]
  rfl

variable {p : Nat} {w : Wrap} {front back : List Wrap} {source : Bytes}

theorem replace_split (f : Wrap → Bytes) (h : Lined p source.length (front ++ w :: back)) :
    replace f source p (front ++ w :: back) = replace f (source.take w.start.toNat) p front ++ f w ++
      replace f source w.stop.toNat back := by
  induction front generalizing p with
  | nil =>
    have hslice : (source.take w.start.toNat).drop p = Edit.slice source p w.start.toNat := by
      rw [List.drop_take, Edit.slice]
    rw [List.nil_append, replace, replace, hslice]
  | cons v front ih =>
    -- the first stretch begins in front of the one at which the text is cut
    have hle : v.start.toNat ≤ w.start.toNat := by
      have hsolid := h.solid v List.mem_cons_self
      have hbehind := (List.pairwise_cons.mp h.ordered).1 w
        (List.mem_append_right front List.mem_cons_self)
      omega
    have hslice : Edit.slice (source.take w.start.toNat) p v.start.toNat =
        Edit.slice source p v.start.toNat := by
      rw [Edit.slice, Edit.slice, List.drop_take, List.take_take]
      congr 1
      omega
    rw [List.cons_append, replace, replace, ih h.tail, hslice]
    simp only [List.append_assoc]

end Wrap

namespace Editing

variable {source : Bytes} {spans order : List Span}

theorem lined_sort (hinside : ∀ a ∈ spans, 0 ≤ a.start ∧ a.start < a.stop ∧ a.stop ≤ source.length)
    (hcheck : Span.checkDisjoint spans = .ok ()) :
    Wrap.Lined 0 source.length ((Span.sort spans).map Wrap.ofSpan) := by
  have hsorted : ∀ a ∈ Span.sort spans, 0 ≤ a.start ∧ a.start < a.stop ∧ a.stop ≤ source.length := by
    intro a ha
    exact hinside a ((Span.perm_sort spans).mem_iff.mp ha)
  have hordered : (Span.sort spans).Pairwise fun a b => a.stop ≤ b.start := by
    apply Span.pairwise_of_isChain
    · intro a ha
      exact Int.le_of_lt (hsorted a ha).2.1
    · exact Span.checkDisjoint_eq_ok_iff.mp hcheck
  constructor
  · intro w hw
    obtain ⟨a, ha, rfl⟩ := List.mem_map.mp hw
    exact (hsorted a ha).2.1
  · intro w hw
    obtain ⟨a, ha, rfl⟩ := List.mem_map.mp hw
    exact (hsorted a ha).1
  · intro w hw
    obtain ⟨a, ha, rfl⟩ := List.mem_map.mp hw
    exact (hsorted a ha).2.2
  · exact List.pairwise_map.mpr hordered

theorem fits_commentOut
    (hinside : ∀ a ∈ order, 0 ≤ a.start ∧ a.start < a.stop ∧ a.stop ≤ source.length) :
    ∀ e ∈ order.flatMap (fun a => Edit.commentOut a.start a.stop), e.Fits source.length := by
  intro e he
  obtain ⟨a, ha, he⟩ := List.mem_flatMap.mp he
  obtain ⟨hlow, hlt, hhigh⟩ := hinside a ha
  rw [Edit.commentOut, List.mem_cons, List.mem_singleton] at he
  rcases he with rfl | rfl
  · show 0 ≤ a.start ∧ a.start ≤ source.length
    omega
  · show 0 ≤ a.stop ∧ a.stop ≤ source.length
    omega

theorem merge_commentOut {ws : List Wrap} (hlined : Wrap.Lined 0 source.length ws)
    (hperm : (order.map Wrap.ofSpan).Perm ws) :
    Edit.merge (order.flatMap fun a => Edit.commentOut a.start a.stop) source =
      Wrap.replace (Wrap.enclosed source) source 0 ws := by
  have hedits : (order.flatMap fun a => Edit.commentOut a.start a.stop).Perm
      (ws.flatMap Wrap.edits) := by
    rw [← Wrap.flatMap_edits_ofSpan]
    exact hperm.flatMap_right Wrap.edits
  exact Wrap.merge_eq_replace hlined hedits

/-- A text can be read once spans of it are commented out exactly if none of them starts or stops
within a character. -/
theorem exists_render_commentOut_iff {t : String}
    (hinside : ∀ a ∈ order, 0 ≤ a.start ∧ a.start < a.stop ∧ a.stop ≤ (encode t).length) :
    (∃ s, render (encode t) (order.flatMap fun a => Edit.commentOut a.start a.stop) = .ok s) ↔
      ∀ a ∈ order, ¬Splits t.toList a.start ∧ ¬Splits t.toList a.stop := by
  have hfits := fits_commentOut hinside
  have hmem {a : Span} (ha : a ∈ order) {e : Edit} (he : e ∈ Edit.commentOut a.start a.stop) :
      e ∈ order.flatMap fun a => Edit.commentOut a.start a.stop :=
    List.mem_flatMap.mpr ⟨a, ha, he⟩
  constructor
  · rintro ⟨s, hs⟩
    -- an end within a character would leave bytes that are no text
    have hclear : ∀ e ∈ order.flatMap fun a => Edit.commentOut a.start a.stop,
        e.text ≠ "" → ¬Splits t.toList e.position := by
      intro e he htext hsplits
      exact Edit.merge_ne_encode ⟨e, he, htext, hsplits⟩ s ((render_eq_ok_iff hfits s).mp hs)
    intro a ha
    constructor
    · have hopen : Edit.commentOpen ≠ "" := by decide
      exact hclear _ (hmem ha List.mem_cons_self) hopen
    · have hclose : Edit.commentClose ≠ "" := by decide
      exact hclear _ (hmem ha (List.mem_cons_of_mem _ (List.mem_singleton_self _))) hclose
  · intro h
    refine ⟨_, (render_eq_ok_iff hfits _).mpr (Edit.merge_eq_spell ?_).symm⟩
    intro e he _
    obtain ⟨a, ha, he⟩ := List.mem_flatMap.mp he
    rw [Edit.commentOut, List.mem_cons, List.mem_singleton] at he
    rcases he with rfl | rfl
    · exact (h a ha).1
    · exact (h a ha).2

/-- A source with spans commented out that pass the check. The spans lie one behind the other, and
with themselves in their places they leave the source as it is. What is made of the source, in
whatever order the spans are given, has in the place of each span the span between the two texts of
a comment, and all else as it was; so one of the comments and what stands in front of it and behind
it make up the whole, and no comment is within another. The result is the text of these bytes, and
of a source that is a text there is one exactly if no span starts or stops within a character. -/
theorem render_commentOut (source : Bytes) (spans : List Span)
    (hinside : ∀ a ∈ spans, 0 ≤ a.start ∧ a.start < a.stop ∧ a.stop ≤ source.length)
    (hcheck : Span.checkDisjoint spans = .ok ()) :
    let ws := (Span.sort spans).map Wrap.ofSpan
    let result := Wrap.replace (Wrap.enclosed source) source 0 ws
    (Span.sort spans).Perm spans ∧ Wrap.Lined 0 source.length ws ∧
    Wrap.replace (Wrap.bytes source) source 0 ws = source ∧
    (∀ front a back, Span.sort spans = front ++ a :: back →
      result = Wrap.replace (Wrap.enclosed source) (source.take a.start.toNat) 0
          (front.map Wrap.ofSpan) ++
        (encode Edit.commentOpen ++ Edit.slice source a.start.toNat a.stop.toNat ++
          encode Edit.commentClose) ++
        Wrap.replace (Wrap.enclosed source) source a.stop.toNat (back.map Wrap.ofSpan)) ∧
    ∀ order : List Span, order.Perm spans →
      let edits := order.flatMap fun a => Edit.commentOut a.start a.stop
      Edit.apply source.length (Edit.sort edits) 0 source = .ok result ∧
      (∀ s, render source edits = .ok s ↔ encode s = result) ∧
      (render source edits = .error .undecodable ↔ ∀ s, encode s ≠ result) ∧
      ∀ t, source = encode t → ((∃ s, render source edits = .ok s) ↔
        ∀ a ∈ spans, ¬Splits t.toList a.start ∧ ¬Splits t.toList a.stop) := by
  intro ws result
  have hlined := lined_sort hinside hcheck
  refine ⟨Span.perm_sort spans, hlined, ?_, ?_, ?_⟩
  · rw [Wrap.replace_bytes hlined, List.drop_zero]
  · intro front a back hsplit
    have hws : ws = front.map Wrap.ofSpan ++ Wrap.ofSpan a :: back.map Wrap.ofSpan := by
      show (Span.sort spans).map Wrap.ofSpan = _
      rw [hsplit, List.map_append, List.map_cons]
    show Wrap.replace _ source 0 ws = _
    rw [hws]
    exact Wrap.replace_split _ (hws ▸ hlined)
  · intro order horder edits
    have hinside' : ∀ a ∈ order, 0 ≤ a.start ∧ a.start < a.stop ∧ a.stop ≤ source.length := by
      intro a ha
      exact hinside a (horder.mem_iff.mp ha)
    have hfits := fits_commentOut hinside'
    -- edits in any order come to the same bytes
    have hperm : (order.map Wrap.ofSpan).Perm ws :=
      (horder.trans (Span.perm_sort spans).symm).map Wrap.ofSpan
    have hmerge : Edit.merge edits source = result := merge_commentOut hlined hperm
    rw [← hmerge]
    refine ⟨Edit.apply_sort hfits, render_eq_ok_iff hfits, render_eq_undecodable_iff hfits, ?_⟩
    rintro t rfl
    rw [exists_render_commentOut_iff hinside']
    constructor
    · intro h a ha
      exact h a (horder.mem_iff.mpr ha)
    · intro h a ha
      exact h a (horder.mem_iff.mp ha)

/-- Two spans that touch and one behind them, given out of order, in a text with a character of two
bytes. -/
theorem render_commentOut_touching :
    let source := encode "éab;c"
    let spans : List Span := [⟨3, 4⟩, ⟨5, 6⟩, ⟨0, 3⟩]
    (∀ a ∈ spans, 0 ≤ a.start ∧ a.start < a.stop ∧ a.stop ≤ source.length) ∧
      Span.checkDisjoint spans = .ok () ∧
      render source (spans.reverse.flatMap fun a => Edit.commentOut a.start a.stop) =
        .ok ("/* commented out by preprocessor: éa */ print(\"\")" ++
          "/* commented out by preprocessor: b */ print(\"\");" ++
          "/* commented out by preprocessor: c */ print(\"\")") := by
  intro source spans
  have hinside : ∀ a ∈ spans, 0 ≤ a.start ∧ a.start < a.stop ∧ a.stop ≤ source.length := by decide
  have hcheck : Span.checkDisjoint spans = .ok () := by decide
  obtain ⟨-, -, -, -, hrender⟩ := render_commentOut source spans hinside hcheck
  obtain ⟨-, hok, -, -⟩ := hrender spans.reverse (List.reverse_perm spans)
  exact ⟨hinside, hcheck, (hok _).mpr (by decide +kernel)⟩

/-- Spans may pass the check and leave bytes that are no text: one that ends within a character, and
none at all in a source that was no text before. -/
theorem checked_span_splits_character :
    let source := encode "é"
    let spans : List Span := [⟨0, 1⟩]
    (∀ a ∈ spans, 0 ≤ a.start ∧ a.start < a.stop ∧ a.stop ≤ source.length) ∧
      Span.checkDisjoint spans = .ok () ∧ Span.checkDisjoint [] = .ok () ∧
      render source (spans.flatMap fun a => Edit.commentOut a.start a.stop) =
        .error .undecodable ∧
      render [255] [] = .error .undecodable := by
  decide +kernel

end Editing

end Sketchbook
