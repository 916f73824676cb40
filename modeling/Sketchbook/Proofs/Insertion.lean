import Mathlib.Data.List.Sort
import Sketchbook.Editing.Edit
import Sketchbook.Proofs.Encoding

namespace Sketchbook.Editing

open Sketchbook.Text

namespace Edit

theorem insert_eq_orderedInsert (e : Edit) (es : List Edit) :
    insert e es = es.orderedInsert (fun a b => precedes a b = true) e := by
  induction es with
  | nil => rfl
  | cons x es ih => rw [insert, List.orderedInsert_cons, ih]

theorem sort_eq_insertionSort (es : List Edit) :
    sort es = es.insertionSort fun a b => precedes a b = true := by
  induction es with
  | nil => rfl
  | cons e es ih => rw [sort, insert_eq_orderedInsert, List.insertionSort_cons, ih]

theorem precedes_iff (a b : Edit) : precedes a b = true ↔
    a.position < b.position ∨ a.position = b.position ∧ (a.side = .after ∨ b.side = .before) := by
  simp only [precedes, Bool.or_eq_true, Bool.and_eq_true, decide_eq_true_eq]

instance : Std.Total fun a b : Edit => precedes a b = true where
  total a b := by
    rw [precedes_iff, precedes_iff]
    cases a.side <;> cases b.side <;> simp <;> omega

instance : IsTrans Edit fun a b => precedes a b = true where
  trans a b c := by
    rw [precedes_iff, precedes_iff, precedes_iff]
    cases a.side <;> cases b.side <;> cases c.side <;> simp <;> omega

theorem pairwise_sort (es : List Edit) : (sort es).Pairwise fun a b => precedes a b = true := by
  rw [sort_eq_insertionSort]
  exact List.pairwise_insertionSort _ es

theorem perm_sort (es : List Edit) : (sort es).Perm es := by
  rw [sort_eq_insertionSort]
  exact List.perm_insertionSort _ es

def isAt (p : Int) (side : Side) (e : Edit) : Bool := e.position = p && e.side = side

theorem isAt_iff {p : Int} {side : Side} {e : Edit} :
    e.isAt p side = true ↔ e.position = p ∧ e.side = side := by
  simp only [isAt, Bool.and_eq_true, decide_eq_true_eq]

theorem precedes_of_isAt {p : Int} {side : Side} {a b : Edit} (ha : a.isAt p side = true)
    (hb : b.isAt p side = true) : precedes a b = true := by
  obtain ⟨hpa, hsa⟩ := isAt_iff.mp ha
  obtain ⟨hpb, hsb⟩ := isAt_iff.mp hb
  rw [precedes_iff, hpa, hpb, hsa, hsb]
  cases side <;> simp

theorem filter_isAt_sort (es : List Edit) (p : Int) (side : Side) :
    (sort es).filter (isAt p side) = es.filter (isAt p side) := by
  have hsame : (es.filter (isAt p side)).Pairwise fun a b => precedes a b = true :=
    List.pairwise_of_forall_mem_list fun a ha b hb =>
      precedes_of_isAt (List.mem_filter.mp ha).2 (List.mem_filter.mp hb).2
  have hsub : (es.filter (isAt p side)).Sublist (sort es) := by
    rw [sort_eq_insertionSort]
    exact List.sublist_insertionSort hsame List.filter_sublist
  -- as many edits are at the place before and after, so that the sublist is all of them
  have hfilter := hsub.filter (isAt p side)
  rw [List.filter_filter] at hfilter
  simp only [Bool.and_self] at hfilter
  exact (hfilter.eq_of_length ((perm_sort es).filter _).length_eq.symm).symm

/-- What is inserted at a place: the texts that close something before it, then those that open
something behind it. -/
def textsAt (es : List Edit) (p : Nat) : Bytes :=
  (es.filter (isAt p .after) ++ es.filter (isAt p .before)).flatMap fun e => Utf8.encode e.text

/-- A stretch of a text from a place on, with what is inserted in front of each of its bytes. -/
def copy (es : List Edit) : Nat → Bytes → Bytes
  | _, [] => []
  | p, b :: rest => textsAt es p ++ b :: copy es (p + 1) rest

def merge (es : List Edit) (source : Bytes) : Bytes :=
  copy es 0 source ++ textsAt es source.length

theorem textsAt_sort (es : List Edit) (p : Nat) : textsAt (sort es) p = textsAt es p := by
  rw [textsAt, textsAt, filter_isAt_sort, filter_isAt_sort]

theorem copy_congr {es es' : List Edit} {xs : Bytes} {p : Nat}
    (h : ∀ q, p ≤ q → q < p + xs.length → textsAt es q = textsAt es' q) :
    copy es p xs = copy es' p xs := by
  induction xs generalizing p with
  | nil => rfl
  | cons b xs ih =>
    rw [List.length_cons] at h
    rw [copy, copy, h p (Nat.le_refl p) (by omega), ih fun q hq hlt => h q (by omega) (by omega)]

theorem copy_append (es : List Edit) (p : Nat) (xs ys : Bytes) :
    copy es p (xs ++ ys) = copy es p xs ++ copy es (p + xs.length) ys := by
  induction xs generalizing p with
  | nil => rfl
  | cons b xs ih =>
    rw [List.cons_append, copy, copy, ih, List.append_assoc, List.cons_append, List.length_cons]
    congr 4
    omega

theorem copy_eq_self {es : List Edit} {xs : Bytes} {p : Nat}
    (h : ∀ q, p ≤ q → q < p + xs.length → textsAt es q = []) : copy es p xs = xs := by
  induction xs generalizing p with
  | nil => rfl
  | cons b xs ih =>
    rw [List.length_cons] at h
    rw [copy, h p (Nat.le_refl p) (by omega), ih fun q hq hlt => h q (by omega) (by omega)]
    rfl

theorem textsAt_eq_nil {es : List Edit} {p : Nat} (h : ∀ e ∈ es, e.position ≠ p) :
    textsAt es p = [] := by
  have hnone (side : Side) : es.filter (isAt p side) = [] :=
    List.filter_eq_nil_iff.mpr fun e he ha => h e he (isAt_iff.mp ha).1
  rw [textsAt, hnone, hnone]
  rfl

theorem textsAt_cons {e : Edit} {es : List Edit} {p : Nat} (hp : e.position = p)
    (h : ∀ x ∈ es, precedes e x = true) :
    textsAt (e :: es) p = Utf8.encode e.text ++ textsAt es p := by
  unfold textsAt
  cases hs : e.side with
  | after =>
    have ha : isAt p .after e = true := isAt_iff.mpr ⟨hp, hs⟩
    have hb : ¬isAt p .before e = true := fun hb => by
      rw [(isAt_iff.mp hb).2] at hs
      cases hs
    rw [List.filter_cons_of_pos ha, List.filter_cons_of_neg hb, List.cons_append,
      List.flatMap_cons]
  | before =>
    have ha : ¬isAt p .after e = true := fun ha => by
      rw [(isAt_iff.mp ha).2] at hs
      cases hs
    have hb : isAt p .before e = true := isAt_iff.mpr ⟨hp, hs⟩
    -- what closes something at the same place would come before it
    have hnone : es.filter (isAt p .after) = [] := by
      refine List.filter_eq_nil_iff.mpr fun x hx hxa => ?_
      obtain ⟨hxp, hxs⟩ := isAt_iff.mp hxa
      have hle := (precedes_iff e x).mp (h x hx)
      rw [hp, hxp, hs, hxs] at hle
      rcases hle with hlt | ⟨-, hside | hside⟩
      · omega
      · cases hside
      · cases hside
    rw [List.filter_cons_of_neg ha, hnone, List.filter_cons_of_pos hb, List.nil_append,
      List.nil_append, List.flatMap_cons]

theorem textsAt_cons_of_ne {e : Edit} {es : List Edit} {p : Nat} (hp : e.position ≠ p) :
    textsAt (e :: es) p = textsAt es p := by
  have hnone (side : Side) : ¬isAt p side e = true := fun ha => hp (isAt_iff.mp ha).1
  rw [textsAt, textsAt, List.filter_cons_of_neg (hnone _), List.filter_cons_of_neg (hnone _)]

theorem copy_cons {e : Edit} {es : List Edit} {p length : Nat} {rest : Bytes} (hp : e.position = p)
    (h : ∀ x ∈ es, precedes e x = true) (hrest : p + rest.length = length) :
    copy (e :: es) p rest ++ textsAt (e :: es) length =
      Utf8.encode e.text ++ (copy es p rest ++ textsAt es length) := by
  cases rest with
  | nil =>
    have hl : p = length := hrest
    subst hl
    exact textsAt_cons hp h
  | cons b rest =>
    rw [List.length_cons] at hrest
    have htail : copy (e :: es) (p + 1) rest = copy es (p + 1) rest :=
      copy_congr fun q hq _ => textsAt_cons_of_ne (by omega)
    rw [copy, copy, textsAt_cons hp h, htail, textsAt_cons_of_ne (by omega)]
    simp only [List.append_assoc, List.cons_append]

theorem apply_eq_copy {length : Nat} {es : List Edit} {cursor : Nat} {rest : Bytes}
    (hsorted : es.Pairwise fun a b => precedes a b = true)
    (hlow : ∀ e ∈ es, (cursor : Int) ≤ e.position) (hhigh : ∀ e ∈ es, e.position ≤ length)
    (hrest : cursor + rest.length = length) :
    apply length es cursor rest = .ok (copy es cursor rest ++ textsAt es length) := by
  induction es generalizing cursor rest with
  | nil =>
    have hcopy : copy [] cursor rest = rest := copy_eq_self fun _ _ _ => rfl
    rw [apply, hcopy]
    exact congrArg _ (List.append_nil rest).symm
  | cons e es ih =>
    obtain ⟨hfirst, hsorted⟩ := List.pairwise_cons.mp hsorted
    have hle := hlow e List.mem_cons_self
    have hge := hhigh e List.mem_cons_self
    have hlater (x : Edit) (hx : x ∈ es) : e.position ≤ x.position := by
      rcases (precedes_iff e x).mp (hfirst x hx) with hlt | ⟨heq, -⟩ <;> omega
    obtain ⟨q, hq⟩ : ∃ q : Nat, e.position = q := ⟨e.position.toNat, by omega⟩
    have hdrop : q + (rest.drop (q - cursor)).length = length := by
      rw [List.length_drop]
      omega
    -- what is copied up to the first edit is as it was, as all edits come later
    have hnext : apply length es q (rest.drop (q - cursor)) =
        .ok (copy es q (rest.drop (q - cursor)) ++ textsAt es length) :=
      ih hsorted (fun x hx => hq ▸ hlater x hx) (fun x hx => hhigh x (List.mem_cons_of_mem _ hx))
        hdrop
    have htake : copy (e :: es) cursor (rest.take (q - cursor)) = rest.take (q - cursor) := by
      refine copy_eq_self fun p _ hp => textsAt_eq_nil fun x hx => ?_
      rw [List.length_take] at hp
      rcases List.mem_cons.mp hx with rfl | hx
      · omega
      · have := hlater x hx
        omega
    have hsplit := copy_append (e :: es) cursor (rest.take (q - cursor)) (rest.drop (q - cursor))
    have hcursor : cursor + (rest.take (q - cursor)).length = q := by
      rw [List.length_take]
      omega
    rw [List.take_append_drop, htake, hcursor] at hsplit
    rw [apply, if_neg (by omega), hq, Int.toNat_natCast]
    dsimp only
    rw [hnext, hsplit, List.append_assoc (rest.take _) (copy (e :: es) q _),
      copy_cons hq hfirst hdrop, ← List.append_assoc (rest.take _)]

theorem apply_sort {source : Bytes} {edits : List Edit}
    (h : ∀ e ∈ edits, 0 ≤ e.position ∧ e.position ≤ source.length) :
    apply source.length (sort edits) 0 source = .ok (merge edits source) := by
  have hinside : ∀ e ∈ sort edits, 0 ≤ e.position ∧ e.position ≤ source.length :=
    fun e he => h e ((perm_sort edits).mem_iff.mp he)
  have hcopy : copy (sort edits) 0 source = copy edits 0 source :=
    copy_congr fun q _ _ => textsAt_sort edits q
  rw [apply_eq_copy (pairwise_sort edits) (fun e he => (hinside e he).1)
    (fun e he => (hinside e he).2) (Nat.zero_add _), hcopy, textsAt_sort, merge]

theorem inside_of_apply {length : Nat} {es : List Edit} {cursor : Nat} {rest bytes : Bytes}
    (h : apply length es cursor rest = .ok bytes) :
    ∀ e ∈ es, 0 ≤ e.position ∧ e.position ≤ length := by
  induction es generalizing cursor rest bytes with
  | nil =>
    intro e he
    cases he
  | cons x es ih =>
    rw [apply] at h
    split_ifs at h with hx
    cases hr : apply length es x.position.toNat (rest.drop (x.position.toNat - cursor)) with
    | error _ =>
      simp only [hr] at h
      cases h
    | ok tail =>
      intro e he
      rcases List.mem_cons.mp he with rfl | he
      · omega
      · exact ih hr e he

theorem textsAt_prefix_copy (es : List Edit) {p length : Nat} {rest : Bytes}
    (hrest : p + rest.length = length) :
    textsAt es p <+: copy es p rest ++ textsAt es length := by
  cases rest with
  | nil =>
    have hl : p = length := hrest
    subst hl
    exact List.prefix_rfl
  | cons b rest =>
    rw [copy, List.append_assoc]
    exact List.prefix_append _ _

def slice (source : Bytes) (start stop : Nat) : Bytes := (source.drop start).take (stop - start)

theorem length_slice {source : Bytes} {start stop : Nat} (h : stop ≤ source.length) :
    (slice source start stop).length = stop - start := by
  rw [slice, List.length_take, List.length_drop]
  omega

theorem getElem?_slice {source : Bytes} {start stop : Nat} (i : Nat) :
    (slice source start stop)[i]? = if i < stop - start then source[start + i]? else none := by
  rw [slice, List.getElem?_take, List.getElem?_drop]

theorem slice_eq_slice_iff {source other : Bytes} {start stop : Nat} :
    slice source start stop = slice other start stop ↔
      ∀ i, start ≤ i → i < stop → source[i]? = other[i]? := by
  constructor
  · intro h i hlow hhigh
    have hi : (slice source start stop)[i - start]? = (slice other start stop)[i - start]? := by
      rw [h]
    rw [getElem?_slice, getElem?_slice, if_pos (by omega), if_pos (by omega)] at hi
    rwa [Nat.add_sub_cancel' hlow] at hi
  · intro h
    apply List.ext_getElem?
    intro i
    rw [getElem?_slice, getElem?_slice]
    split_ifs with hi
    · exact h _ (Nat.le_add_right _ _) (by omega)
    · rfl

theorem slice_eq_cons {source : Bytes} {start stop : Nat} {b : UInt8} (h : start < stop)
    (hb : source[start]? = some b) :
    slice source start stop = b :: slice source (start + 1) stop := by
  obtain ⟨hlt, hget⟩ := List.getElem?_eq_some_iff.mp hb
  have hlength : stop - start = stop - (start + 1) + 1 := by omega
  rw [slice, List.drop_eq_getElem_cons hlt, hget, hlength, List.take_succ_cons]
  rfl

theorem take_append_slice (source : Bytes) {start stop : Nat} (h : start ≤ stop) :
    source = source.take start ++ (slice source start stop ++ source.drop stop) := by
  have hdrop : source.drop stop = (source.drop start).drop (stop - start) := by
    rw [List.drop_drop]
    congr 1
    omega
  rw [slice, hdrop, List.take_append_drop, List.take_append_drop]

theorem merge_split (es : List Edit) {source : Bytes} {start stop : Nat} (hle : start ≤ stop)
    (hstop : stop ≤ source.length) :
    merge es source = copy es 0 (source.take start) ++ (copy es start (slice source start stop) ++
      (copy es stop (source.drop stop) ++ textsAt es source.length)) := by
  have hstart : 0 + (source.take start).length = start := by
    rw [List.length_take]
    omega
  have hmiddle : start + (slice source start stop).length = stop := by
    rw [length_slice hstop]
    omega
  have hcopy : copy es 0 source = copy es 0 (source.take start) ++
      (copy es start (slice source start stop) ++ copy es stop (source.drop stop)) := by
    conv_lhs => rw [take_append_slice source hle]
    rw [copy_append, copy_append, hstart, hmiddle]
  rw [merge, hcopy, List.append_assoc, List.append_assoc]

/-- A stretch within which nothing is inserted stands as it is in the result, between what is inserted
at its ends. -/
theorem exists_merge_eq {es : List Edit} {source : Bytes} {start stop : Nat} (hlt : start < stop)
    (hstop : stop ≤ source.length) (h : ∀ q, start < q → q < stop → textsAt es q = []) :
    ∃ front rest, merge es source =
      front ++ textsAt es start ++ slice source start stop ++ (textsAt es stop ++ rest) := by
  have hcopy : copy es start (slice source start stop) =
      textsAt es start ++ slice source start stop := by
    have hlength : (slice source start stop).length = stop - start := length_slice hstop
    cases hs : slice source start stop with
    | nil =>
      rw [hs, List.length_nil] at hlength
      omega
    | cons b t =>
      rw [hs, List.length_cons] at hlength
      rw [copy, copy_eq_self fun q hq hq' => h q (by omega) (by omega)]
  have hend : stop + (source.drop stop).length = source.length := by
    rw [List.length_drop]
    omega
  obtain ⟨rest, hrest⟩ := textsAt_prefix_copy es hend
  refine ⟨copy es 0 (source.take start), rest, ?_⟩
  rw [merge_split es (Nat.le_of_lt hlt) hstop, hcopy, ← hrest]
  simp only [List.append_assoc]

/-- Whether an edit is made between what opens at one place and what closes at another. -/
def IsWithin (start stop : Nat) (e : Edit) : Prop :=
  (start < e.position ∧ e.position < stop) ∨ (e.position = start ∧ e.side = .before) ∨
    (e.position = stop ∧ e.side = .after)

/-- What goes with a pair of texts at its ends: the opening text comes last of all at its place, and
the closing text first. -/
structure Encloses (es : List Edit) (start stop : Nat) (opener closer : String) : Prop where
  atStart : ∃ before, textsAt es start = before ++ Utf8.encode opener
  between : ∀ q, start < q → q < stop → textsAt es q = []
  atStop : ∃ after, textsAt es stop = Utf8.encode closer ++ after

theorem encloses_of_pair {front back : List Edit} {start stop : Nat} {opener closer : String}
    (h : ∀ e ∈ front ++ back, ¬e.IsWithin start stop) :
    Encloses (front ++ [insertBefore start opener, insertAfter stop closer] ++ back) start stop
      opener closer := by
  -- under a name the pair is not split up when the filters are moved in
  obtain ⟨pair, hpair⟩ : ∃ pair, pair = [insertBefore start opener, insertAfter stop closer] :=
    ⟨_, rfl⟩
  have hother (p : Int) (side : Side) (hp : ∀ e ∈ front ++ back, ¬e.isAt p side = true) :
      (front ++ pair ++ back).filter (isAt p side) = pair.filter (isAt p side) := by
    have hfront : front.filter (isAt p side) = [] :=
      List.filter_eq_nil_iff.mpr fun e he => hp e (List.mem_append_left _ he)
    have hback : back.filter (isAt p side) = [] :=
      List.filter_eq_nil_iff.mpr fun e he => hp e (List.mem_append_right _ he)
    rw [List.filter_append, List.filter_append, hfront, hback, List.nil_append, List.append_nil]
  have hopen : (front ++ pair ++ back).filter (isAt start .before) =
      [insertBefore start opener] := by
    rw [hother _ _ fun e he ha => h e he (.inr (.inl (isAt_iff.mp ha))), hpair]
    simp [isAt, insertBefore, insertAfter]
  have hclose : (front ++ pair ++ back).filter (isAt stop .after) = [insertAfter stop closer] := by
    rw [hother _ _ fun e he ha => h e he (.inr (.inr (isAt_iff.mp ha))), hpair]
    simp [isAt, insertBefore, insertAfter]
  rw [← hpair]
  constructor
  · refine ⟨((front ++ pair ++ back).filter (isAt start .after)).flatMap
      fun e => Utf8.encode e.text, ?_⟩
    rw [textsAt, hopen, List.flatMap_append, List.flatMap_singleton]
    rfl
  · intro q hq hq'
    refine textsAt_eq_nil fun e he hpos => ?_
    rw [List.append_assoc, List.mem_append, List.mem_append] at he
    rcases he with he | he | he
    · exact h e (List.mem_append_left _ he) (.inl (by omega))
    · rw [hpair, List.mem_cons, List.mem_singleton] at he
      rcases he with rfl | rfl <;> simp only [insertBefore, insertAfter] at hpos <;> omega
    · exact h e (List.mem_append_right _ he) (.inl (by omega))
  · refine ⟨((front ++ pair ++ back).filter (isAt stop .before)).flatMap
      fun e => Utf8.encode e.text, ?_⟩
    rw [textsAt, hclose, List.flatMap_append, List.flatMap_singleton]
    rfl

theorem Encloses.merge_eq {es : List Edit} {source : Bytes} {start stop : Nat}
    {opener closer : String} (h : Encloses es start stop opener closer) (hlt : start < stop)
    (hstop : stop ≤ source.length) :
    ∃ before after, merge es source = before ++ Utf8.encode opener ++ slice source start stop ++
      Utf8.encode closer ++ after := by
  obtain ⟨before, hbefore⟩ := h.atStart
  obtain ⟨after, hafter⟩ := h.atStop
  obtain ⟨front, rest, hmerge⟩ := exists_merge_eq hlt hstop h.between
  refine ⟨front ++ before, after ++ rest, ?_⟩
  rw [hmerge, hbefore, hafter]
  simp only [List.append_assoc]

end Edit

theorem encode_render {source : Bytes} {edits : List Edit} {s : String}
    (h : render source edits = .ok s) :
    Utf8.encode s = Edit.merge edits source ∧
      ∀ e ∈ edits, 0 ≤ e.position ∧ e.position ≤ source.length := by
  unfold render at h
  split at h
  · cases h
  · rename_i bytes hbytes
    split at h
    · rename_i t ht
      cases h
      have hinside : ∀ e ∈ edits, 0 ≤ e.position ∧ e.position ≤ source.length := fun e he =>
        Edit.inside_of_apply hbytes e ((Edit.perm_sort edits).mem_iff.mpr he)
      rw [Edit.apply_sort hinside, Except.ok.injEq] at hbytes
      exact ⟨(Utf8.encode_of_decode? ht).trans hbytes.symm, hinside⟩
    · cases h

end Sketchbook.Editing
