import Sketchbook.Config.Reading
import Sketchbook.Proofs.Interleaving
import Sketchbook.Proofs.Rows

/-!
Every sketch is made into a class file. Blanking out imports leaves a text a text, so that the trees
of a sketch are well placed in both of its readings. Main statement: a run with a valid name gives a
result unless its lines get too wide, and all its edits are made within the sketch.
-/
namespace Sketchbook

open Sketchbook.Syntax (Node Role)
open Sketchbook.Settings Sketchbook.Editing Sketchbook.Text Sketchbook.Text.Utf8

namespace Text

theorem blankSplit_eq_nil_iff {cs : List Char} :
    blankSplit cs = [] ↔ ∀ c ∈ cs, isBlank c = true := by
  fun_induction blankSplit cs with
  | case1 => simp
  | case2 c rest hc ih =>
    rw [ih]
    simp [hc]
  | case3 c hc => simp [hc]
  | case4 c hc d rest hd ih => simp [hc]
  | case5 c hc d rest hd w ws hws ih => simp [hws, hc]
  | case6 c hc d rest hd hws ih => simp [hws, hc]

end Text

namespace Sketch

/-- In a sketch that was read inside a class, calls lie in the part that is the sketch. -/
def CallsWithin (s : Sketch) (source : Bytes) : Prop :=
  s.isWrapped = true → ∀ n ∈ subtrees s.root, n.kind = "method_invocation" →
    s.offset ≤ n.start ∧ n.stop ≤ s.offset + source.length

instance (s : Sketch) (source : Bytes) : Decidable (CallsWithin s source) :=
  inferInstanceAs (Decidable (s.isWrapped = true → ∀ n ∈ subtrees s.root, _ →
    s.offset ≤ n.start ∧ n.stop ≤ s.offset + source.length))

/-- In a sketch that was read inside a class, calls lie in the part that is the sketch, and begin
and end between characters of it. -/
def CallsInside (s : Sketch) (source : Bytes) : Prop :=
  s.isWrapped = true → ∀ n ∈ subtrees s.root, n.kind = "method_invocation" →
    ∀ i ∈ [n.start, n.stop], s.offset ≤ i ∧ IsBoundary source (i - s.offset)

instance (s : Sketch) (source : Bytes) : Decidable (CallsInside s source) :=
  inferInstanceAs (Decidable (s.isWrapped = true → ∀ n ∈ subtrees s.root, _ →
    ∀ i ∈ [n.start, n.stop], s.offset ≤ i ∧ IsBoundary source (i - s.offset)))

theorem callsWithin_of_plain {s : Sketch} (h : s.isWrapped = false) (source : Bytes) :
    s.CallsWithin source := by
  intro hw
  rw [h] at hw
  cases hw

theorem callsInside_of_plain {s : Sketch} (h : s.isWrapped = false) (source : Bytes) :
    s.CallsInside source := by
  intro hw
  rw [h] at hw
  cases hw

/-- Every class at the top that has a superclass clause has words in it. -/
def SuperclassesNamed (source : Bytes) (root : Node) : Prop :=
  ∀ n ∈ root.bodyChildren, n.kind = "class_declaration" → ∀ clause ∈ n.childOf? .superclass,
    (clause.text source).toList.all isBlank = false

instance (source : Bytes) (root : Node) : Decidable (SuperclassesNamed source root) :=
  inferInstanceAs (Decidable (∀ n ∈ root.bodyChildren, n.kind = "class_declaration" →
    ∀ clause ∈ n.childOf? .superclass, (clause.text source).toList.all isBlank = false))

theorem exists_node_of_mem_imports {source : Bytes} (h : InOrder (Node.parse source).1) {i : Import}
    (hi : i ∈ (read source).imports) :
    ∃ n ∈ subtrees (Node.parse source).1, i.start = n.start ∧ i.stop = n.stop := by
  rw [(imports_read source).1, findImports_eq_flatMap] at hi
  obtain ⟨c, hc, hi⟩ := List.mem_flatMap.mp hi
  have hc : c ∈ (Node.parse source).1.children := (List.mem_filter.mp hc).1
  obtain ⟨n, hn, -, hstart, hstop, -⟩ := exists_node_of_mem_importsIn (h.child hc) hi
  exact ⟨n, subtrees_subset hc hn, hstart, hstop⟩

theorem within_of_mem_imports (source : Bytes) :
    ∀ m ∈ (read source).imports, m.start ≤ m.stop ∧ m.stop ≤ source.length := by
  intro m hm
  have hraw := wellPlaced_parse_length source
  obtain ⟨n, hn, -, hstop⟩ := exists_node_of_mem_imports hraw.inOrder hm
  refine ⟨start_le_stop_of_mem_imports source m hm, ?_⟩
  rw [hstop]
  exact (hraw.places n hn).2

section Blanking

variable {t : String} {start stop i : Nat}

theorem length_blank {s : Bytes} (hle : start ≤ stop) (hstop : stop ≤ s.length) :
    (blank s start stop).length = s.length := by
  have hsplit : start + (stop - start) = stop := Nat.add_sub_cancel' hle
  rw [blank, List.length_append, List.length_append, List.length_take, List.length_replicate,
    List.length_drop, Nat.min_eq_left (Nat.le_trans hle hstop), hsplit, Nat.add_sub_cancel' hstop]

theorem isBoundary_blank {s : Bytes} (h : IsBoundary s i) (hle : start ≤ stop)
    (hstop : stop ≤ s.length) : IsBoundary (blank s start stop) i := by
  obtain ⟨hi, hbyte⟩ := h
  refine ⟨by rw [length_blank hle hstop]; exact hi, ?_⟩
  intro b hb
  have hlt := (List.getElem?_eq_some_iff.mp hb).1
  rw [length_blank hle hstop] at hlt
  rw [(getElem?_blank hle hlt).2] at hb
  split_ifs at hb
  · obtain rfl := Option.some.inj hb
    decide
  · exact hbyte b hb

theorem exists_blank_eq_encode (hstart : IsBoundary (encode t) start)
    (hstop : IsBoundary (encode t) stop) : ∃ u, blank (encode t) start stop = encode u := by
  rw [encode_eq_flatMap] at hstart hstop
  obtain ⟨front, rest, hfront, hstart⟩ := isBoundary_flatMap_iff.mp hstart
  obtain ⟨rest', back, hback, hstop⟩ := isBoundary_flatMap_iff.mp hstop
  have htake : (encode t).take start = front.flatMap String.utf8EncodeChar := by
    rw [encode_eq_flatMap, hfront, List.flatMap_append, ← hstart, List.take_left]
  have hdrop : (encode t).drop stop = back.flatMap String.utf8EncodeChar := by
    rw [encode_eq_flatMap, hback, List.flatMap_append, ← hstop, List.drop_left]
  have hblanks (n : Nat) : List.replicate n (32 : UInt8) =
      (List.replicate n ' ').flatMap String.utf8EncodeChar := by
    induction n with
    | zero => rfl
    | succ n ih =>
      rw [List.replicate_succ, List.replicate_succ, List.flatMap_cons, ← ih]
      rfl
  refine ⟨String.ofList (front ++ List.replicate (stop - start) ' ' ++ back), ?_⟩
  rw [blank, htake, hdrop, hblanks, encode_ofList, List.flatMap_append, List.flatMap_append]

theorem exists_blankImports_eq_encode {imports : List Import}
    (h : ∀ m ∈ imports, m.start ≤ m.stop ∧ IsBoundary (encode t) m.start ∧
      IsBoundary (encode t) m.stop) : ∃ u, blankImports (encode t) imports = encode u := by
  unfold blankImports
  induction imports generalizing t with
  | nil => exact ⟨t, rfl⟩
  | cons m ms ih =>
    obtain ⟨hle, hstart, hstop⟩ := h m List.mem_cons_self
    obtain ⟨u, hu⟩ := exists_blank_eq_encode hstart hstop
    rw [List.foldl_cons, hu]
    apply ih
    intro k hk
    obtain ⟨hkle, hkstart, hkstop⟩ := h k (List.mem_cons_of_mem m hk)
    rw [← hu]
    exact ⟨hkle, isBoundary_blank hkstart hle hstop.1, isBoundary_blank hkstop hle hstop.1⟩

end Blanking

theorem boundary_of_mem_imports (t : String) : ∀ m ∈ (read (encode t)).imports,
    m.start ≤ m.stop ∧ IsBoundary (encode t) m.start ∧ IsBoundary (encode t) m.stop := by
  intro m hm
  have hraw := wellPlaced_parse_encode t
  obtain ⟨n, hn, hstart, hstop⟩ := exists_node_of_mem_imports hraw.inOrder hm
  rw [hstart, hstop]
  exact ⟨(Node.counted_parse _ n hn).2, hraw.places n hn⟩

theorem wellPlaced_read (t : String) :
    WellPlaced (IsBoundary (read (encode t)).source) (read (encode t)).root := by
  obtain ⟨hroot, hplain, hwrapped⟩ := root_read (encode t)
  obtain ⟨u, hu⟩ : ∃ u, (read (encode t)).source = encode u := by
    cases hw : (read (encode t)).isWrapped with
    | false => exact ⟨t, (hplain hw).1⟩
    | true =>
      obtain ⟨u, hu⟩ := exists_blankImports_eq_encode (boundary_of_mem_imports t)
      refine ⟨s!"class {wrapperName} \x7b " ++ u ++ "\n\x7d\n", ?_⟩
      rw [(hwrapped hw).1, hu, encode_append, encode_append]
      rfl
  rw [hroot, hu]
  exact wellPlaced_parse_encode u

variable {source : Bytes}

theorem isBoundary_of_source {i : Nat} (hw : (read source).isWrapped = true)
    (hi : i ≤ source.length) (hclear : ¬InImport (read source).imports i)
    (h : IsBoundary (read source).source ((read source).offset + i)) : IsBoundary source i := by
  refine ⟨hi, fun b hb => h.2 b ?_⟩
  have hlt : i < source.length := (List.getElem?_eq_some_iff.mp hb).1
  rw [getElem?_source hw hlt,
    (getElem?_blankImports (start_le_stop_of_mem_imports source) hlt).2 hclear]
  exact hb

theorem not_inImport_of_ne_blank {i : Nat} (hw : (read source).isWrapped = true)
    (h : (read source).source[(read source).offset + i]? ≠ some 32) :
    ¬InImport (read source).imports i := by
  intro hin
  obtain ⟨m, hm, hlow, hlt⟩ := hin
  have hi : i < source.length := Nat.lt_of_lt_of_le hlt (within_of_mem_imports source m hm).2
  rw [getElem?_source hw hi] at h
  exact h ((getElem?_blankImports (start_le_stop_of_mem_imports source) hi).1 ⟨m, hm, hlow, hlt⟩)

/-- Calls that lie in the part that is the sketch begin and end between characters of it, if they
neither begin nor end with a blank. -/
theorem callsInside_of_ne_blank {t : String}
    (hwithin : (read (encode t)).CallsWithin (encode t))
    (hends : ∀ n ∈ subtrees (read (encode t)).root, n.kind = "method_invocation" →
      (read (encode t)).source[n.start]? ≠ some 32 ∧
        (read (encode t)).source[n.stop - 1]? ≠ some 32) :
    (read (encode t)).CallsInside (encode t) := by
  intro hw n hn hkind i hi
  obtain ⟨hlow, hhigh⟩ := hwithin hw n hn hkind
  obtain ⟨hfirst, hlast⟩ := hends n hn hkind
  obtain ⟨hstart, hstop⟩ := (wellPlaced_read t).places n hn
  have hle := start_le_stop_of_mem_read hn
  obtain ⟨j, hj⟩ := Nat.exists_eq_add_of_le hlow
  obtain ⟨k, hk⟩ := Nat.exists_eq_add_of_le (Nat.le_trans hlow hle)
  rcases List.mem_pair.mp hi with rfl | rfl
  · rw [hj] at hfirst hstart ⊢
    rw [Nat.add_sub_cancel_left]
    exact ⟨Nat.le_add_right _ _,
      isBoundary_of_source hw (by omega) (not_inImport_of_ne_blank hw hfirst) hstart⟩
  · rw [hk] at hstop ⊢
    rw [Nat.add_sub_cancel_left]
    refine ⟨Nat.le_add_right _ _, ?_⟩
    by_cases hin : InImport (read (encode t)).imports k
    · obtain ⟨m, hm, hbegin, hend⟩ := hin
      -- an import that the last byte of the call is not in can only begin behind it
      have hm_start : m.start = k := by
        by_contra hne
        have hsame : n.stop - 1 = (read (encode t)).offset + (k - 1) := by omega
        rw [hsame] at hlast
        exact not_inImport_of_ne_blank hw hlast ⟨m, hm, by omega, by omega⟩
      rw [← hm_start]
      exact (boundary_of_mem_imports t m hm).2.1
    · exact isBoundary_of_source hw (by omega) hin hstop

theorem boundary_of_call {t : String} (hcalls : (read (encode t)).CallsInside (encode t))
    {n : Node} (hn : n ∈ subtrees (read (encode t)).root) (hkind : n.kind = "method_invocation") :
    ∀ i ∈ [n.start, n.stop], ∃ j : Nat, (read (encode t)).ownOffset i = j ∧
      IsBoundary (encode t) j := by
  intro i hi
  cases hw : (read (encode t)).isWrapped with
  | true =>
    obtain ⟨hlow, hboundary⟩ := hcalls hw n hn hkind i hi
    refine ⟨_, ?_, hboundary⟩
    unfold ownOffset
    omega
  | false =>
    -- the text that the tree was built from is the sketch itself
    obtain ⟨hsource, hoffset⟩ := (root_read (encode t)).2.1 hw
    have hplaces := (wellPlaced_read t).places n hn
    rw [hsource] at hplaces
    have hboundary : IsBoundary (encode t) i := by
      rcases List.mem_cons.mp hi with rfl | hi
      · exact hplaces.1
      · rw [List.mem_singleton.mp hi]
        exact hplaces.2
    refine ⟨i, ?_, hboundary⟩
    unfold ownOffset
    omega

theorem fits_of_call {t : String} (hwithin : (read (encode t)).CallsWithin (encode t)) {n : Node}
    (hn : n ∈ subtrees (read (encode t)).root) (hkind : n.kind = "method_invocation") :
    ∀ i ∈ [n.start, n.stop],
      0 ≤ (read (encode t)).ownOffset i ∧ (read (encode t)).ownOffset i ≤ (encode t).length := by
  intro i hi
  cases hw : (read (encode t)).isWrapped with
  | true =>
    obtain ⟨hlow, hhigh⟩ := hwithin hw n hn hkind
    have hle := start_le_stop_of_mem_read hn
    unfold ownOffset
    rcases List.mem_pair.mp hi with rfl | rfl
    · omega
    · omega
  | false =>
    obtain ⟨j, hj, hboundary⟩ := boundary_of_call (callsInside_of_plain hw _) hn hkind i hi
    have hle := hboundary.1
    omega

theorem isWrapped_eq_false_of_java (hj : (read source).mode = .java) :
    (read source).isWrapped = false := by
  by_contra hw
  have hactive := ((root_read source).2.2 (Bool.eq_true_of_not_eq_false hw)).2.2
  rw [hj] at hactive
  cases hactive

theorem boundary_of_closingBrace {t : String} (hj : (read (encode t)).mode = .java)
    {body brace : Node} (hbody : (read (encode t)).classBody? = some body)
    (hbrace : Generate.closingBrace? body = some brace) :
    ∃ i : Nat, (read (encode t)).ownOffset brace.start = i ∧ IsBoundary (encode t) i := by
  obtain ⟨hsource, hoffset⟩ := (root_read (encode t)).2.1 (isWrapped_eq_false_of_java hj)
  -- from the root to the class, its body and the brace
  obtain ⟨cls, hcls, hbody⟩ := Option.bind_eq_some_iff.mp hbody
  have hclass : cls ∈ (read (encode t)).root.children := by
    unfold sketchClass? findSketchClass? at hcls
    rw [hj] at hcls
    have hmem := List.mem_of_find?_eq_some hcls
    exact (List.mem_filter.mp (List.mem_filter.mp hmem).1).1
  have hmember : body ∈ cls.children := List.mem_of_find?_eq_some hbody
  have hlast : brace ∈ body.children := by
    obtain ⟨hlast, -⟩ := Option.filter_eq_some_iff.mp hbrace
    exact List.mem_of_getLast? hlast
  have hnode : brace ∈ subtrees (read (encode t)).root :=
    subtrees_subset hclass (subtrees_subset hmember (subtrees_subset hlast
      (self_mem_subtrees brace)))
  have hboundary := ((wellPlaced_read t).places brace hnode).1
  rw [hsource] at hboundary
  refine ⟨brace.start, ?_, hboundary⟩
  unfold ownOffset
  rw [hoffset]
  omega

end Sketch

open Sketch

variable {t : String} {c : Config}

theorem exists_call_of_mem_liftedSites {s : Sketch} {entryMethod : String} {x : Site}
    (hx : x ∈ liftedSites (callsOf s entryMethod)) :
    ∃ n ∈ subtrees s.root, n.kind = "method_invocation" ∧ x.start = s.ownOffset n.start ∧
      x.stop = s.ownOffset n.stop := by
  obtain ⟨call, hcall, rfl, hscope⟩ := mem_liftedSites hx
  obtain ⟨path, v, hv, -, hk, -, hstart, hstop⟩ := exists_place_of_mem hcall hscope
  exact ⟨v.node, mem_subtrees_of_place hv, kind_of_settingOf? hk, hstart, hstop⟩

theorem boundary_of_mem_liftedSites (hcalls : (Sketch.read (encode t)).CallsInside (encode t))
    {entryMethod : String} {x : Site}
    (hx : x ∈ liftedSites (callsOf (Sketch.read (encode t)) entryMethod)) :
    ∀ p ∈ [x.start, x.stop], ∃ i : Nat, p = i ∧ IsBoundary (encode t) i := by
  obtain ⟨n, hn, hkind, hstart, hstop⟩ := exists_call_of_mem_liftedSites hx
  have hends := boundary_of_call hcalls hn hkind
  intro p hp
  rcases List.mem_pair.mp hp with rfl | rfl
  · rw [hstart]
    exact hends n.start List.mem_cons_self
  · rw [hstop]
    exact hends n.stop (List.mem_cons_of_mem _ (List.mem_singleton_self _))

/-- Members go in front of the brace of a class, and imports have their ends between characters. -/
theorem boundary_of_mem_otherEdits (t : String) (c : Config) (name : String)
    (accessors : List Accessor) (hasMain : Bool) :
    ∀ e ∈ Generate.otherEdits c name (Sketch.read (encode t)) accessors hasMain,
      ∃ i : Nat, e.position = i ∧ IsBoundary (encode t) i := by
  intro e he
  unfold Generate.otherEdits at he
  split_ifs at he with hj
  · unfold Generate.memberEdits at he
    split at he
    · rename_i cls body hcls hbody
      split at he
      · rename_i brace hbrace
        dsimp only at he
        split_ifs at he
        · cases he
        · rw [List.mem_singleton.mp he]
          exact boundary_of_closingBrace hj hbody hbrace
      · cases he
    · cases he
  · obtain ⟨i, hi, he⟩ := List.mem_flatMap.mp he
    obtain ⟨-, hfirst, hlast⟩ := boundary_of_mem_imports t i hi
    rcases List.mem_pair.mp he with rfl | rfl
    · exact ⟨i.start, rfl, hfirst⟩
    · exact ⟨i.stop, rfl, hlast⟩

section Edits

variable {name : String} {accessors : List Accessor} {hasMain : Bool} {e : Edit}

/-- The edits of a run: those around calls, and the others. -/
theorem mem_edits_iff : e ∈ (liftedSites (callsOf (Sketch.read (encode t)) c.entryMethod)).flatMap
        (fun x => Edit.commentOut x.start x.stop) ++
          Generate.otherEdits c name (Sketch.read (encode t)) accessors hasMain ↔
      (∃ x ∈ liftedSites (callsOf (Sketch.read (encode t)) c.entryMethod),
        e = Edit.insertBefore x.start Edit.commentOpen ∨
          e = Edit.insertAfter x.stop Edit.commentClose) ∨
        e ∈ Generate.otherEdits c name (Sketch.read (encode t)) accessors hasMain := by
  rw [List.mem_append, List.mem_flatMap]
  simp only [Edit.commentOut, List.mem_pair]

theorem boundary_of_mem_edits (hcalls : (Sketch.read (encode t)).CallsInside (encode t))
    (he : e ∈ (liftedSites (callsOf (Sketch.read (encode t)) c.entryMethod)).flatMap
        (fun x => Edit.commentOut x.start x.stop) ++
          Generate.otherEdits c name (Sketch.read (encode t)) accessors hasMain) :
    ∃ i : Nat, e.position = i ∧ IsBoundary (encode t) i := by
  rcases mem_edits_iff.mp he with ⟨x, hx, rfl | rfl⟩ | he
  · exact boundary_of_mem_liftedSites hcalls hx _ List.mem_cons_self
  · exact boundary_of_mem_liftedSites hcalls hx _
      (List.mem_cons_of_mem _ (List.mem_singleton_self _))
  · exact boundary_of_mem_otherEdits t c name accessors hasMain e he

theorem fits_of_mem_edits (hwithin : (Sketch.read (encode t)).CallsWithin (encode t))
    (he : e ∈ (liftedSites (callsOf (Sketch.read (encode t)) c.entryMethod)).flatMap
        (fun x => Edit.commentOut x.start x.stop) ++
          Generate.otherEdits c name (Sketch.read (encode t)) accessors hasMain) :
    e.Fits (encode t).length := by
  rcases mem_edits_iff.mp he with ⟨x, hx, hedit⟩ | he
  · obtain ⟨n, hn, hkind, hstart, hstop⟩ := exists_call_of_mem_liftedSites hx
    have hends := fits_of_call hwithin hn hkind
    rcases hedit with rfl | rfl
    · have hfits := hends n.start List.mem_cons_self
      rw [← hstart] at hfits
      exact hfits
    · have hfits := hends n.stop (List.mem_cons_of_mem _ (List.mem_singleton_self _))
      rw [← hstop] at hfits
      exact hfits
  · obtain ⟨i, hi, hle, -⟩ := boundary_of_mem_otherEdits t c name accessors hasMain e he
    exact ⟨by omega, by omega⟩

/-- A text with edits in it is a text unless a call that is taken out starts or stops within a
character. -/
theorem exists_splits_iff :
    (∃ e ∈ (liftedSites (callsOf (Sketch.read (encode t)) c.entryMethod)).flatMap
        (fun x => Edit.commentOut x.start x.stop) ++
          Generate.otherEdits c name (Sketch.read (encode t)) accessors hasMain,
      e.text ≠ "" ∧ Splits t.toList e.position) ↔
      ∃ x ∈ liftedSites (callsOf (Sketch.read (encode t)) c.entryMethod),
        Splits t.toList x.start ∨ Splits t.toList x.stop := by
  constructor
  · rintro ⟨e, he, -, hsplits⟩
    rcases mem_edits_iff.mp he with ⟨x, hx, rfl | rfl⟩ | he
    · exact ⟨x, hx, .inl hsplits⟩
    · exact ⟨x, hx, .inr hsplits⟩
    · obtain ⟨i, hi, hboundary⟩ := boundary_of_mem_otherEdits t c name accessors hasMain e he
      rw [hi] at hsplits
      exact absurd hsplits (not_splits_of_isBoundary hboundary)
  · rintro ⟨x, hx, hsplits | hsplits⟩
    · have hopen : Edit.commentOpen ≠ "" := by decide
      exact ⟨_, mem_edits_iff.mpr (.inl ⟨x, hx, .inl rfl⟩), hopen, hsplits⟩
    · have hclose : Edit.commentClose ≠ "" := by decide
      exact ⟨_, mem_edits_iff.mpr (.inl ⟨x, hx, .inr rfl⟩), hclose, hsplits⟩

end Edits

theorem exists_survey_eq_ok (t entryMethod : String) :
    ∃ found, survey (Sketch.read (encode t)) entryMethod = .ok found :=
  exists_survey_eq_ok_of_inOrder (wellPlaced_read t).inOrder entryMethod

/-- Every class at the top of a sketch can be judged, and no line around it gets too wide. -/
structure Makeable (source : Bytes) (c : Config) : Prop where
  judged : Sketch.read? source = some (Sketch.read source)
  fits : Generate.fits c (Generate.depth (Sketch.read source)
    ((Sketch.read source).methodNames.contains "main")) = true

/-- What becomes of a sketch with a valid name. A class that cannot be judged or lines that get too
wide are the only reasons why no class file is made, and all edits are made within the sketch. -/
inductive Comes (source : Bytes) (c : Config) : Except GenerateError Generated → Prop where
  | unnamed (h : Sketch.read? source = none) : Comes source c (.error .unnamedSuperclass)
  | wide (h : Sketch.read? source = some (Sketch.read source))
      (hwide : Generate.fits c (Generate.depth (Sketch.read source)
        ((Sketch.read source).methodNames.contains "main")) = false) :
      Comes source c (.error (.tooWide c.indent))
  | made {g : Generated} (h : Makeable source c)
      (hedits : ∀ e ∈ g.edits, 0 ≤ e.position ∧ e.position ≤ source.length) :
      Comes source c (.ok g)

theorem comes_generate {name : String} (package? : Option String) (c : Config)
    (hname : ClassName.isValid name = true)
    (hcalls : (Sketch.read (encode t)).CallsInside (encode t)) :
    Comes (encode t) c (generate (encode t) name package? c) := by
  cases hs : Sketch.read? (encode t) with
  | none =>
    rw [generate, generateWith, hname, hs]
    exact .unnamed hs
  | some s =>
    obtain ⟨rfl, -⟩ := Sketch.read?_eq_some_iff.mp hs
    obtain ⟨found, hfound⟩ := exists_survey_eq_ok t c.entryMethod
    obtain ⟨-, -, hfedits⟩ := survey_eq_ok hfound
    rw [generate, generateWith_eq hname hs, assemble_of_survey hfound]
    dsimp only
    split_ifs with hfits
    · exact .wide hs (by simpa using hfits)
    · have hboundary (e : Edit) (he : e ∈ found.edits ++ Generate.otherEdits c name
          (Sketch.read (encode t)) found.metadata.accessors
          ((Sketch.read (encode t)).methodNames.contains "main")) :
          ∃ i : Nat, e.position = i ∧ IsBoundary (encode t) i := by
        rw [hfedits] at he
        exact boundary_of_mem_edits hcalls he
      obtain ⟨body, hbody⟩ := exists_render_eq_ok hboundary
      rw [hbody]
      refine .made ⟨hs, by simpa using hfits⟩ fun e he => ?_
      obtain ⟨i, hi, hle, -⟩ := hboundary e he
      rw [hi]
      exact ⟨Int.natCast_nonneg i, Int.ofNat_le.mpr hle⟩

theorem generate_eq_error_iff {name : String} (package? : Option String) {e : GenerateError}
    (hname : ClassName.isValid name = true)
    (hcalls : (Sketch.read (encode t)).CallsInside (encode t)) :
    generate (encode t) name package? c = .error e ↔
      (e = .unnamedSuperclass ∧ Sketch.read? (encode t) = none) ∨
      (e = .tooWide c.indent ∧ Sketch.read? (encode t) = some (Sketch.read (encode t)) ∧
        Generate.fits c (Generate.depth (Sketch.read (encode t))
          ((Sketch.read (encode t)).methodNames.contains "main")) = false) := by
  have hcomes := comes_generate package? c hname hcalls
  generalize generate (encode t) name package? c = result at hcomes ⊢
  constructor
  · rintro rfl
    cases hcomes with
    | unnamed hnone => exact .inl ⟨rfl, hnone⟩
    | wide hjudged hwide => exact .inr ⟨rfl, hjudged, hwide⟩
  · rintro (⟨rfl, hnone⟩ | ⟨rfl, hjudged, hwide⟩)
    · cases hcomes with
      | unnamed _ => rfl
      | wide hjudged _ => cases hnone.symm.trans hjudged
      | made h => cases hnone.symm.trans h.judged
    · cases hcomes with
      | unnamed hnone => cases hnone.symm.trans hjudged
      | wide _ _ => rfl
      | made h => cases hwide.symm.trans h.fits

theorem Makeable.exists_generate {name : String} (h : Makeable (encode t) c)
    (package? : Option String) (hname : ClassName.isValid name = true)
    (hcalls : (Sketch.read (encode t)).CallsInside (encode t)) :
    ∃ g, generate (encode t) name package? c = .ok g ∧
      ∀ e ∈ g.edits, 0 ≤ e.position ∧ e.position ≤ (encode t).length := by
  have hcomes := comes_generate package? c hname hcalls
  generalize generate (encode t) name package? c = result at hcomes ⊢
  cases hcomes with
  | unnamed hnone => cases hnone.symm.trans h.judged
  | wide _ hwide => cases hwide.symm.trans h.fits
  | made _ hedits => exact ⟨_, rfl, hedits⟩

section Named

variable {source : Bytes}

theorem Sketch.SuperclassesNamed.words {root : Node} (h : SuperclassesNamed source root) :
    ∀ n ∈ root.bodyChildren, n.kind = "class_declaration" → ∀ clause ∈ n.childOf? .superclass,
      blankSplit (clause.text source).toList ≠ [] := by
  intro n hn hkind clause hclause hempty
  have hblank : (clause.text source).toList.all isBlank = true :=
    List.all_eq_true.mpr (blankSplit_eq_nil_iff.mp hempty)
  rw [h n hn hkind clause hclause] at hblank
  cases hblank

theorem read?_of_superclassesNamed (h : SuperclassesNamed source (Node.parse source).1) :
    Sketch.read? source = some (Sketch.read source) := by
  refine Sketch.read?_eq_some_iff.mpr ⟨rfl, fun hw => ?_⟩
  obtain ⟨hroot, hplain, -⟩ := Sketch.root_read source
  rw [hroot, (hplain hw).1, stumbles]
  cases hfind : List.find? _ (Node.parse source).1.bodyChildren with
  | none => rfl
  | some n =>
    have hjudged := List.find?_some hfind
    rw [Bool.and_eq_true, decide_eq_true_eq] at hjudged
    have hwords := h.words n (List.mem_of_find?_eq_some hfind) hjudged.1
    rw [Option.any_some, isUnnamed]
    cases hclause : n.childOf? .superclass with
    | none => rfl
    | some clause =>
      rw [Option.any_some]
      exact List.isEmpty_eq_false_iff.mpr (hwords clause hclause)

end Named

theorem depth_le (s : Sketch) (hasMain : Bool) : Generate.depth s hasMain ≤ 3 := by
  unfold Generate.depth
  split_ifs <;> omega

theorem fits_iff {c : Config} {levels : Nat} :
    Generate.fits c levels = true ↔ c.indent * levels < 2 ^ 63 := by
  unfold Generate.fits maxLength
  rw [decide_eq_true_eq]
  omega

theorem fits_usual (s : Sketch) (hasMain : Bool) :
    Generate.fits {} (Generate.depth s hasMain) = true := by
  have hdepth := depth_le s hasMain
  have hindent : ({} : Config).indent = 2 := rfl
  rw [fits_iff, hindent]
  omega

theorem makeable_usual {source : Bytes}
    (h : Sketch.stumbles (Sketch.read source).source (Sketch.read source).root = false) :
    Makeable source {} :=
  ⟨Sketch.read?_eq_some_iff.mpr ⟨rfl, fun _ => h⟩, fits_usual _ _⟩

theorem not_splits_of_callsInside (hcalls : (Sketch.read (encode t)).CallsInside (encode t))
    (entryMethod : String) :
    ∀ x ∈ liftedSites (callsOf (Sketch.read (encode t)) entryMethod),
      ¬Splits t.toList x.start ∧ ¬Splits t.toList x.stop := by
  intro x hx
  have hends := boundary_of_mem_liftedSites hcalls hx
  obtain ⟨i, hi, hstart⟩ := hends x.start List.mem_cons_self
  obtain ⟨j, hj, hstop⟩ := hends x.stop (List.mem_cons_of_mem _ (List.mem_singleton_self _))
  rw [hi, hj]
  exact ⟨not_splits_of_isBoundary hstart, not_splits_of_isBoundary hstop⟩

/-- A sketch with an import, a static block, which may only stand in a class, and both settings. -/
def importSketch : String := "import é;static\x7b\x7dvoid setup()\x7bsize(1,2);smooth(4);\x7d"

/-- A tree with an error that holds an import. -/
def errorTree : Node :=
  .mk none "program" true 0 33 0 [
    .mk none "ERROR" true 0 33 0 [.mk none "import_declaration" true 22 32 0 []]]

/-- A sketch in a class made up for it. The call ends in the blanks of the import, where the second
byte of a character was. -/
def blanksSketch : Sketch where
  source := wrapperHead ++ encode "void setup()\x7bsize(1,2)          \x7d" ++ wrapperTail
  mode := .active
  offset := 25
  imports := [⟨22, 32, "import é;"⟩]
  root := .mk none "program" true 0 61 0 [
    .mk none "class_declaration" true 0 60 0 [
      .mk none "class" false 0 5 0 [],
      .mk (some .name) "identifier" true 6 22 0 [],
      .mk (some .body) "class_body" true 23 60 0 [
        .mk none "\x7b" false 23 24 0 [],
        .mk none "method_declaration" true 25 58 0 [
          .mk none "void_type" true 25 29 0 [],
          .mk (some .name) "identifier" true 30 35 0 [],
          .mk none "formal_parameters" true 35 37 0 [],
          .mk (some .body) "block" true 37 58 0 [
            .mk none "\x7b" false 37 38 0 [],
            .mk none "expression_statement" true 38 55 0 [
              .mk none "method_invocation" true 38 55 0 [
                .mk (some .name) "identifier" true 38 42 0 [],
                .mk (some .arguments) "argument_list" true 42 47 0 [
                  .mk none "(" false 42 43 0 [],
                  .mk none "decimal_integer_literal" true 43 44 0 [],
                  .mk none "," false 44 45 0 [],
                  .mk none "decimal_integer_literal" true 45 46 0 [],
                  .mk none ")" false 46 47 0 []]]],
            .mk none "\x7d" false 57 58 0 []]],
        .mk none "\x7d" false 59 60 1 []]]]

end Sketchbook
