import Mathlib.Data.List.Pairwise
import Sketchbook.Proofs.Insertion
import Sketchbook.Proofs.Lifting
import Sketchbook.Proofs.Neighbours

namespace Sketchbook

open Sketchbook.Syntax (Node Role)
open Sketchbook.Settings Sketchbook.Editing Sketchbook.Text

namespace Settings

/-- Every node lies within its parent, and siblings lie one behind the other. -/
structure InOrder (root : Node) : Prop where
  inside : ∀ n ∈ subtrees root, ∀ c ∈ n.children, n.start ≤ c.start ∧ c.stop ≤ n.stop
  ordered : ∀ n ∈ subtrees root, n.children.Pairwise fun a b => a.stop ≤ b.start

theorem InOrder.laidOut {root : Node} (h : InOrder root) : LaidOut root :=
  ⟨h.inside, fun n hn => (h.ordered n hn).imp Or.inl⟩

theorem InOrder.child {n c : Node} (h : InOrder n) (hc : c ∈ n.children) : InOrder c :=
  ⟨fun m hm => h.inside m (subtrees_subset hc hm), fun m hm => h.ordered m (subtrees_subset hc hm)⟩

theorem InOrder.within_of_mem {n m : Node} (h : InOrder n) (hm : m ∈ subtrees n) :
    n.start ≤ m.start ∧ m.stop ≤ n.stop := by
  obtain ⟨v, hv, rfl⟩ := List.mem_map.mp hm
  obtain ⟨path, hpath⟩ := (mem_preorder_iff n [] v).mp hv
  exact LaidOut.within (v := ⟨n, []⟩) h.laidOut hpath

/-- The number of nodes above a call that may be taken out of a sketch. -/
def callDepth (s : Sketch) : Nat :=
  if s.mode = .static then globalDepth
  else if s.mode = .active ∧ s.isWrapped = false then topMethodDepth
  else classMethodDepth

variable {s : Sketch} {entryMethod : String}

theorem length_of_classify {ancestors : List Node}
    (h : classify s entryMethod ancestors ≠ .invalid) : ancestors.length = callDepth s := by
  cases hc : classify s entryMethod ancestors with
  | invalid => exact absurd hc h
  | global =>
    obtain ⟨hm, statement, top, rfl, -, -⟩ := classify_eq_global_iff.mp hc
    rw [callDepth, if_pos hm]
    rfl
  | entryMethod =>
    obtain ⟨hm, statement, block, method, owner, above, -, -, -, -, -, ho⟩ :=
      classify_eq_entryMethod_iff.mp hc
    rw [callDepth, if_neg hm]
    unfold ownsSketchMethod at ho
    split_ifs at ho with hp hb
    · simp only [Bool.and_eq_true, decide_eq_true_eq, Bool.not_eq_true'] at ho
      rw [if_pos ⟨ho.1.2, ho.2⟩]
      exact ho.1.1
    · simp only [Bool.and_eq_true, decide_eq_true_eq] at hb
      -- where methods stand at the top there is no body that could own one
      have hclass : ¬(s.mode = .active ∧ s.isWrapped = false) := by
        rintro ⟨ha, hw⟩
        have hnone : s.classBody? = none := by
          unfold Sketch.classBody? Sketch.sketchClass?
          rw [ha, hw]
          rfl
        rw [hnone] at ho
        cases ho
      rw [if_neg hclass]
      exact hb.2

theorem exists_place_of_mem {c : Call} (hc : c ∈ callsOf s entryMethod) (hs : c.scope ≠ .invalid) :
    ∃ path v, place? s.root path = some v ∧ path.length = callDepth s ∧
      settingOf? s v.node = some c.site.setting ∧ classify s entryMethod v.ancestors ≠ .invalid ∧
      c.site.start = s.ownOffset v.node.start ∧ c.site.stop = s.ownOffset v.node.stop := by
  obtain ⟨v, hv, k, hk, rfl⟩ := exists_visited_of_mem_callsOf hc
  obtain ⟨path, hpath⟩ := (mem_walk_iff s.root v).mp hv
  have hdepth := length_of_classify hs
  rw [place?_length hpath] at hdepth
  exact ⟨path, v, hpath, hdepth, hk, hs, rfl, rfl⟩

theorem mem_validSite {k : Setting} {x : Site}
    (hx : x ∈ (Recorder.ofCalls ((callsOf s entryMethod).map Call.decision)).validSite k) :
    ∃ c ∈ callsOf s entryMethod, c.site = x ∧ c.site.setting = k ∧ c.scope ≠ .invalid := by
  obtain ⟨d, hd, rfl⟩ := List.mem_map.mp hx
  have hdecision := Option.mem_toList.mp (List.mem_filter.mp hd).1
  rw [Recorder.decision?_ofCalls, filter_counts_callsOf, List.getLast?_map] at hdecision
  obtain ⟨c, hc, rfl⟩ := Option.map_eq_some_iff.mp hdecision
  obtain ⟨hmem, hk, hscope⟩ := mem_inPlace.mp (List.mem_of_getLast? hc)
  exact ⟨c, hmem, rfl, hk, hscope⟩

theorem mem_liftedSites {x : Site} (hx : x ∈ liftedSites (callsOf s entryMethod)) :
    ∃ c ∈ callsOf s entryMethod, c.site = x ∧ c.scope ≠ .invalid := by
  obtain ⟨k, hk⟩ := mem_liftedSites_iff.mp hx
  obtain ⟨c, hc, hsite, -, hscope⟩ := mem_validSite hk
  exact ⟨c, hc, hsite, hscope⟩

theorem apart_of_setting_ne (h : LaidOut s.root) {c d : Call} (hc : c ∈ callsOf s entryMethod)
    (hd : d ∈ callsOf s entryMethod) (hcs : c.scope ≠ .invalid) (hds : d.scope ≠ .invalid)
    (hne : c.site.setting ≠ d.site.setting) :
    c.site.stop ≤ d.site.start ∨ d.site.stop ≤ c.site.start := by
  obtain ⟨p, v, hp, hpl, hv, -, hcstart, hcstop⟩ := exists_place_of_mem hc hcs
  obtain ⟨q, w, hq, hql, hw, -, hdstart, hdstop⟩ := exists_place_of_mem hd hds
  -- one node sets one thing, so these are two places, and they have the same depth
  have hpq : p ≠ q := by
    rintro rfl
    rw [hp, Option.some.injEq] at hq
    subst hq
    exact hne (Option.some.inj (hv.symm.trans hw))
  have hapart : Apart v.node w.node :=
    LaidOut.apart_of_ne (v := ⟨s.root, []⟩) h (hpl.trans hql.symm) hpq hp hq
  rw [hcstart, hcstop, hdstart, hdstop]
  unfold Sketch.ownOffset
  rcases hapart with hle | hle <;> omega

theorem pairwise_append_of_short {α : Type} {R : α → α → Prop} {xs ys : List α}
    (hx : xs.length ≤ 1) (hy : ys.length ≤ 1) (h : ∀ x ∈ xs, ∀ y ∈ ys, R x y) :
    (xs ++ ys).Pairwise R := by
  have hshort (zs : List α) (hz : zs.length ≤ 1) : zs.Pairwise R := by
    rcases zs with _ | ⟨z, _ | ⟨z', zs⟩⟩
    · exact List.Pairwise.nil
    · exact List.pairwise_singleton R z
    · simp at hz
  exact List.pairwise_append.mpr ⟨hshort xs hx, hshort ys hy, h⟩

theorem pairwise_liftedSites (h : LaidOut s.root) (entryMethod : String) :
    (liftedSites (callsOf s entryMethod)).Pairwise
      fun x y => x.stop ≤ y.start ∨ y.stop ≤ x.start := by
  have hapart {k l : Setting} (hkl : k ≠ l) :
      ∀ x ∈ (Recorder.ofCalls ((callsOf s entryMethod).map Call.decision)).validSite k,
        ∀ y ∈ (Recorder.ofCalls ((callsOf s entryMethod).map Call.decision)).validSite l,
          x.stop ≤ y.start ∨ y.stop ≤ x.start := by
    intro x hx y hy
    obtain ⟨c, hc, rfl, hck, hcs⟩ := mem_validSite hx
    obtain ⟨d, hd, rfl, hdl, hds⟩ := mem_validSite hy
    exact apart_of_setting_ne h hc hd hcs hds (by rw [hck, hdl]; exact hkl)
  have hshort := (Recorder.ofCalls ((callsOf s entryMethod).map Call.decision)).length_validSite_le
  rcases liftedSites_eq_or (callsOf s entryMethod) with he | he
  · rw [he]
    exact pairwise_append_of_short (hshort _) (hshort _) (hapart (by decide))
  · rw [he]
    exact pairwise_append_of_short (hshort _) (hshort _) (hapart (by decide))

end Settings

namespace Sketch

/-- The imports that a node at the top is or, if it is an error, holds. -/
def importsIn (source : Bytes) (c : Node) : List Import :=
  ((if c.kind = "ERROR" then c.namedChildren else [c]).filter
    fun n => n.kind = "import_declaration").map fun n => ⟨n.start, n.stop, n.text source⟩

theorem findImports_eq_flatMap (source : Bytes) (root : Node) :
    findImports source root = root.namedChildren.flatMap (importsIn source) := rfl

theorem exists_node_of_mem_importsIn {source : Bytes} {c : Node} {i : Import} (h : InOrder c)
    (hi : i ∈ importsIn source c) :
    ∃ n ∈ subtrees c, n.kind = "import_declaration" ∧ i.start = n.start ∧ i.stop = n.stop ∧
      c.start ≤ n.start ∧ n.stop ≤ c.stop ∧ (c.kind = "import_declaration" ∨ c.kind = "ERROR") := by
  obtain ⟨n, hn, rfl⟩ := List.mem_map.mp hi
  obtain ⟨hn, hkind⟩ := List.mem_filter.mp hn
  have hkind : n.kind = "import_declaration" := of_decide_eq_true hkind
  split_ifs at hn with he
  · have hchild : n ∈ c.children := (List.mem_filter.mp hn).1
    have hin := h.inside c (self_mem_subtrees c) n hchild
    exact ⟨n, subtrees_subset hchild (self_mem_subtrees n), hkind, rfl, rfl, hin.1, hin.2, .inr he⟩
  · rw [List.mem_singleton] at hn
    subst hn
    exact ⟨n, self_mem_subtrees n, hkind, rfl, rfl, Nat.le_refl _, Nat.le_refl _, .inl hkind⟩

theorem pairwise_findImports (source : Bytes) {root : Node} (h : InOrder root) :
    (findImports source root).Pairwise fun i j => i.stop ≤ j.start := by
  have hchild (c : Node) (hc : c ∈ root.namedChildren) : c ∈ root.children ∧ InOrder c := by
    have hmem : c ∈ root.children := (List.mem_filter.mp hc).1
    exact ⟨hmem, h.child hmem⟩
  have htop : root.namedChildren.Pairwise fun a b => a.stop ≤ b.start :=
    (h.ordered root (self_mem_subtrees root)).filter _
  rw [findImports_eq_flatMap]
  refine List.pairwise_flatMap.mpr ⟨fun c hc => ?_, ?_⟩
  · refine List.pairwise_map.mpr (List.Pairwise.filter _ ?_)
    split_ifs
    · exact ((hchild c hc).2.ordered c (self_mem_subtrees c)).filter _
    · exact List.pairwise_singleton _ c
  · refine htop.imp_of_mem fun {a b} ha hb hab i hi j hj => ?_
    obtain ⟨n, -, -, -, hn, -, hna, -⟩ := exists_node_of_mem_importsIn (hchild a ha).2 hi
    obtain ⟨m, -, -, hm, -, hmb, -⟩ := exists_node_of_mem_importsIn (hchild b hb).2 hj
    omega

end Sketch

namespace Settings

theorem mem_children_of_ancestors {v w : Visited} {path : List Nat} (h : LaidOut v.node)
    (hw : v.descend path = some w) {below : List Node} {m : Node}
    (ha : w.ancestors = below ++ m :: v.node :: v.ancestors) :
    m ∈ v.node.children ∧ m.start ≤ w.node.start ∧ w.node.stop ≤ m.stop := by
  cases path with
  | nil =>
    cases hw
    have hlength := congrArg List.length ha
    simp only [List.length_append, List.length_cons] at hlength
    omega
  | cons i path =>
    obtain ⟨c, hi, hw⟩ := descend_cons_eq_some.mp hw
    have hc := List.mem_of_getElem? hi
    suffices hm : m = c by
      subst hm
      exact ⟨hc, LaidOut.within (v := ⟨m, v.node :: v.ancestors⟩) (h.child hc) hw⟩
    by_cases hp : path = []
    · subst hp
      cases hw
      have hlength := congrArg List.length ha
      simp only [List.length_append, List.length_cons] at hlength
      omega
    · obtain ⟨below', -, ha'⟩ := descend_ancestors hp hw
      have hsame := List.append_inj' (ha.symm.trans ha') rfl
      exact (List.cons.inj hsame.2).1

def Solid (root : Node) : Prop := ∀ n ∈ subtrees root,
  n.kind = "method_invocation" ∨ n.kind = "import_declaration" → n.start < n.stop

instance (root : Node) : Decidable (Solid root) :=
  inferInstanceAs (Decidable (∀ n ∈ subtrees root, _ → n.start < n.stop))

theorem kind_of_settingOf? {n : Node} {k : Setting} (h : settingOf? s n = some k) :
    n.kind = "method_invocation" := by
  by_contra hk
  simp [settingOf?, hk] at h

theorem mem_subtrees_of_place {root : Node} {path : List Nat} {v : Visited}
    (hv : place? root path = some v) : v.node ∈ subtrees root :=
  List.mem_map_of_mem ((mem_preorder_iff root [] v).mpr ⟨path, hv⟩)

theorem exists_name_of_settingOf? {n : Node} {k : Setting} (hk : settingOf? s n = some k) :
    ∃ name, n.childOf? .name = some name ∧ name.start < name.stop := by
  unfold settingOf? at hk
  cases hname : n.childOf? .name with
  | none =>
    have hempty : s.textOf none = "" := rfl
    simp [hname, hempty, Setting.name] at hk
  | some name =>
    refine ⟨name, rfl, ?_⟩
    by_contra hle
    have hzero : name.stop - name.start = 0 := by omega
    have hempty : s.textOf (some name) = "" := by
      rw [Sketch.textOf, Node.textOf, Node.text, hzero, List.take_zero]
      rfl
    simp [hname, hempty, Setting.name] at hk

theorem start_lt_stop_of_settingOf? {n : Node} {k : Setting}
    (h : ∀ c ∈ n.children, n.start ≤ c.start ∧ c.stop ≤ n.stop) (hk : settingOf? s n = some k) :
    n.start < n.stop := by
  obtain ⟨name, hname, hlt⟩ := exists_name_of_settingOf? hk
  have hin := h name (List.mem_of_find?_eq_some hname)
  omega

/-- A call in the right place of a sketch without a class lies within a statement or a method at the
top. -/
theorem exists_top_of_mem (h : InOrder s.root) (hm : s.mode ≠ .java) (hw : s.isWrapped = false)
    {c : Call} (hc : c ∈ callsOf s entryMethod) (hs : c.scope ≠ .invalid) :
    ∃ m ∈ s.root.children, (m.kind = "expression_statement" ∨ m.kind = "method_declaration") ∧
      s.ownOffset m.start ≤ c.site.start ∧ c.site.stop ≤ s.ownOffset m.stop := by
  obtain ⟨path, v, hv, -, hk, hclass, hstart, hstop⟩ := exists_place_of_mem hc hs
  have hn := start_lt_stop_of_settingOf? (h.inside v.node (mem_subtrees_of_place hv)) hk
  -- the last but one of the nodes above the call
  have hin : ∃ below m, v.ancestors = below ++ [m, s.root] ∧
      (m.kind = "expression_statement" ∨ m.kind = "method_declaration") := by
    by_cases hi : InSketch s v.ancestors
    · obtain ⟨-, statement, ha, hkind, -⟩ := hi
      exact ⟨[], statement, ha, .inl hkind⟩
    · have he : InEntryMethod s entryMethod path v.ancestors := by
        by_contra he
        exact hclass ((invalid_iff h.laidOut hv hn).mpr ⟨hi, he⟩)
      obtain ⟨hstatic, statement, block, method, above, ha, -, -, hkind, -, hmember⟩ := he
      have hactive : s.mode = .active := by
        cases hmode : s.mode with
        | static => exact absurd hmode hstatic
        | active => rfl
        | java => exact absurd hmode hm
      rcases hmember with ⟨-, -, rfl, -⟩ | ⟨body, cls, -, hbody, -⟩
      · exact ⟨[statement, block], method, ha, .inr hkind⟩
      · unfold Sketch.classBody? Sketch.sketchClass? at hbody
        rw [hactive, hw] at hbody
        cases hbody
  obtain ⟨below, m, ha, hkind⟩ := hin
  obtain ⟨hmem, hle, hge⟩ := mem_children_of_ancestors (v := ⟨s.root, []⟩) h.laidOut hv ha
  refine ⟨m, hmem, hkind, ?_, ?_⟩
  · rw [hstart]
    unfold Sketch.ownOffset
    omega
  · rw [hstop]
    unfold Sketch.ownOffset
    omega

end Settings

/-- A stretch of the source that is put between two texts. -/
structure Wrap where
  start : Int
  stop : Int
  opener : String
  closer : String

namespace Wrap

def edits (w : Wrap) : List Edit :=
  [Edit.insertBefore w.start w.opener, Edit.insertAfter w.stop w.closer]

def Apart (v w : Wrap) : Prop := v.stop ≤ w.start ∨ w.stop ≤ v.start

theorem Apart.symm {v w : Wrap} (h : v.Apart w) : w.Apart v := Or.symm h

def ofSite (x : Site) : Wrap := ⟨x.start, x.stop, Edit.commentOpen, Edit.commentClose⟩

def ofImport (i : Import) : Wrap := ⟨i.start, i.stop, Generate.movedOpen, Generate.movedClose⟩

theorem Apart.not_isWithin {v w : Wrap} (h : v.Apart w) (hv : v.start < v.stop)
    (hw : w.start < w.stop) {start stop : Nat} (hstart : w.start = start) (hstop : w.stop = stop) :
    ∀ e ∈ v.edits, ¬e.IsWithin start stop := by
  intro e he
  unfold Apart at h
  simp only [edits, List.mem_cons, List.not_mem_nil, or_false] at he
  rcases he with rfl | rfl
  · rintro (⟨hlow, hhigh⟩ | ⟨hpos, -⟩ | ⟨-, hside⟩)
    · simp only [Edit.insertBefore] at hlow hhigh
      omega
    · simp only [Edit.insertBefore] at hpos
      omega
    · cases hside
  · rintro (⟨hlow, hhigh⟩ | ⟨-, hside⟩ | ⟨hpos, -⟩)
    · simp only [Edit.insertAfter] at hlow hhigh
      omega
    · cases hside
    · simp only [Edit.insertAfter] at hpos
      omega

end Wrap

/-- The stretches of a sketch that are turned into comments: calls that are taken out and, where the
class is not the sketch's own, its imports. -/
def wraps (s : Sketch) (entryMethod : String) : List Wrap :=
  (liftedSites (callsOf s entryMethod)).map Wrap.ofSite ++
    if s.mode = .java then [] else s.imports.map Wrap.ofImport

section Unwrapped

variable {s : Sketch} {entryMethod : String}

theorem apart_of_mem_findImports (h : InOrder s.root) (hj : s.mode ≠ .java)
    (hw : s.isWrapped = false) {c : Call} (hc : c ∈ callsOf s entryMethod)
    (hscope : c.scope ≠ .invalid) {source : Bytes} {i : Import}
    (hi : i ∈ Sketch.findImports source s.root) :
    (i.stop : Int) ≤ c.site.start ∨ c.site.stop ≤ i.start := by
  obtain ⟨m, hm, hmkind, hmstart, hmstop⟩ := exists_top_of_mem h hj hw hc hscope
  rw [Sketch.findImports_eq_flatMap] at hi
  obtain ⟨t, ht, hi⟩ := List.mem_flatMap.mp hi
  have hroot : t ∈ s.root.children := (List.mem_filter.mp ht).1
  obtain ⟨n, -, -, histart, histop, hlow, hhigh, htkind⟩ :=
    Sketch.exists_node_of_mem_importsIn (h.child hroot) hi
  -- the call lies in a statement or a method, the import in an import or an error
  have hne : m ≠ t := by
    rintro rfl
    rcases hmkind with hk | hk <;> rcases htkind with hk' | hk' <;> rw [hk] at hk' <;>
      exact absurd hk' (by decide)
  have happart : Settings.Apart m t := by
    have hpairs := h.laidOut.apart s.root (self_mem_subtrees s.root)
    exact hpairs.forall hm hroot hne
  have hoffset : s.offset = 0 := by
    unfold Sketch.isWrapped at hw
    have := of_decide_eq_false hw
    omega
  unfold Sketch.ownOffset at hmstart hmstop
  rcases happart with hle | hle <;> omega

theorem start_lt_stop_of_mem_liftedSites (h : InOrder s.root) {x : Site}
    (hx : x ∈ liftedSites (callsOf s entryMethod)) : x.start < x.stop := by
  obtain ⟨c, hc, rfl, hscope⟩ := mem_liftedSites hx
  obtain ⟨path, v, hv, -, hk, -, hstart, hstop⟩ := exists_place_of_mem hc hscope
  have hlt := start_lt_stop_of_settingOf? (h.inside v.node (mem_subtrees_of_place hv)) hk
  rw [hstart, hstop]
  unfold Sketch.ownOffset
  omega

theorem exists_survey_eq_ok_of_inOrder (h : InOrder s.root) (entryMethod : String) :
    ∃ found, survey s entryMethod = .ok found := by
  have hle : ∀ a ∈ (liftedSites (callsOf s entryMethod)).map
      (fun x => (⟨x.start, x.stop⟩ : Span)), a.start ≤ a.stop := by
    intro a ha
    obtain ⟨x, hx, rfl⟩ := List.mem_map.mp ha
    exact Int.le_of_lt (start_lt_stop_of_mem_liftedSites h hx)
  have hapart := pairwise_liftedSites h.laidOut entryMethod
  have hcheck := (Span.checkDisjoint_eq_ok_iff_pairwise hle).mpr (List.pairwise_map.mpr hapart)
  rw [survey_eq, hcheck]
  exact ⟨_, rfl⟩

/-- The stretches that are turned into comments do not overlap if the imports lie one behind the
other and clear of the calls in the right place. -/
theorem pairwise_wraps_of (h : LaidOut s.root)
    (himports : s.imports.Pairwise fun i j => i.stop ≤ j.start)
    (hclear : s.mode ≠ .java → ∀ i ∈ s.imports, ∀ c ∈ callsOf s entryMethod, c.scope ≠ .invalid →
      (i.stop : Int) ≤ c.site.start ∨ c.site.stop ≤ i.start) :
    (wraps s entryMethod).Pairwise Wrap.Apart := by
  have hsites := pairwise_liftedSites h entryMethod
  unfold wraps
  split_ifs with hj
  · rw [List.append_nil]
    exact List.pairwise_map.mpr hsites
  · refine List.pairwise_append.mpr ⟨List.pairwise_map.mpr hsites, List.pairwise_map.mpr ?_, ?_⟩
    · exact himports.imp fun hij => .inl (Int.ofNat_le.mpr hij)
    · intro v hv w hw
      obtain ⟨x, hx, rfl⟩ := List.mem_map.mp hv
      obtain ⟨i, hi, rfl⟩ := List.mem_map.mp hw
      obtain ⟨c, hc, rfl, hscope⟩ := mem_liftedSites hx
      exact (hclear hj i hi c hc hscope).symm

end Unwrapped

theorem stop_le_closingBrace {s : Sketch} {entryMethod : String} (h : InOrder s.root)
    (hj : s.mode = .java) {d : Call} (hd : d ∈ callsOf s entryMethod) (hscope : d.scope ≠ .invalid)
    {body brace : Node} (hbody : s.classBody? = some body)
    (hbrace : Generate.closingBrace? body = some brace) :
    d.site.stop ≤ s.ownOffset brace.start := by
  obtain ⟨path, v, hv, -, hk, hclass, -, hstop⟩ := exists_place_of_mem hd hscope
  have hn := start_lt_stop_of_settingOf? (h.inside v.node (mem_subtrees_of_place hv)) hk
  have hentry : InEntryMethod s entryMethod path v.ancestors := by
    by_contra he
    refine hclass ((invalid_iff h.laidOut hv hn).mpr ⟨fun hi => ?_, he⟩)
    cases hj.symm.trans hi.1
  obtain ⟨-, statement, block, method, above, ha, -, -, hmethod, -, hmember⟩ := hentry
  rcases hmember with ⟨hactive, -⟩ | ⟨body', cls, rfl, hbody', -⟩
  · rw [hj] at hactive
    cases hactive
  · rw [hbody, Option.some.injEq] at hbody'
    subst hbody'
    have hsix : path.length = 6 := by
      rw [← place?_length hv, ha]
      rfl
    obtain ⟨x, hx, htake, hdrop⟩ := ancestors_eq_of_depth hv ha hsix
    cases hx
    have hlaid : LaidOut body := h.laidOut.descend htake
    have ha' : v.ancestors = [statement, block] ++ method :: body :: [cls, s.root] := ha
    obtain ⟨hmem, -, hwithin⟩ :=
      mem_children_of_ancestors (v := ⟨body, [cls, s.root]⟩) hlaid hdrop ha'
    -- the method is no brace, so it comes before the last child of the body
    obtain ⟨hlast, hkind⟩ := Option.filter_eq_some_iff.mp hbrace
    obtain ⟨front, hfront⟩ := List.getLast?_eq_some_iff.mp hlast
    have hne : method ≠ brace := by
      rintro rfl
      rw [hmethod] at hkind
      exact absurd hkind (by decide)
    have hordered := h.ordered body (mem_subtrees_of_place htake)
    rw [hfront] at hordered hmem
    have hbefore : method.stop ≤ brace.start := by
      rcases List.mem_append.mp hmem with hm | hm
      · exact (List.pairwise_append.mp hordered).2.2 method hm brace (List.mem_singleton_self _)
      · exact absurd (List.mem_singleton.mp hm) hne
    rw [hstop]
    unfold Sketch.ownOffset
    omega

/-- The edits of a result put its stretches between their texts and, in a class of the sketch's own,
add members. -/
theorem edits_eq {σ : Type} {report : σ → Warning → σ} {source : Bytes} {name package : String}
    {c : Config} {s : Sketch} {log log' : σ} {g : Generated}
    (h : Generate.assemble report source name package c s log = (.ok g, log')) :
    g.edits = (wraps s c.entryMethod).flatMap Wrap.edits ++
      if s.mode = .java then
        Generate.memberEdits c name s g.accessors (s.methodNames.contains "main")
      else [] := by
  obtain ⟨found, body, hfound, -, hedits, -⟩ := assemble_eq_ok h
  obtain ⟨-, -, hfedits⟩ := survey_eq_ok hfound
  rw [hedits, hfedits, wraps, List.flatMap_append, List.flatMap_map, Generate.otherEdits]
  by_cases hj : s.mode = .java
  · rw [if_pos hj, if_pos hj, if_pos hj, List.flatMap_nil, List.append_nil]
    rfl
  · rw [if_neg hj, if_neg hj, if_neg hj, List.append_nil, List.flatMap_map]
    rfl

/-- How a sketch that was read from a source and the tree `raw` of the source itself are laid out.
The calls and the imports of a sketch that was read inside a class come from different trees, so
that they lie apart is a condition of its own. -/
structure Spaced (s : Sketch) (raw : Node) (source : Bytes) (entryMethod : String) : Prop where
  inOrder : InOrder s.root
  solid : Solid s.root
  rawInOrder : InOrder raw
  rawSolid : Solid raw
  imports : s.imports = Sketch.findImports source raw
  plain : s.isWrapped = false → raw = s.root
  clear : s.isWrapped = true → ∀ i ∈ s.imports, ∀ c ∈ callsOf s entryMethod, c.scope ≠ .invalid →
    (i.stop : Int) ≤ c.site.start ∨ c.site.stop ≤ i.start

/-- The imports of a sketch are those of the tree of its source, and this is its own tree unless it
was read inside a class. -/
theorem imports_read (source : Bytes) :
    (Sketch.read source).imports = Sketch.findImports source (Node.parse source).1 ∧
      ((Sketch.read source).isWrapped = false →
        (Node.parse source).1 = (Sketch.read source).root) := by
  unfold Sketch.read
  rcases Node.parse source with ⟨root, hasError⟩
  cases hasError with
  | false => exact ⟨rfl, fun _ => rfl⟩
  | true =>
    dsimp only
    rcases Node.parse _ with ⟨root', hasError'⟩
    cases hasError' with
    | false =>
      refine ⟨rfl, fun hw => ?_⟩
      have hhead : decide (0 < Sketch.wrapperHead.length) = false := hw
      exact absurd hhead (by decide +kernel)
    | true => exact ⟨rfl, fun _ => rfl⟩

namespace Spaced

variable {s : Sketch} {raw : Node} {source : Bytes} {entryMethod : String}

theorem apart_import (h : Spaced s raw source entryMethod) (hj : s.mode ≠ .java) {c : Call}
    (hc : c ∈ callsOf s entryMethod) (hscope : c.scope ≠ .invalid) {i : Import}
    (hi : i ∈ s.imports) : (i.stop : Int) ≤ c.site.start ∨ c.site.stop ≤ i.start := by
  cases hw : s.isWrapped with
  | true => exact h.clear hw i hi c hc hscope
  | false =>
    rw [h.imports, h.plain hw] at hi
    exact apart_of_mem_findImports h.inOrder hj hw hc hscope hi

theorem pairwise_wraps (h : Spaced s raw source entryMethod) :
    (wraps s entryMethod).Pairwise Wrap.Apart := by
  apply pairwise_wraps_of h.inOrder.laidOut
  · rw [h.imports]
    exact Sketch.pairwise_findImports source h.rawInOrder
  · intro hj i hi c hc hscope
    exact h.apart_import hj hc hscope hi

theorem start_lt_stop (h : Spaced s raw source entryMethod) :
    ∀ w ∈ wraps s entryMethod, w.start < w.stop := by
  intro w hw
  unfold wraps at hw
  rcases List.mem_append.mp hw with hw | hw
  · obtain ⟨x, hx, rfl⟩ := List.mem_map.mp hw
    exact start_lt_stop_of_mem_liftedSites h.inOrder hx
  · split_ifs at hw with hj
    · cases hw
    · obtain ⟨i, hi, rfl⟩ := List.mem_map.mp hw
      rw [h.imports, Sketch.findImports_eq_flatMap] at hi
      obtain ⟨t, ht, hi⟩ := List.mem_flatMap.mp hi
      have hroot : t ∈ raw.children := (List.mem_filter.mp ht).1
      obtain ⟨n, hn, hkind, histart, histop, -⟩ :=
        Sketch.exists_node_of_mem_importsIn (h.rawInOrder.child hroot) hi
      have hlt := h.rawSolid n (subtrees_subset hroot hn) (.inr hkind)
      change (i.start : Int) < i.stop
      omega

theorem memberEdits_not_isWithin (h : Spaced s raw source entryMethod) (hj : s.mode = .java)
    (c : Config) (name : String) (accessors : List Accessor) (hasMain : Bool) {w : Wrap}
    (hw : w ∈ wraps s entryMethod) {start stop : Nat} (hstart : w.start = start)
    (hstop : w.stop = stop) :
    ∀ e ∈ Generate.memberEdits c name s accessors hasMain, ¬e.IsWithin start stop := by
  intro e he
  have hlt := h.start_lt_stop w hw
  rw [wraps, if_pos hj, List.append_nil] at hw
  obtain ⟨x, hx, rfl⟩ := List.mem_map.mp hw
  obtain ⟨d, hd, rfl, hscope⟩ := mem_liftedSites hx
  have hdstop : d.site.stop = stop := hstop
  unfold Generate.memberEdits at he
  split at he
  · rename_i cls body hcls hbody
    split at he
    · rename_i brace hbrace
      have hle := stop_le_closingBrace h.inOrder hj hd hscope hbody hbrace
      dsimp only at he
      split_ifs at he
      · cases he
      · rw [List.mem_singleton.mp he]
        -- the brace is at the end of the stretch at the earliest, and what is put there follows it
        rintro (⟨-, hhigh⟩ | ⟨hpos, -⟩ | ⟨-, hside⟩)
        · simp only [Edit.insertBefore] at hhigh
          omega
        · simp only [Edit.insertBefore] at hpos
          omega
        · cases hside
    · cases he
  · cases he

end Spaced

end Sketchbook
