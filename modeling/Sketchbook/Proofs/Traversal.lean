import Mathlib.Data.List.Lex
import Sketchbook.Proofs.Recording
import Sketchbook.Proofs.Spacing
import Sketchbook.Proofs.Wrapping

namespace Sketchbook.Settings

open Sketchbook.Syntax (Node Role)
open Sketchbook.Editing

section Rounds

def Visited.below (v : Visited) : List Visited :=
  v.node.children.map fun c => ⟨c, v.node :: v.ancestors⟩

/-- The rounds of a walk over a stack whose top is at its end. The node on top is taken off and found,
and the nodes right below it are put on the stack, the last of them first. -/
inductive Walks : List Visited → List Visited → Prop where
  | done : Walks [] []
  | round {stack found : List Visited} {v : Visited} :
      Walks (stack ++ v.below.reverse) found → Walks (stack ++ [v]) (v :: found)

def toFind (stack : List Visited) : List Visited :=
  stack.reverse.flatMap fun v => preorder v.ancestors v.node

theorem preorder_eq_below (v : Visited) : preorder v.ancestors v.node =
    v :: v.below.flatMap fun u => preorder u.ancestors u.node := by
  rw [preorder_eq_cons, Visited.below, List.flatMap_map]

theorem toFind_concat (stack : List Visited) (v : Visited) :
    toFind (stack ++ [v]) = v :: toFind (stack ++ v.below.reverse) :=
  calc toFind (stack ++ [v])
    _ = preorder v.ancestors v.node ++ toFind stack := by
      rw [toFind, List.reverse_append, List.reverse_singleton, List.singleton_append,
        List.flatMap_cons, toFind]
    _ = v :: ((v.below.flatMap fun u => preorder u.ancestors u.node) ++ toFind stack) := by
      rw [preorder_eq_below, List.cons_append]
    _ = v :: toFind (stack ++ v.below.reverse) := by
      rw [toFind, toFind, List.reverse_append, List.reverse_reverse, List.flatMap_append]

theorem walks_iff {stack found : List Visited} : Walks stack found ↔ found = toFind stack := by
  constructor
  · intro h
    induction h with
    | done => rfl
    | round _ ih => rw [toFind_concat, ← ih]
  · -- on what is found, since the stack itself may grow in a round
    intro h
    induction found generalizing stack with
    | nil =>
      rcases List.eq_nil_or_concat stack with rfl | ⟨front, v, rfl⟩
      · exact .done
      · rw [List.concat_eq_append, toFind_concat] at h
        cases h
    | cons w found ih =>
      rcases List.eq_nil_or_concat stack with rfl | ⟨front, v, rfl⟩
      · cases h
      · rw [List.concat_eq_append] at h ⊢
        rw [toFind_concat, List.cons.injEq] at h
        obtain ⟨rfl, hrest⟩ := h
        exact .round (ih hrest)

end Rounds

section Places

/-- A place comes before another one if that one lies below it, or in a later child of a node above
both. -/
def Before (p q : List Nat) : Prop := List.Lex (· < ·) p q

theorem Before.asymm {p q : List Nat} (h : Before p q) : ¬Before q p :=
  (List.Lex.asymm (· < ·)).asymm p q h

theorem Before.irrefl (p : List Nat) : ¬Before p p := fun h => h.asymm h

mutual

/-- The nodes of a tree with their places, each before those below it. -/
def placed (ancestors : List Node) : Node → List (List Nat × Visited)
  | n@(.mk _ _ _ _ _ _ children) => ([], ⟨n, ancestors⟩) :: placedFrom (n :: ancestors) 0 children

/-- The nodes of some trees with their places; `i` is the number of the first tree. -/
def placedFrom (ancestors : List Node) (i : Nat) : List Node → List (List Nat × Visited)
  | [] => []
  | n :: rest =>
    (placed ancestors n).map (fun x => (i :: x.1, x.2)) ++ placedFrom ancestors (i + 1) rest

end

theorem placed_eq_cons (ancestors : List Node) (n : Node) :
    placed ancestors n = ([], ⟨n, ancestors⟩) :: placedFrom (n :: ancestors) 0 n.children := by
  cases n with
  | mk r k named start stop row children => rw [placed]; rfl

theorem mem_placedFrom {ancestors ns : List Node} {i : Nat} {x : List Nat × Visited} :
    x ∈ placedFrom ancestors i ns ↔
      ∃ j c y, ns[j]? = some c ∧ y ∈ placed ancestors c ∧ x = ((i + j) :: y.1, y.2) := by
  induction ns generalizing i with
  | nil => simp [placedFrom]
  | cons n ns ih =>
    have hnumber (j : Nat) : i + 1 + j = i + (j + 1) := by omega
    rw [placedFrom, List.mem_append, List.mem_map, ih]
    constructor
    · rintro (⟨y, hy, rfl⟩ | ⟨j, c, y, hc, hy, rfl⟩)
      · exact ⟨0, n, y, rfl, hy, rfl⟩
      · exact ⟨j + 1, c, y, hc, hy, by rw [hnumber]⟩
    · rintro ⟨j, c, y, hc, hy, rfl⟩
      cases j with
      | zero =>
        cases hc
        exact .inl ⟨y, hy, rfl⟩
      | succ j => exact .inr ⟨j, c, y, hc, hy, by rw [hnumber]⟩

theorem mem_placed_iff (n : Node) (ancestors : List Node) (path : List Nat) (v : Visited) :
    (path, v) ∈ placed ancestors n ↔ Visited.descend ⟨n, ancestors⟩ path = some v := by
  induction n using node_induction generalizing ancestors path with
  | step n ih =>
    rw [placed_eq_cons, List.mem_cons, mem_placedFrom]
    cases path with
    | nil => simp [Visited.descend, eq_comm]
    | cons i path =>
      rw [descend_cons_eq_some]
      constructor
      · rintro (hroot | ⟨j, c, y, hc, hy, hpath⟩)
        · cases hroot
        · rw [Nat.zero_add, Prod.mk.injEq, List.cons.injEq] at hpath
          obtain ⟨⟨rfl, rfl⟩, rfl⟩ := hpath
          exact ⟨c, hc, (ih c (List.mem_of_getElem? hc) _ _).mp hy⟩
      · rintro ⟨c, hc, hpath⟩
        have hmem := (ih c (List.mem_of_getElem? hc) _ _).mpr hpath
        exact .inr ⟨i, c, (path, v), hc, hmem, by rw [Nat.zero_add]⟩

theorem map_snd_placedFrom {ancestors ns : List Node}
    (h : ∀ c ∈ ns, (placed ancestors c).map Prod.snd = preorder ancestors c) (i : Nat) :
    (placedFrom ancestors i ns).map Prod.snd = ns.flatMap (preorder ancestors) := by
  induction ns generalizing i with
  | nil => rfl
  | cons n ns ih =>
    have hn := h n List.mem_cons_self
    have hns := ih (fun c hc => h c (List.mem_cons_of_mem n hc)) (i + 1)
    rw [placedFrom, List.map_append, List.map_map, hns, List.flatMap_cons, ← hn]
    rfl

theorem map_snd_placed (n : Node) (ancestors : List Node) :
    (placed ancestors n).map Prod.snd = preorder ancestors n := by
  induction n using node_induction generalizing ancestors with
  | step n ih =>
    rw [placed_eq_cons, preorder_eq_cons, List.map_cons,
      map_snd_placedFrom (fun c hc => ih c hc (n :: ancestors))]

theorem pairwise_placedFrom {ancestors ns : List Node}
    (h : ∀ c ∈ ns, (placed ancestors c).Pairwise fun x y => Before x.1 y.1) (i : Nat) :
    (placedFrom ancestors i ns).Pairwise fun x y => Before x.1 y.1 := by
  induction ns generalizing i with
  | nil => exact List.Pairwise.nil
  | cons n ns ih =>
    rw [placedFrom]
    apply List.pairwise_append.mpr
    refine ⟨?_, ih (fun c hc => h c (List.mem_cons_of_mem n hc)) (i + 1), ?_⟩
    · apply List.pairwise_map.mpr
      apply (h n List.mem_cons_self).imp
      intro x y hxy
      exact .cons hxy
    · -- places in a later tree have a greater first number
      intro x hx y hy
      obtain ⟨x', -, rfl⟩ := List.mem_map.mp hx
      obtain ⟨j, c, y', -, -, rfl⟩ := mem_placedFrom.mp hy
      exact .rel (by omega)

theorem pairwise_placed (n : Node) (ancestors : List Node) :
    (placed ancestors n).Pairwise fun x y => Before x.1 y.1 := by
  induction n using node_induction generalizing ancestors with
  | step n ih =>
    rw [placed_eq_cons]
    apply List.pairwise_cons.mpr
    refine ⟨?_, pairwise_placedFrom (fun c hc => ih c hc (n :: ancestors)) 0⟩
    intro x hx
    obtain ⟨j, c, y, -, -, rfl⟩ := mem_placedFrom.mp hx
    exact .nil

/-- A list is made of what there is at the places of a tree: one entry for each place where there is
something, and none else, in the order of the places. -/
def Lists {α : Type} (root : Node) (P : Visited → α → Prop) (xs : List α) : Prop :=
  ∃ found : List (List Nat × α), found.map Prod.snd = xs ∧
    (found.Pairwise fun x y => Before x.1 y.1) ∧
    ∀ path x, (path, x) ∈ found ↔ ∃ v, place? root path = some v ∧ P v x

theorem lists_filterMap {α : Type} (root : Node) (f : Visited → Option α) :
    Lists root (fun v x => f v = some x) ((preorder [] root).filterMap f) := by
  refine ⟨(placed [] root).filterMap fun y => (f y.2).map (y.1, ·), ?_, ?_, ?_⟩
  · rw [← map_snd_placed, List.filterMap_map, List.map_filterMap]
    apply List.filterMap_congr
    intro y _
    rw [Option.map_map]
    exact Option.map_id'
  · apply List.pairwise_filterMap.mpr
    apply (pairwise_placed root []).imp
    intro y z hyz a ha b hb
    obtain ⟨_, -, rfl⟩ := Option.map_eq_some_iff.mp ha
    obtain ⟨_, -, rfl⟩ := Option.map_eq_some_iff.mp hb
    exact hyz
  · intro path x
    rw [List.mem_filterMap]
    constructor
    · rintro ⟨⟨p, v⟩, hv, hx⟩
      obtain ⟨_, hx, hpair⟩ := Option.map_eq_some_iff.mp hx
      cases hpair
      exact ⟨v, (mem_placed_iff root [] p v).mp hv, hx⟩
    · rintro ⟨v, hv, hx⟩
      refine ⟨(path, v), (mem_placed_iff root [] path v).mpr hv, ?_⟩
      rw [hx, Option.map_some]

theorem Lists.filter {α : Type} {root : Node} {P : Visited → α → Prop} {xs : List α}
    (h : Lists root P xs) (q : α → Bool) :
    Lists root (fun v x => P v x ∧ q x = true) (xs.filter q) := by
  obtain ⟨found, rfl, hsorted, hmem⟩ := h
  refine ⟨found.filter fun y => q y.2, ?_, hsorted.filter _, ?_⟩
  · rw [List.filter_map]
    rfl
  · intro path x
    rw [List.mem_filter, hmem]
    constructor
    · rintro ⟨⟨v, hv, hx⟩, hq⟩
      exact ⟨v, hv, hx, hq⟩
    · rintro ⟨v, hv, hx, hq⟩
      exact ⟨⟨v, hv, hx⟩, hq⟩

theorem before_getLast? {α : Type} {found : List (List Nat × α)} {y : List Nat × α}
    (h : found.Pairwise fun x y => Before x.1 y.1) (hy : found.getLast? = some y) :
    y ∈ found ∧ ∀ x ∈ found, x = y ∨ Before x.1 y.1 := by
  obtain ⟨front, rfl⟩ := List.getLast?_eq_some_iff.mp hy
  obtain ⟨-, -, hfront⟩ := List.pairwise_append.mp h
  constructor
  · exact List.mem_append_right front (List.mem_singleton_self y)
  · intro x hx
    rcases List.mem_append.mp hx with hx | hx
    · exact .inr (hfront x hx y (List.mem_singleton_self y))
    · exact .inl (List.mem_singleton.mp hx)

theorem Lists.getLast?_eq_some_iff {α : Type} {root : Node} {P : Visited → α → Prop} {xs : List α}
    (h : Lists root P xs) (x : α) :
    xs.getLast? = some x ↔ ∃ path v, place? root path = some v ∧ P v x ∧
      ∀ path' v' x', place? root path' = some v' → P v' x' → path' = path ∨ Before path' path := by
  obtain ⟨found, rfl, hsorted, hmem⟩ := h
  rw [List.getLast?_map, Option.map_eq_some_iff]
  constructor
  · rintro ⟨⟨path, x⟩, hy, rfl⟩
    obtain ⟨hin, hfront⟩ := before_getLast? hsorted hy
    obtain ⟨v, hv, hx⟩ := (hmem path x).mp hin
    refine ⟨path, v, hv, hx, ?_⟩
    intro path' v' x' hv' hx'
    have hin' : (path', x') ∈ found := (hmem path' x').mpr ⟨v', hv', hx'⟩
    exact (hfront _ hin').imp_left (congrArg Prod.fst)
  · rintro ⟨path, v, hv, hx, hlast⟩
    have hin := (hmem path x).mpr ⟨v, hv, hx⟩
    cases hy : found.getLast? with
    | none =>
      rw [List.getLast?_eq_none_iff.mp hy] at hin
      cases hin
    | some y =>
      obtain ⟨hyin, hfront⟩ := before_getLast? hsorted hy
      obtain ⟨w, hw, hyx⟩ := (hmem y.1 y.2).mp hyin
      refine ⟨y, rfl, ?_⟩
      -- of two last places neither comes before the other
      rcases hfront (path, x) hin with heq | hlt
      · rw [← heq]
      · rcases hlast y.1 w y.2 hw hyx with hsame | hback
        · rw [hsame] at hlt
          exact absurd hlt (Before.irrefl path)
        · exact absurd hback (Before.asymm hlt)

end Places

section Recorded

variable {s : Sketch} {entryMethod : String}

/-- A call that sets something: one by the name of a setting that is no method of an object. A call
of `smooth` has exactly one argument, where comments are none. -/
structure Sets (s : Sketch) (k : Setting) (n : Node) : Prop where
  kind : n.kind = "method_invocation"
  plain : n.childOf? .object = none
  name : s.textOf (n.childOf? .name) = k.name
  single : k = .smooth → ∃ list a, n.childOf? .arguments = some list ∧
    (list.namedChildren.filter fun c => !c.isComment) = [a]

theorem length_argumentTexts_eq_one_iff (s : Sketch) (n : Node) :
    (argumentTexts s n).length = 1 ↔ ∃ list a, n.childOf? .arguments = some list ∧
      (list.namedChildren.filter fun c => !c.isComment) = [a] := by
  unfold argumentTexts
  cases n.childOf? .arguments with
  | none => simp
  | some list => simp [List.length_eq_one_iff]

theorem settingOf?_eq_some_iff {n : Node} {k : Setting} :
    settingOf? s n = some k ↔ Sets s k n := by
  unfold settingOf?
  constructor
  · intro h
    split_ifs at h with hcall
    rw [Bool.or_eq_true, not_or, decide_eq_true_eq, not_not, Bool.not_eq_true,
      Option.isSome_eq_false_iff, Option.isNone_iff_eq_none] at hcall
    dsimp only at h
    split_ifs at h with hsize hsmooth
    · cases h
      exact ⟨hcall.1, hcall.2, hsize, nofun⟩
    · cases h
      rw [Bool.and_eq_true, decide_eq_true_eq, decide_eq_true_eq] at hsmooth
      exact ⟨hcall.1, hcall.2, hsmooth.1,
        fun _ => (length_argumentTexts_eq_one_iff s n).mp hsmooth.2⟩
  · rintro ⟨hkind, hplain, hname, hsingle⟩
    cases k with
    | size => simp [hkind, hplain, hname]
    | smooth =>
      have hone := (length_argumentTexts_eq_one_iff s n).mpr (hsingle rfl)
      simp [hkind, hplain, hname, hone, Setting.name]

def Records (s : Sketch) (entryMethod : String) (v : Visited) (c : Call) : Prop :=
  ∃ k, Sets s k v.node ∧ c = callAt s entryMethod k v

theorem call?_eq_some_iff {v : Visited} {c : Call} :
    call? s entryMethod v = some c ↔ Records s entryMethod v c := by
  rw [call?, Option.map_eq_some_iff]
  apply exists_congr
  intro k
  rw [settingOf?_eq_some_iff, eq_comm (a := c)]

theorem lists_callsOf (s : Sketch) (entryMethod : String) :
    Lists s.root (Records s entryMethod) (callsOf s entryMethod) := by
  have hcalls := lists_filterMap s.root (call? s entryMethod)
  simp only [call?_eq_some_iff] at hcalls
  rw [callsOf_eq]
  exact hcalls

end Recorded

section Order

variable {s : Sketch} {entryMethod : String}

/-- A call of no object begins with its name, below which there is nothing. -/
def NamedFirst (root : Node) : Prop :=
  ∀ n ∈ subtrees root, n.kind = "method_invocation" → n.childOf? .object = none →
    ∀ name ∈ n.childOf? .name, name.start = n.start ∧ name.children = []

instance (root : Node) : Decidable (NamedFirst root) :=
  inferInstanceAs (Decidable (∀ n ∈ subtrees root, _ → _ → ∀ name ∈ n.childOf? .name, _ ∧ _))

theorem NamedFirst.child {n c : Node} (h : NamedFirst n) (hc : c ∈ n.children) : NamedFirst c :=
  fun m hm => h m (subtrees_subset hc hm)

theorem start_lt_of_below {n c m : Node} {k l : Setting} (h : InOrder n) (hfirst : NamedFirst n)
    (hk : settingOf? s n = some k) (hc : c ∈ n.children) (hm : m ∈ subtrees c)
    (hl : settingOf? s m = some l) : n.start < m.start := by
  obtain ⟨hkind, hplain, -, -⟩ := settingOf?_eq_some_iff.mp hk
  obtain ⟨name, hname, hlt⟩ := exists_name_of_settingOf? hk
  obtain ⟨hstart, hleaf⟩ := hfirst n (self_mem_subtrees n) hkind hplain name hname
  have hwithin := (h.child hc).within_of_mem hm
  have hspan : m.start < m.stop :=
    start_lt_stop_of_settingOf? (h.inside m (subtrees_subset hc hm)) hl
  have hin := h.inside n (self_mem_subtrees n) c hc
  -- the call stands in front of the name, or is the name, or stands behind it
  obtain ⟨front, back, hsplit⟩ := List.append_of_mem (List.mem_of_find?_eq_some hname)
  have hordered := h.ordered n (self_mem_subtrees n)
  rw [hsplit] at hc hordered
  obtain ⟨-, hback, hfront⟩ := List.pairwise_append.mp hordered
  rcases List.mem_append.mp hc with hc | hc
  · have hbefore := hfront c hc name List.mem_cons_self
    omega
  · rcases List.mem_cons.mp hc with rfl | hc
    · rw [subtrees_eq_cons, hleaf, List.flatMap_nil, List.mem_singleton] at hm
      subst hm
      obtain ⟨inner, hinner, -⟩ := exists_name_of_settingOf? hl
      rw [Node.childOf?, hleaf] at hinner
      cases hinner
    · have hbehind := (List.pairwise_cons.mp hback).1 c hc
      omega

theorem pairwise_start {n : Node} (h : InOrder n) (hfirst : NamedFirst n) :
    (subtrees n).Pairwise fun a b => ∀ k l, settingOf? s a = some k → settingOf? s b = some l →
      a.start < b.start := by
  induction n using node_induction with
  | step n ih =>
    rw [subtrees_eq_cons]
    apply List.pairwise_cons.mpr
    constructor
    · intro m hm k l hk hl
      obtain ⟨c, hc, hm⟩ := List.mem_flatMap.mp hm
      exact start_lt_of_below h hfirst hk hc hm hl
    · apply List.pairwise_flatMap.mpr
      constructor
      · intro c hc
        exact ih c hc (h.child hc) (hfirst.child hc)
      · -- a call ends before everything in a later sibling begins
        apply (h.ordered n (self_mem_subtrees n)).imp_of_mem
        intro a b ha hb hab x hx y hy k l hk hl
        have hxa := (h.child ha).within_of_mem hx
        have hyb := (h.child hb).within_of_mem hy
        have hspan : x.start < x.stop :=
          start_lt_stop_of_settingOf? (h.inside x (subtrees_subset ha hx)) hk
        omega

theorem pairwise_callsOf (h : InOrder s.root) (hfirst : NamedFirst s.root) (entryMethod : String) :
    (callsOf s entryMethod).Pairwise fun c d => c.site.start < d.site.start := by
  have hstarts := pairwise_start (s := s) h hfirst
  rw [subtrees, List.pairwise_map] at hstarts
  rw [callsOf_eq]
  apply List.pairwise_filterMap.mpr
  apply hstarts.imp
  intro v w hvw c hc d hd
  obtain ⟨k, hk, rfl⟩ := Option.map_eq_some_iff.mp hc
  obtain ⟨l, hl, rfl⟩ := Option.map_eq_some_iff.mp hd
  have hlt := hvw k l hk hl
  show s.ownOffset v.node.start < s.ownOffset w.node.start
  unfold Sketch.ownOffset
  omega

theorem pairwise_position (h : InOrder s.root) (entryMethod : String) :
    ((liftedSites (callsOf s entryMethod)).flatMap fun x =>
      Edit.commentOut x.start x.stop).Pairwise fun d e => d.position ≤ e.position := by
  have hsorted : (liftedSites (callsOf s entryMethod)).Pairwise fun x y => x.start ≤ y.start :=
    (Recorder.sortedByStart_sortSites _).ordered
  have hapart := pairwise_liftedSites h.laidOut entryMethod
  have hspan : ∀ x ∈ liftedSites (callsOf s entryMethod), x.start < x.stop :=
    fun x hx => start_lt_stop_of_mem_liftedSites h hx
  apply List.pairwise_flatMap.mpr
  constructor
  · intro x hx
    exact List.pairwise_pair.mpr (Int.le_of_lt (hspan x hx))
  -- between two calls there are the end of the first and the start of the second
  · apply (hsorted.and hapart).imp_of_mem
    intro x y hx hy hxy d hd e he
    have hxspan := hspan x hx
    have hyspan := hspan y hy
    have hd : d.position ≤ x.stop := by
      rcases List.mem_pair.mp hd with rfl | rfl
      · exact Int.le_of_lt hxspan
      · exact Int.le_refl _
    have he : y.start ≤ e.position := by
      rcases List.mem_pair.mp he with rfl | rfl
      · exact Int.le_refl _
      · exact Int.le_of_lt hyspan
    calc d.position
      _ ≤ x.stop := hd
      _ ≤ y.start := by omega
      _ ≤ e.position := he

end Order

/-- The walk ends, having met every node once and in the order of the places, and a survey records
those of them which are calls that set something. Where the nodes lie one behind the other and calls
begin with their names, the calls are recorded in the order in which they begin, and the survey gives
its edits in the order in which they are made. -/
theorem calls_recorded_in_order (s : Sketch) (entryMethod : String) :
    (∀ found, Walks [⟨s.root, []⟩] found ↔ found = walk s.root) ∧
    walk s.root = preorder [] s.root ∧
    Lists s.root (fun v w => v = w) (walk s.root) ∧
    Lists s.root (Records s entryMethod) (callsOf s entryMethod) ∧
    (∃ r, recordAll (callsOf s entryMethod) = .ok r ∧
      ((∃ found, survey s entryMethod = .ok found ∧ found.calls = callsOf s entryMethod ∧
          found.metadata = r.metadata) ∨
        ∃ o, survey s entryMethod = .error (.overlap o))) ∧
    (InOrder s.root → NamedFirst s.root →
      (callsOf s entryMethod).Pairwise (fun c d => c.site.start < d.site.start) ∧
      ∃ found, survey s entryMethod = .ok found ∧ found.calls = callsOf s entryMethod ∧
        found.edits.Pairwise fun d e => d.position ≤ e.position) := by
  refine ⟨fun found => ?_, walk_eq_preorder s.root, ?_, lists_callsOf s entryMethod,
    ⟨_, recordAll_eq_ofCalls _, ?_⟩, fun h hfirst => ⟨pairwise_callsOf h hfirst entryMethod, ?_⟩⟩
  · rw [walks_iff, walk_eq_preorder, toFind, List.reverse_singleton, List.flatMap_singleton]
  · have hall := lists_filterMap s.root (some ·)
    simp only [Option.some.injEq, List.filterMap_some] at hall
    rw [walk_eq_preorder]
    exact hall
  · rw [survey_eq]
    split
    · exact .inr ⟨_, rfl⟩
    · exact .inl ⟨_, rfl, rfl, rfl⟩
  · -- where nodes lie one behind the other, no two calls overlap
    obtain ⟨found, hfound⟩ := exists_survey_eq_ok_of_inOrder h entryMethod
    obtain ⟨hcalls, -, hedits⟩ := survey_eq_ok hfound
    refine ⟨found, hfound, hcalls, ?_⟩
    rw [hedits]
    exact pairwise_position h entryMethod

/-- The tree of `size(size(1, 2), smooth(3)) size(1, 2);`, which lacks a semicolon. -/
def brokenCalls : Sketch where
  source := Text.Utf8.encode "size(size(1, 2), smooth(3)) size(1, 2);"
  mode := .static
  root := .mk none "program" true 0 39 0 [
    .mk none "ERROR" true 0 27 0 [
      .mk none "method_invocation" true 0 27 0 [
        .mk (some .name) "identifier" true 0 4 0 [],
        .mk (some .arguments) "argument_list" true 4 27 0 [
          .mk none "(" false 4 5 0 [],
          sizeCallAt 5 0,
          .mk none "," false 15 16 0 [],
          .mk none "method_invocation" true 17 26 0 [
            .mk (some .name) "identifier" true 17 23 0 [],
            .mk (some .arguments) "argument_list" true 23 26 0 [
              .mk none "(" false 23 24 0 [],
              .mk none "decimal_integer_literal" true 24 25 0 [],
              .mk none ")" false 25 26 0 []]],
          .mk none ")" false 26 27 0 []]]],
    .mk none "expression_statement" true 28 39 0 [
      sizeCallAt 28 0, .mk none ";" false 38 39 0 []]]

/-- All four calls are recorded, also those which are arguments of another one. -/
theorem calls_recorded_in_order_broken :
    InOrder brokenCalls.root ∧ NamedFirst brokenCalls.root ∧
    (callsOf brokenCalls "setup").map (fun c => (c.site.setting, c.site.start, c.scope)) =
      [(.size, 0, .invalid), (.size, 5, .invalid), (.smooth, 17, .invalid), (.size, 28, .global)] ∧
    (callsOf brokenCalls "setup").Pairwise (fun c d => c.site.start < d.site.start) ∧
    ∃ found, survey brokenCalls "setup" = .ok found ∧
      found.edits.map (·.position) = [28, 38] ∧
      found.edits.Pairwise fun d e => d.position ≤ e.position := by
  have horder : InOrder brokenCalls.root := ⟨by decide +kernel, by decide +kernel⟩
  have hfirst : NamedFirst brokenCalls.root := by decide +kernel
  obtain ⟨-, -, -, -, -, hordered⟩ := calls_recorded_in_order brokenCalls "setup"
  obtain ⟨hcalls, found, hfound, -, hedits⟩ := hordered horder hfirst
  have hpositions : (survey brokenCalls "setup").toOption.map (·.edits.map (·.position)) =
      some [28, 38] := by
    decide +kernel
  rw [hfound] at hpositions
  exact ⟨horder, hfirst, by decide +kernel, hcalls, found, hfound,
    Option.some.inj hpositions, hedits⟩

end Sketchbook.Settings
