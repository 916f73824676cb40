import Mathlib.Data.List.Basic
import Mathlib.Tactic.ByContra
import Sketchbook.Settings.Survey

namespace Sketchbook.Settings

open Sketchbook.Syntax (Node)

theorem node_induction {P : Node → Prop} (step : ∀ n : Node, (∀ c ∈ n.children, P c) → P n)
    (n : Node) : P n := by
  refine Node.rec (motive_1 := P) (motive_2 := fun cs => ∀ c ∈ cs, P c) ?_ ?_ ?_ n
  · intro r k named start stop row children ih
    exact step _ ih
  · intro c hc
    cases hc
  · intro m ms hm hms c hc
    rcases List.mem_cons.mp hc with rfl | hc
    · exact hm
    · exact hms c hc

theorem preorderAll_eq_flatMap (ancestors ns : List Node) :
    preorderAll ancestors ns = ns.flatMap (preorder ancestors) := by
  induction ns with
  | nil => rfl
  | cons n ns ih => rw [preorderAll, ih, List.flatMap_cons]

theorem preorder_eq_cons (ancestors : List Node) (n : Node) :
    preorder ancestors n = ⟨n, ancestors⟩ :: n.children.flatMap (preorder (n :: ancestors)) := by
  cases n with
  | mk r k named start stop row children => rw [preorder, preorderAll_eq_flatMap]; rfl

theorem nodeCount_eq (n : Node) : nodeCount n = 1 + nodeCountAll n.children := by
  cases n with
  | mk r k named start stop row children => rw [nodeCount]; rfl

theorem nodeCountAll_append (ms ns : List Node) :
    nodeCountAll (ms ++ ns) = nodeCountAll ms + nodeCountAll ns := by
  induction ms with
  | nil => exact (Nat.zero_add _).symm
  | cons m ms ih => rw [List.cons_append, nodeCountAll, nodeCountAll, ih, Nat.add_assoc]

theorem walkFrom_eq_flatMap (fuel : Nat) (stack : List Visited)
    (h : nodeCountAll (stack.map Visited.node) ≤ fuel) :
    walkFrom fuel stack = stack.flatMap fun v => preorder v.ancestors v.node := by
  -- each step takes one node off the trees of the stack
  induction fuel generalizing stack with
  | zero =>
    cases stack with
    | nil => rfl
    | cons v stack =>
      have hv := nodeCount_eq v.node
      rw [List.map_cons, nodeCountAll] at h
      omega
  | succ fuel ih =>
    cases stack with
    | nil => rfl
    | cons v stack =>
      have hv := nodeCount_eq v.node
      rw [List.map_cons, nodeCountAll] at h
      have hnodes : (v.node.children.map fun c =>
          (⟨c, v.node :: v.ancestors⟩ : Visited)).map Visited.node = v.node.children := by
        rw [List.map_map]
        exact List.map_id _
      have hs : nodeCountAll (((v.node.children.map fun c =>
          (⟨c, v.node :: v.ancestors⟩ : Visited)) ++ stack).map Visited.node) ≤ fuel := by
        rw [List.map_append, hnodes, nodeCountAll_append]
        omega
      rw [walkFrom, ih _ hs, List.flatMap_cons, preorder_eq_cons, List.flatMap_append,
        List.flatMap_map, List.cons_append]

theorem walk_eq_preorder (root : Node) : walk root = preorder [] root := by
  have hnodes : nodeCountAll ([⟨root, []⟩].map Visited.node) ≤ nodeCount root := Nat.le_refl _
  rw [walk, walkFrom_eq_flatMap _ _ hnodes, List.flatMap_singleton]

/-- The node that is reached from another one by going down to children with the given numbers. -/
def Visited.descend (v : Visited) : List Nat → Option Visited
  | [] => some v
  | i :: path =>
    match v.node.children[i]? with
    | some c => Visited.descend ⟨c, v.node :: v.ancestors⟩ path
    | none => none

def place? (root : Node) (path : List Nat) : Option Visited := Visited.descend ⟨root, []⟩ path

theorem descend_cons_eq_some {v w : Visited} {i : Nat} {path : List Nat} :
    v.descend (i :: path) = some w ↔
      ∃ c, v.node.children[i]? = some c ∧
        Visited.descend ⟨c, v.node :: v.ancestors⟩ path = some w := by
  rw [Visited.descend]
  cases v.node.children[i]? <;> simp

theorem descend_append {v w : Visited} {p q : List Nat} :
    v.descend (p ++ q) = some w ↔ ∃ u, v.descend p = some u ∧ u.descend q = some w := by
  induction p generalizing v with
  | nil => simp [Visited.descend]
  | cons i p ih =>
    rw [List.cons_append, Visited.descend, Visited.descend]
    cases v.node.children[i]? with
    | none => simp
    | some c => exact ih

theorem descend_ancestors {v w : Visited} {path : List Nat} (hp : path ≠ [])
    (h : v.descend path = some w) :
    ∃ below, below.length + 1 = path.length ∧ w.ancestors = below ++ v.node :: v.ancestors := by
  induction path generalizing v with
  | nil => exact absurd rfl hp
  | cons i path ih =>
    obtain ⟨c, _, hrest⟩ := descend_cons_eq_some.mp h
    by_cases hpath : path = []
    · subst hpath
      cases hrest
      exact ⟨[], rfl, rfl⟩
    · obtain ⟨below, hl, ha⟩ := ih hpath hrest
      refine ⟨below ++ [c], ?_, ?_⟩
      · simp only [List.length_append, List.length_cons, List.length_nil]
        omega
      · rw [ha]
        simp

theorem place?_length {root : Node} {w : Visited} {path : List Nat}
    (h : place? root path = some w) : w.ancestors.length = path.length := by
  by_cases hp : path = []
  · subst hp
    cases h
    rfl
  · obtain ⟨below, hl, ha⟩ := descend_ancestors hp h
    rw [ha, ← hl]
    simp

theorem place?_concat {root : Node} {front : List Nat} {i : Nat} {w : Visited} :
    place? root (front ++ [i]) = some w ↔ ∃ u c, place? root front = some u ∧
      u.node.children[i]? = some c ∧ w = ⟨c, u.node :: u.ancestors⟩ := by
  rw [place?, descend_append]
  apply exists_congr
  intro u
  rw [descend_cons_eq_some, ← exists_and_left]
  apply exists_congr
  intro c
  rw [Visited.descend, Option.some.injEq, eq_comm (a := w)]
  rfl

theorem exists_place_of_ancestors {root : Node} {path : List Nat} {v : Visited} {a : Node}
    {above : List Node} (hv : place? root path = some v) (ha : v.ancestors = a :: above) :
    ∃ front i, path = front ++ [i] ∧ place? root front = some ⟨a, above⟩ := by
  rcases List.eq_nil_or_concat path with rfl | ⟨front, i, rfl⟩
  · cases hv
    cases ha
  · rw [List.concat_eq_append] at hv ⊢
    obtain ⟨u, c, hu, -, rfl⟩ := place?_concat.mp hv
    cases ha
    exact ⟨front, i, rfl, hu⟩

theorem mem_preorder_iff (n : Node) (ancestors : List Node) (w : Visited) :
    w ∈ preorder ancestors n ↔ ∃ path, Visited.descend ⟨n, ancestors⟩ path = some w := by
  induction n using node_induction generalizing ancestors with
  | step n ih =>
    rw [preorder_eq_cons]
    constructor
    · intro h
      rcases List.mem_cons.mp h with rfl | h
      · exact ⟨[], rfl⟩
      · obtain ⟨c, hc, hw⟩ := List.mem_flatMap.mp h
        obtain ⟨path, hpath⟩ := (ih c hc (n :: ancestors)).mp hw
        obtain ⟨i, hi⟩ := List.getElem?_of_mem hc
        exact ⟨i :: path, descend_cons_eq_some.mpr ⟨c, hi, hpath⟩⟩
    · rintro ⟨path, hpath⟩
      cases path with
      | nil =>
        cases hpath
        exact List.mem_cons_self
      | cons i path =>
        obtain ⟨c, hi, hpath⟩ := descend_cons_eq_some.mp hpath
        have hc := List.mem_of_getElem? hi
        refine List.mem_cons_of_mem _ (List.mem_flatMap.mpr ⟨c, hc, ?_⟩)
        exact (ih c hc (n :: ancestors)).mpr ⟨path, hpath⟩

theorem mem_walk_iff (root : Node) (w : Visited) :
    w ∈ walk root ↔ ∃ path, place? root path = some w := by
  rw [walk_eq_preorder]
  exact mem_preorder_iff root [] w

def subtrees (n : Node) : List Node := (preorder [] n).map Visited.node

theorem map_node_preorder (n : Node) (ancestors : List Node) :
    (preorder ancestors n).map Visited.node = subtrees n := by
  unfold subtrees
  induction n using node_induction generalizing ancestors with
  | step n ih =>
    rw [preorder_eq_cons, preorder_eq_cons, List.map_cons, List.map_cons, List.map_flatMap,
      List.map_flatMap]
    congr 1
    refine List.flatMap_congr fun c hc => ?_
    rw [ih c hc (n :: ancestors), ih c hc [n]]

theorem subtrees_eq_cons (n : Node) : subtrees n = n :: n.children.flatMap subtrees := by
  rw [subtrees, preorder_eq_cons, List.map_cons, List.map_flatMap]
  simp only [map_node_preorder]

theorem self_mem_subtrees (n : Node) : n ∈ subtrees n := by
  rw [subtrees_eq_cons]
  exact List.mem_cons_self

theorem subtrees_subset {n c : Node} (hc : c ∈ n.children) : subtrees c ⊆ subtrees n := by
  intro m hm
  rw [subtrees_eq_cons n]
  exact List.mem_cons_of_mem _ (List.mem_flatMap.mpr ⟨c, hc, hm⟩)

def Apart (a b : Node) : Prop := a.stop ≤ b.start ∨ b.stop ≤ a.start

instance : DecidableRel Apart := fun a b =>
  inferInstanceAs (Decidable (a.stop ≤ b.start ∨ b.stop ≤ a.start))

theorem Apart.symm {a b : Node} (h : Apart a b) : Apart b a := Or.symm h

instance : Std.Symm Apart := ⟨fun _ _ h => h.symm⟩

/-- Every node lies within its parent, and siblings do not overlap. -/
structure LaidOut (root : Node) : Prop where
  inside : ∀ n ∈ subtrees root, ∀ c ∈ n.children, n.start ≤ c.start ∧ c.stop ≤ n.stop
  apart : ∀ n ∈ subtrees root, n.children.Pairwise Apart

theorem LaidOut.child {n c : Node} (h : LaidOut n) (hc : c ∈ n.children) : LaidOut c :=
  ⟨fun m hm => h.inside m (subtrees_subset hc hm), fun m hm => h.apart m (subtrees_subset hc hm)⟩

theorem LaidOut.descend {v w : Visited} {path : List Nat} (h : LaidOut v.node)
    (hw : v.descend path = some w) : LaidOut w.node := by
  induction path generalizing v with
  | nil =>
    cases hw
    exact h
  | cons i path ih =>
    obtain ⟨c, hi, hpath⟩ := descend_cons_eq_some.mp hw
    exact ih (v := ⟨c, v.node :: v.ancestors⟩) (h.child (List.mem_of_getElem? hi)) hpath

theorem LaidOut.within {v w : Visited} {path : List Nat} (h : LaidOut v.node)
    (hw : v.descend path = some w) : v.node.start ≤ w.node.start ∧ w.node.stop ≤ v.node.stop := by
  induction path generalizing v with
  | nil =>
    cases hw
    exact ⟨Nat.le_refl _, Nat.le_refl _⟩
  | cons i path ih =>
    obtain ⟨c, hi, hpath⟩ := descend_cons_eq_some.mp hw
    have hc := List.mem_of_getElem? hi
    have hin := h.inside _ (self_mem_subtrees _) c hc
    have hrest := ih (v := ⟨c, v.node :: v.ancestors⟩) (h.child hc) hpath
    exact ⟨Nat.le_trans hin.1 hrest.1, Nat.le_trans hrest.2 hin.2⟩

theorem LaidOut.within_of_prefix {root : Node} {p q : List Nat} {a b : Visited} (h : LaidOut root)
    (hpq : p <+: q) (ha : place? root p = some a) (hb : place? root q = some b) :
    a.node.start ≤ b.node.start ∧ b.node.stop ≤ a.node.stop := by
  obtain ⟨rest, rfl⟩ := hpq
  obtain ⟨u, hu, hrest⟩ := descend_append.mp hb
  obtain rfl := Option.some.inj (ha.symm.trans hu)
  exact (LaidOut.descend (v := ⟨root, []⟩) h ha).within hrest

theorem LaidOut.apart_children {n a b : Node} {i j : Nat} (h : LaidOut n) (hij : i ≠ j)
    (ha : n.children[i]? = some a) (hb : n.children[j]? = some b) : Apart a b := by
  have hp := List.pairwise_iff_getElem.mp (h.apart n (self_mem_subtrees n))
  obtain ⟨hi, rfl⟩ := List.getElem?_eq_some_iff.mp ha
  obtain ⟨hj, rfl⟩ := List.getElem?_eq_some_iff.mp hb
  rcases Nat.lt_or_gt_of_ne hij with hlt | hlt
  · exact hp i j hi hj hlt
  · exact (hp j i hj hi hlt).symm

theorem LaidOut.prefix_or_apart {v a b : Visited} {p q : List Nat} (h : LaidOut v.node)
    (ha : v.descend p = some a) (hb : v.descend q = some b) :
    p <+: q ∨ q <+: p ∨ Apart a.node b.node := by
  induction p generalizing v q with
  | nil => exact .inl List.nil_prefix
  | cons i p ih =>
    cases q with
    | nil => exact .inr (.inl List.nil_prefix)
    | cons j q =>
      obtain ⟨c, hi, ha⟩ := descend_cons_eq_some.mp ha
      obtain ⟨d, hj, hb⟩ := descend_cons_eq_some.mp hb
      have hc := h.child (List.mem_of_getElem? hi)
      have hd := h.child (List.mem_of_getElem? hj)
      by_cases hij : i = j
      · subst hij
        rw [hi, Option.some.injEq] at hj
        subst hj
        simp only [List.cons_prefix_cons, true_and]
        exact ih hc ha hb
      · have hcd := h.apart_children hij hi hj
        have hac := LaidOut.within (v := ⟨c, v.node :: v.ancestors⟩) hc ha
        have hbd := LaidOut.within (v := ⟨d, v.node :: v.ancestors⟩) hd hb
        unfold Apart at hcd ⊢
        dsimp only at hac hbd
        omega

theorem LaidOut.apart_of_ne {v a b : Visited} {p q : List Nat} (h : LaidOut v.node)
    (hl : p.length = q.length) (hpq : p ≠ q) (ha : v.descend p = some a)
    (hb : v.descend q = some b) : Apart a.node b.node := by
  rcases h.prefix_or_apart ha hb with hp | hq | hapart
  · exact absurd (hp.eq_of_length hl) hpq
  · exact absurd (hq.eq_of_length hl.symm).symm hpq
  · exact hapart

theorem LaidOut.place_unique {root : Node} {a b : Visited} {p q : List Nat} (h : LaidOut root)
    (hl : p.length = q.length) (ha : place? root p = some a) (hb : place? root q = some b)
    (hs : a.node.start = b.node.start) (he : a.node.stop = b.node.stop)
    (hn : a.node.start < a.node.stop) : p = q := by
  by_contra hpq
  have hab : Apart a.node b.node := LaidOut.apart_of_ne (v := ⟨root, []⟩) h hl hpq ha hb
  unfold Apart at hab
  omega

end Sketchbook.Settings
