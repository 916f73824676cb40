import Sketchbook.Proofs.Tree

namespace Sketchbook

open Sketchbook.Syntax (Node Role)
open Sketchbook.Settings

namespace Sketch

/-- Whether a node at the top is a class that may own the members of the sketch. -/
def mayOwn (s : Sketch) (c : Node) : Bool :=
  c.isNamed && c.kind = "class_declaration" && (s.mode != .java || extendsBase s.source c)

/-- The number, among the nodes at the top, of the class that owns the members of the sketch: the
first one that may, where the sketch has a class at all. -/
def classIndex? (s : Sketch) : Option Nat :=
  if s.mode = .static ∨ (s.mode = .active ∧ s.isWrapped = false) then none
  else s.root.children.findIdx? s.mayOwn

/-- The place of the body of the class that owns the members of the sketch. -/
def bodyPlace? (s : Sketch) : Option (List Nat) :=
  s.classIndex?.bind fun i => s.root.children[i]?.bind fun c =>
    (c.children.findIdx? fun b => b.role? = some Role.body).map fun j => [i, j]

theorem sketchClass?_eq_bind (s : Sketch) :
    s.sketchClass? = s.classIndex?.bind (s.root.children[·]?) := by
  -- a class is neither a comment nor a preamble, so it is found among all children
  have hfilter (p : Node → Bool) :
      (s.root.bodyChildren.find? fun c => c.kind = "class_declaration" && p c) =
        s.root.children.find? fun c => c.isNamed && c.kind = "class_declaration" && p c := by
    simp only [Node.bodyChildren, Node.namedChildren, List.find?_filter]
    congr 1
    funext c
    by_cases hk : c.kind = "class_declaration"
    · simp [Node.isComment, Node.isPreamble, hk]
    · simp [hk]
  have htrue := hfilter fun _ => true
  simp only [Bool.and_true] at htrue
  unfold sketchClass? classIndex?
  cases hm : s.mode with
  | static => simp
  | active =>
    cases hw : s.isWrapped with
    | false => simp
    | true =>
      simp only [↓reduceIte, htrue, List.find?_eq_bind_findIdx?_getElem?]
      congr 2
      funext c
      simp [mayOwn, hm]
  | java =>
    simp only [findSketchClass?, hfilter, List.find?_eq_bind_findIdx?_getElem?]
    congr 2
    funext c
    simp [mayOwn, hm]

theorem classBody?_eq_some_iff {s : Sketch} {body : Node} :
    s.classBody? = some body ↔ ∃ i j cls, s.bodyPlace? = some [i, j] ∧ s.sketchClass? = some cls ∧
      s.root.children[i]? = some cls ∧ cls.children[j]? = some body := by
  have hfind (c : Node) : c.childOf? Role.body =
      (c.children.findIdx? fun b => b.role? = some Role.body).bind (c.children[·]?) := by
    rw [Node.childOf?, List.find?_eq_bind_findIdx?_getElem?]
  unfold classBody? bodyPlace?
  rw [sketchClass?_eq_bind]
  cases s.classIndex? with
  | none => simp
  | some i =>
    simp only [Option.bind_some]
    cases hi : s.root.children[i]? with
    | none => simp
    | some cls =>
      simp only [Option.bind_some, hfind]
      cases hj : cls.children.findIdx? fun b => b.role? = some Role.body with
      | none => simp
      | some j => simp [hi]

end Sketch

namespace Settings

/-- The nodes above a call that is a statement of a sketch of bare statements. -/
def InSketch (s : Sketch) (ancestors : List Node) : Prop :=
  s.mode = .static ∧ ∃ statement, ancestors = [statement, s.root] ∧
    statement.kind = "expression_statement" ∧ s.root.kind = "program"

/-- The nodes above a method that is a member of the sketch, where `path` leads to a call in it: the
top alone if the sketch has no class in the tree, and else the body of its class, which is the very
node at its place and not one that looks like it. -/
def IsMember (s : Sketch) (path : List Nat) (above : List Node) : Prop :=
  (s.mode = .active ∧ s.isWrapped = false ∧ above = [s.root] ∧ s.root.kind = "program") ∨
    ∃ body cls, above = [body, cls, s.root] ∧ s.classBody? = some body ∧
      s.sketchClass? = some cls ∧ s.bodyPlace? = some (path.take 2) ∧ body.kind = "class_body"

/-- The nodes above a call that is a statement of the sketch's entry method. -/
def InEntryMethod (s : Sketch) (entryMethod : String) (path : List Nat) (ancestors : List Node) :
    Prop :=
  s.mode ≠ .static ∧ ∃ statement block method above,
    ancestors = statement :: block :: method :: above ∧
    statement.kind = "expression_statement" ∧ block.kind = "block" ∧
    method.kind = "method_declaration" ∧ s.textOf (method.childOf? .name) = entryMethod ∧
    IsMember s path above

theorem classify_eq_global_iff {s : Sketch} {entryMethod : String} {ancestors : List Node} :
    classify s entryMethod ancestors = .global ↔ s.mode = .static ∧ ∃ statement top,
      ancestors = [statement, top] ∧ statement.kind = "expression_statement" ∧
      top.kind = "program" := by
  constructor
  · intro h
    rcases ancestors with _ | ⟨statement, _ | ⟨container, above⟩⟩
    · cases h
    · cases h
    · simp only [classify] at h
      split_ifs at h with hs hc hg hb
      · simp only [List.length_cons, Bool.and_eq_true, decide_eq_true_eq] at hg
        have hl : above.length + 1 + 1 = 2 := hg.1
        have hnil : above = [] := List.length_eq_zero_iff.mp (by omega)
        exact ⟨hg.2, statement, container, by rw [hnil], not_not.mp hs, hc⟩
      · rcases above with _ | ⟨method, _ | ⟨owner, above⟩⟩
        · cases h
        · cases h
        · dsimp only at h
          split_ifs at h
  · rintro ⟨hm, statement, top, rfl, hs, ht⟩
    simp [classify, hs, ht, hm, globalDepth]

theorem classify_eq_entryMethod_iff {s : Sketch} {entryMethod : String} {ancestors : List Node} :
    classify s entryMethod ancestors = .entryMethod ↔ s.mode ≠ .static ∧
      ∃ statement block method owner above,
        ancestors = statement :: block :: method :: owner :: above ∧
        statement.kind = "expression_statement" ∧ block.kind = "block" ∧
        method.kind = "method_declaration" ∧ s.textOf (method.childOf? .name) = entryMethod ∧
        ownsSketchMethod s ancestors.length owner = true := by
  constructor
  · intro h
    -- fewer than four nodes above are too few
    rcases ancestors with _ | ⟨statement, _ | ⟨container, above⟩⟩
    · cases h
    · cases h
    · simp only [classify] at h
      split_ifs at h with hs hc hg hb
      rcases above with _ | ⟨method, _ | ⟨owner, above⟩⟩
      · cases h
      · cases h
      · dsimp only at h
        split_ifs at h with he
        simp only [Bool.or_eq_true, decide_eq_true_eq, not_or, not_not] at hb
        simp only [Bool.and_eq_true, decide_eq_true_eq] at he
        exact ⟨hb.1.1, statement, container, method, owner, above, rfl, not_not.mp hs, hb.2,
          he.1.1, he.1.2, he.2⟩
  · rintro ⟨hm, statement, block, method, owner, above, rfl, hs, hb, hk, ht, ho⟩
    have hp : block.kind ≠ "program" := by rw [hb]; decide
    have hd : ¬ (above.length + 1 + 1 + 1 + 1 < topMethodDepth) := by
      unfold topMethodDepth
      omega
    simp only [List.length_cons] at ho
    simp [classify, hs, hb, hk, ht, hm, hd, ho]

theorem ancestors_getLast {root : Node} {path : List Nat} {v : Visited}
    (hv : place? root path = some v) (below : List Node) {top : Node}
    (ha : v.ancestors = below ++ [top]) : top = root := by
  have hne : path ≠ [] := by
    intro hnil
    subst hnil
    cases hv
    simp at ha
  obtain ⟨_, _, hbelow⟩ := descend_ancestors hne hv
  exact (List.append_inj' (ha.symm.trans hbelow) rfl).2 |> List.singleton_inj.mp

/-- The nodes above a place of depth six: the fourth of them stands two steps below the top. -/
theorem ancestors_eq_of_depth {root : Node} {path : List Nat} {v : Visited}
    (hv : place? root path = some v) {a b c owner : Node} {above : List Node}
    (ha : v.ancestors = a :: b :: c :: owner :: above) (hd : path.length = 6) :
    ∃ cls, above = [cls, root] ∧ place? root (path.take 2) = some ⟨owner, [cls, root]⟩ ∧
      (Visited.mk owner [cls, root]).descend (path.drop 2) = some v := by
  rw [place?, ← List.take_append_drop 2 path] at hv
  obtain ⟨u, hu, hrest⟩ := descend_append.mp hv
  have hl2 : (path.take 2).length = 2 := by rw [List.length_take]; omega
  have hl4 : (path.drop 2).length = 4 := by rw [List.length_drop]; omega
  obtain ⟨i, j, hij⟩ := List.length_eq_two.mp hl2
  have hne : path.drop 2 ≠ [] := by
    intro hnil
    simp [hnil] at hl4
  obtain ⟨below, hlen, hbelow⟩ := descend_ancestors hne hrest
  rw [hij] at hu
  obtain ⟨cls, hi, hu⟩ := descend_cons_eq_some.mp hu
  obtain ⟨o, hj, hu⟩ := descend_cons_eq_some.mp hu
  cases hu
  have hlist : [a, b, c] ++ owner :: above = below ++ o :: cls :: [root] := ha.symm.trans hbelow
  have hsplit := List.append_inj hlist (by simp only [List.length_cons, List.length_nil]; omega)
  cases hsplit.2
  refine ⟨cls, rfl, ?_, hrest⟩
  rw [hij]
  exact descend_cons_eq_some.mpr ⟨cls, hi, descend_cons_eq_some.mpr ⟨_, hj, rfl⟩⟩

/-- The owner of a method is the sketch exactly if the nodes above the method say so. Spans and
depth do for places here because two places of the same depth never overlap. -/
theorem ownsSketchMethod_iff {s : Sketch} (h : LaidOut s.root) {path : List Nat} {v : Visited}
    (hv : place? s.root path = some v) (hn : v.node.start < v.node.stop)
    {statement block method owner : Node} {above : List Node}
    (ha : v.ancestors = statement :: block :: method :: owner :: above) :
    ownsSketchMethod s v.ancestors.length owner = true ↔ IsMember s path (owner :: above) := by
  have hlen := place?_length hv
  constructor
  · intro ho
    rw [hlen] at ho
    unfold ownsSketchMethod at ho
    split_ifs at ho with hp hc
    · simp only [Bool.and_eq_true, decide_eq_true_eq, Bool.not_eq_true'] at ho
      have hfour : path.length = 4 := ho.1.1
      have habove : above = [] := by
        rw [ha] at hlen
        simp only [List.length_cons] at hlen
        exact List.length_eq_zero_iff.mp (by omega)
      subst habove
      have htop : owner = s.root := ancestors_getLast hv [statement, block, method] ha
      subst htop
      exact Or.inl ⟨ho.1.2, ho.2, rfl, hp⟩
    · simp only [Bool.and_eq_true, decide_eq_true_eq] at hc
      have hsix : path.length = 6 := hc.2
      cases hb : s.classBody? with
      | none => rw [hb] at ho; cases ho
      | some body =>
        rw [hb] at ho
        simp only [Bool.and_eq_true, decide_eq_true_eq] at ho
        obtain ⟨i, j, cls, hplace, hcls, hi, hj⟩ := Sketch.classBody?_eq_some_iff.mp hb
        obtain ⟨x, rfl, htake, hdrop⟩ := ancestors_eq_of_depth hv ha hsix
        have hbody : place? s.root [i, j] = some ⟨body, [cls, s.root]⟩ :=
          descend_cons_eq_some.mpr ⟨cls, hi, descend_cons_eq_some.mpr ⟨body, hj, rfl⟩⟩
        have howner : LaidOut owner := h.descend htake
        have hwithin := LaidOut.within (v := ⟨owner, [x, s.root]⟩) howner hdrop
        dsimp only at hwithin
        -- the owner spans the bytes of the body at the depth of the body, so it is the body
        have hshort : (path.take 2).length = [i, j].length := by
          rw [List.length_take, hsix]
          rfl
        have hspan : owner.start < owner.stop := by omega
        have hsame : path.take 2 = [i, j] :=
          h.place_unique hshort htake hbody ho.1 ho.2 hspan
        rw [hsame, hbody] at htake
        cases htake
        exact Or.inr ⟨owner, cls, rfl, hb, hcls, by rw [hsame]; exact hplace, hc.1⟩
  · rintro (⟨hm, hw, habove, hk⟩ | ⟨body, cls, habove, hb, -, -, hk⟩)
    · cases habove
      simp [ownsSketchMethod, ha, hk, hm, hw, topMethodDepth]
    · cases habove
      simp [ownsSketchMethod, ha, hk, hb, classMethodDepth]

theorem global_iff_inSketch {s : Sketch} {entryMethod : String} {path : List Nat} {v : Visited}
    (hv : place? s.root path = some v) :
    classify s entryMethod v.ancestors = .global ↔ InSketch s v.ancestors := by
  rw [classify_eq_global_iff]
  constructor
  · rintro ⟨hm, statement, top, ha, hs, ht⟩
    have htop : top = s.root := ancestors_getLast hv [statement] ha
    subst htop
    exact ⟨hm, statement, ha, hs, ht⟩
  · rintro ⟨hm, statement, ha, hs, ht⟩
    exact ⟨hm, statement, s.root, ha, hs, ht⟩

theorem entryMethod_iff_inEntryMethod {s : Sketch} {entryMethod : String} (h : LaidOut s.root)
    {path : List Nat} {v : Visited} (hv : place? s.root path = some v)
    (hn : v.node.start < v.node.stop) :
    classify s entryMethod v.ancestors = .entryMethod ↔
      InEntryMethod s entryMethod path v.ancestors := by
  rw [classify_eq_entryMethod_iff]
  constructor
  · rintro ⟨hm, statement, block, method, owner, above, ha, hs, hb, hk, ht, ho⟩
    exact ⟨hm, statement, block, method, owner :: above, ha, hs, hb, hk, ht,
      (ownsSketchMethod_iff h hv hn ha).mp ho⟩
  · rintro ⟨hm, statement, block, method, above, ha, hs, hb, hk, ht, ho⟩
    cases above with
    | nil => rcases ho with ⟨_, _, hnil, _⟩ | ⟨_, _, hnil, _⟩ <;> cases hnil
    | cons owner above =>
      exact ⟨hm, statement, block, method, owner, above, ha, hs, hb, hk, ht,
        (ownsSketchMethod_iff h hv hn ha).mpr ho⟩

theorem invalid_iff {s : Sketch} {entryMethod : String} (h : LaidOut s.root) {path : List Nat}
    {v : Visited} (hv : place? s.root path = some v) (hn : v.node.start < v.node.stop) :
    classify s entryMethod v.ancestors = .invalid ↔
      ¬InSketch s v.ancestors ∧ ¬InEntryMethod s entryMethod path v.ancestors := by
  rw [← global_iff_inSketch hv, ← entryMethod_iff_inEntryMethod h hv hn]
  cases classify s entryMethod v.ancestors <;> simp

/-- The classification by depths and spans says where a call stands in the tree. It holds of every
node that spans at least a byte, and so of every call. -/
theorem classify_iff (s : Sketch) (entryMethod : String) (h : LaidOut s.root) (path : List Nat)
    (v : Visited) (hv : place? s.root path = some v) (hn : v.node.start < v.node.stop) :
    (classify s entryMethod v.ancestors = .global ↔ InSketch s v.ancestors) ∧
    (classify s entryMethod v.ancestors = .entryMethod ↔
      InEntryMethod s entryMethod path v.ancestors) ∧
    (classify s entryMethod v.ancestors = .invalid ↔
      ¬InSketch s v.ancestors ∧ ¬InEntryMethod s entryMethod path v.ancestors) :=
  ⟨global_iff_inSketch hv, entryMethod_iff_inEntryMethod h hv hn, invalid_iff h hv hn⟩

def sizeCallAt (k row : Nat) : Node :=
  .mk none "method_invocation" true k (k + 10) row [
    .mk (some .name) "identifier" true k (k + 4) row [],
    .mk (some .arguments) "argument_list" true (k + 4) (k + 10) row [
      .mk none "(" false (k + 4) (k + 5) row [],
      .mk none "decimal_integer_literal" true (k + 5) (k + 6) row [],
      .mk none "," false (k + 6) (k + 7) row [],
      .mk none "decimal_integer_literal" true (k + 8) (k + 9) row [],
      .mk none ")" false (k + 9) (k + 10) row []]]

/-- The tree of `void setup() { size(1, 2); }` from a byte on. -/
def setupAt (k : Nat) : Node :=
  .mk none "method_declaration" true k (k + 28) 0 [
    .mk none "void_type" true k (k + 4) 0 [],
    .mk (some .name) "identifier" true (k + 5) (k + 10) 0 [],
    .mk none "formal_parameters" true (k + 10) (k + 12) 0 [
      .mk none "(" false (k + 10) (k + 11) 0 [], .mk none ")" false (k + 11) (k + 12) 0 []],
    .mk (some .body) "block" true (k + 13) (k + 28) 0 [
      .mk none "\x7b" false (k + 13) (k + 14) 0 [],
      .mk none "expression_statement" true (k + 15) (k + 26) 0 [
        sizeCallAt (k + 15) 0, .mk none ";" false (k + 25) (k + 26) 0 []],
      .mk none "\x7d" false (k + 27) (k + 28) 0 []]]

def twoClasses : Sketch where
  source := Text.Utf8.encode ("class A \x7b void setup() \x7b size(1, 2); \x7d \x7d " ++
    "class B extends PApplet \x7b void setup() \x7b size(1, 2); \x7d \x7d")
  mode := .java
  root := .mk none "program" true 0 97 0 [
    .mk none "class_declaration" true 0 40 0 [
      .mk (some .name) "identifier" true 6 7 0 [],
      .mk (some .body) "class_body" true 8 40 0 [setupAt 10]],
    .mk none "class_declaration" true 41 97 0 [
      .mk (some .name) "identifier" true 47 48 0 [],
      .mk (some .superclass) "superclass" true 49 64 0 [],
      .mk (some .body) "class_body" true 65 97 0 [setupAt 67]]]

/-- The same call counts in the sketch class and does not count in the helper class. -/
theorem classify_iff_two_classes :
    LaidOut twoClasses.root ∧
    (∃ v, place? twoClasses.root [1, 2, 0, 3, 1, 0] = some v ∧ v.node.start < v.node.stop ∧
      InEntryMethod twoClasses "setup" [1, 2, 0, 3, 1, 0] v.ancestors) ∧
    (∃ v, place? twoClasses.root [0, 1, 0, 3, 1, 0] = some v ∧ v.node.start < v.node.stop ∧
      ¬InEntryMethod twoClasses "setup" [0, 1, 0, 3, 1, 0] v.ancestors) := by
  have h : LaidOut twoClasses.root := ⟨by decide +kernel, by decide +kernel⟩
  refine ⟨h, ⟨_, rfl, by decide, ?_⟩, ⟨_, rfl, by decide, ?_⟩⟩
  · exact (classify_iff twoClasses "setup" h _ _ rfl (by decide)).2.1.mp (by decide +kernel)
  · exact ((classify_iff twoClasses "setup" h _ _ rfl (by decide)).2.2.mp (by decide +kernel)).2

end Settings

end Sketchbook
