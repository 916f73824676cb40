import Sketchbook.Proofs.Assembly
import Sketchbook.Proofs.Placement

/-!
Sketches inside a class that is made up for them. A sketch of methods can be read in two ways: as it
is, with its members at the top of the tree, or inside a class, with its members in the body of that
class and all of them moved up by the bytes in front. Main statement: the two ways give the same
calls, the same edits and the same class file.
-/
namespace Sketchbook

open Sketchbook.Text
open Sketchbook.Syntax (Node Role)

namespace Syntax.Node

mutual

/-- A tree moved up by a number of bytes. Its rows stay as they are. -/
def shift (k : Nat) : Node → Node
  | mk r d n s e w cs => mk r d n (s + k) (e + k) w (shiftAll k cs)

def shiftAll (k : Nat) : List Node → List Node
  | [] => []
  | n :: rest => shift k n :: shiftAll k rest

end

theorem shiftAll_eq_map (k : Nat) (ns : List Node) : shiftAll k ns = ns.map (shift k) := by
  induction ns with
  | nil => rfl
  | cons n ns ih => rw [shiftAll, ih, List.map_cons]

variable (k : Nat) (n : Node)

@[simp] theorem shift_role? : (n.shift k).role? = n.role? := by
  cases n
  rfl

@[simp] theorem shift_kind : (n.shift k).kind = n.kind := by
  cases n
  rfl

@[simp] theorem shift_isNamed : (n.shift k).isNamed = n.isNamed := by
  cases n
  rfl

@[simp] theorem shift_start : (n.shift k).start = n.start + k := by
  cases n
  rfl

@[simp] theorem shift_stop : (n.shift k).stop = n.stop + k := by
  cases n
  rfl

@[simp] theorem shift_row : (n.shift k).row = n.row := by
  cases n
  rfl

@[simp] theorem shift_children : (n.shift k).children = n.children.map (shift k) := by
  cases n with
  | mk r d m s e w cs => exact shiftAll_eq_map k cs

@[simp] theorem shift_isComment : (n.shift k).isComment = n.isComment := by
  simp [isComment]

theorem shift_childOf? (r : Role) : (n.shift k).childOf? r = (n.childOf? r).map (shift k) := by
  unfold childOf?
  rw [shift_children, List.find?_map]
  congr 2
  funext c
  rw [Function.comp_apply, shift_role?]

theorem shift_namedChildren : (n.shift k).namedChildren = n.namedChildren.map (shift k) := by
  unfold namedChildren
  rw [shift_children, List.filter_map]
  congr 2
  funext c
  rw [Function.comp_apply, shift_isNamed]

/-- A text does not change if as much is put in front of the source as its node is moved. -/
theorem shift_text {source : Bytes} (head tail : Bytes) (h : n.stop ≤ source.length) :
    (n.shift head.length).text (head ++ source ++ tail) = n.text source := by
  have hdrop : (head ++ source ++ tail).drop (n.start + head.length) =
      (source ++ tail).drop n.start := by
    rw [List.append_assoc, Nat.add_comm, ← List.drop_drop, List.drop_left]
  unfold text
  rw [shift_start, shift_stop, hdrop, Nat.add_sub_add_right]
  by_cases hs : n.start ≤ source.length
  · rw [List.drop_append_of_le_length hs, List.take_append_of_le_length]
    rw [List.length_drop]
    omega
  · have hz : n.stop - n.start = 0 := by omega
    rw [hz, List.take_zero, List.take_zero]

end Syntax.Node

open Sketchbook.Settings Sketchbook.Editing
open Syntax.Node

namespace Settings

def Visited.shift (k : Nat) (v : Visited) : Visited :=
  ⟨v.node.shift k, v.ancestors.map (Node.shift k)⟩

def Visited.under (base : List Node) (v : Visited) : Visited := ⟨v.node, v.ancestors ++ base⟩

theorem preorder_shift (k : Nat) (ancestors : List Node) (n : Node) :
    preorder (ancestors.map (Node.shift k)) (n.shift k) =
      (preorder ancestors n).map (Visited.shift k) := by
  induction n using node_induction generalizing ancestors with
  | step n ih =>
    rw [preorder_eq_cons, preorder_eq_cons ancestors, List.map_cons, shift_children,
      List.flatMap_map, List.map_flatMap]
    refine congrArg₂ _ rfl (List.flatMap_congr fun c hc => ?_)
    exact ih c hc (n :: ancestors)

theorem preorder_append (ancestors base : List Node) (n : Node) :
    preorder (ancestors ++ base) n = (preorder ancestors n).map (Visited.under base) := by
  induction n using node_induction generalizing ancestors with
  | step n ih =>
    rw [preorder_eq_cons, preorder_eq_cons ancestors, List.map_cons, List.map_flatMap]
    refine congrArg₂ _ rfl (List.flatMap_congr fun c hc => ?_)
    exact ih c hc (n :: ancestors)

theorem filterMap_preorder {α : Type} (f : Visited → Option α) (ancestors : List Node) (n : Node) :
    (preorder ancestors n).filterMap f = (f ⟨n, ancestors⟩).toList ++
      n.children.flatMap fun c => (preorder (n :: ancestors) c).filterMap f := by
  rw [preorder_eq_cons, List.filterMap_cons, List.filterMap_flatMap]
  cases f ⟨n, ancestors⟩ <;> rfl

end Settings

/-- Where a node begins and ends, and its row. -/
structure Stretch where
  start : Nat
  stop : Nat
  row : Nat

def Stretch.node (at_ : Stretch) (role? : Option Role) (kind : String) (named : Bool)
    (children : List Node) : Node :=
  .mk role? kind named at_.start at_.stop at_.row children

/-- The nodes that a class made up for a sketch adds to the tree, without the bytes that they stand
for: in front of the body of the class there are tokens only. -/
structure Shell where
  top : Stretch
  cls : Stretch
  body : Stretch
  opening : Stretch
  closing : Stretch
  front : List Node
  front_token : ∀ n ∈ front, n.children = [] ∧ n.kind ≠ "method_invocation" ∧
    n.role? ≠ some Role.body

namespace Shell

/-- The nodes of the body of the class: the members, moved up by the bytes in front, in braces. -/
def inBraces (sh : Shell) (members : List Node) : List Node :=
  sh.opening.node none "\x7b" false [] ::
    (members.map (Node.shift Sketch.wrapperHead.length) ++ [sh.closing.node none "\x7d" false []])

def bodyOf (sh : Shell) (members : List Node) : Node :=
  sh.body.node (some .body) "class_body" true (sh.inBraces members)

def classOf (sh : Shell) (members : List Node) : Node :=
  sh.cls.node none "class_declaration" true (sh.front ++ [sh.bodyOf members])

def topOf (sh : Shell) (members : List Node) : Node :=
  sh.top.node none "program" true [sh.classOf members]

def wrap (sh : Shell) (source : Bytes) (members : List Node) : Sketch where
  root := sh.topOf members
  source := Sketch.wrapperHead ++ source ++ Sketch.wrapperTail
  mode := .active
  offset := Sketch.wrapperHead.length

end Shell

namespace Sketch

def ofTree (source : Bytes) (root : Node) : Sketch where
  root
  source
  mode := detectMode source root
  imports := findImports source root

theorem length_wrapperHead : wrapperHead.length = 25 ∧ (10 : UInt8) ∉ wrapperHead := by
  decide +kernel

end Sketch

namespace Settings

def call? (s : Sketch) (entryMethod : String) (v : Visited) : Option Call :=
  (settingOf? s v.node).map fun k => callAt s entryMethod k v

theorem callsOf_eq (s : Sketch) (entryMethod : String) :
    callsOf s entryMethod = (preorder [] s.root).filterMap (call? s entryMethod) := by
  rw [← walk_eq_preorder]
  rfl

theorem filterMap_call? {s : Sketch} {n : Node} (hk : n.kind ≠ "method_invocation")
    (entryMethod : String) (ancestors : List Node) :
    (preorder ancestors n).filterMap (call? s entryMethod) = n.children.flatMap fun c =>
      (preorder (n :: ancestors) c).filterMap (call? s entryMethod) := by
  have hnone : call? s entryMethod ⟨n, ancestors⟩ = none := by
    simp [call?, settingOf?, hk]
  rw [filterMap_preorder, hnone]
  rfl

theorem filterMap_call?_node {s : Sketch} {at_ : Stretch} {role? : Option Role} {kind : String}
    {named : Bool} {children : List Node} (hk : kind ≠ "method_invocation") (entryMethod : String)
    (ancestors : List Node) :
    (preorder ancestors (at_.node role? kind named children)).filterMap (call? s entryMethod) =
      children.flatMap fun c =>
        (preorder (at_.node role? kind named children :: ancestors) c).filterMap
          (call? s entryMethod) :=
  filterMap_call? (n := at_.node role? kind named children) hk entryMethod ancestors

def EndsBy (b : Nat) (n : Node) : Prop := ∀ m ∈ subtrees n, m.stop ≤ b

variable {b : Nat} {n : Node}

theorem EndsBy.stop_le (h : EndsBy b n) : n.stop ≤ b := h n (self_mem_subtrees n)

theorem EndsBy.child {c : Node} (h : EndsBy b n) (hc : c ∈ n.children) : EndsBy b c :=
  fun m hm => h m (subtrees_subset hc hm)

theorem EndsBy.childOf? {r : Role} {c : Node} (h : EndsBy b n) (hc : n.childOf? r = some c) :
    EndsBy b c := h.child (List.mem_of_find?_eq_some hc)

theorem EndsBy.of_mem_preorder {ancestors : List Node} {v : Visited} (h : EndsBy b n)
    (ha : ∀ a ∈ ancestors, EndsBy b a) (hv : v ∈ preorder ancestors n) :
    EndsBy b v.node ∧ ∀ a ∈ v.ancestors, EndsBy b a := by
  induction n using node_induction generalizing ancestors with
  | step n ih =>
    rw [preorder_eq_cons] at hv
    rcases List.mem_cons.mp hv with rfl | hv
    · exact ⟨h, ha⟩
    · obtain ⟨c, hc, hv⟩ := List.mem_flatMap.mp hv
      exact ih c hc (h.child hc) (List.forall_mem_cons.mpr ⟨h, ha⟩) hv

end Settings

namespace Shell

variable (sh : Shell) (top : Stretch) (source : Bytes) (members : List Node)

def plain (top : Stretch) (source : Bytes) (members : List Node) : Sketch :=
  Sketch.ofTree source (top.node none "program" true members)

theorem childOf?_body_classOf :
    (sh.classOf members).childOf? .body = some (sh.bodyOf members) := by
  have hfront : (sh.front.find? fun c => c.role? = some Role.body) = none := by
    refine List.find?_eq_none.mpr fun n hn => ?_
    simpa using (sh.front_token n hn).2.2
  change ((sh.front ++ [sh.bodyOf members]).find? fun c => c.role? = some Role.body) = _
  rw [List.find?_append, hfront]
  rfl

theorem classBody?_wrap : (sh.wrap source members).classBody? = some (sh.bodyOf members) := by
  have hw : (sh.wrap source members).isWrapped = true := by
    change decide (0 < Sketch.wrapperHead.length) = true
    rw [Sketch.length_wrapperHead.1]
    rfl
  have hcls : (sh.wrap source members).sketchClass? = some (sh.classOf members) := by
    unfold Sketch.sketchClass?
    rw [hw]
    rfl
  unfold Sketch.classBody?
  rw [hcls]
  exact sh.childOf?_body_classOf members

variable {source}

theorem classBody?_plain (hmode : (plain top source members).mode = .active) :
    (plain top source members).classBody? = none := by
  unfold Sketch.classBody? Sketch.sketchClass?
  rw [hmode]
  rfl

theorem textOf_wrap {n? : Option Node} (h : ∀ n, n? = some n → n.stop ≤ source.length) :
    (sh.wrap source members).textOf (n?.map (Node.shift Sketch.wrapperHead.length)) =
      (plain top source members).textOf n? := by
  cases n? with
  | none => rfl
  | some n => exact shift_text n _ _ (h n rfl)

theorem argumentTexts_wrap {n : Node} (h : EndsBy source.length n) :
    argumentTexts (sh.wrap source members) (n.shift Sketch.wrapperHead.length) =
      argumentTexts (plain top source members) n := by
  unfold argumentTexts
  rw [shift_childOf?]
  cases hc : n.childOf? .arguments with
  | none => rfl
  | some list =>
    simp only [Option.map_some, shift_namedChildren, List.filter_map, List.map_map]
    have hcomp : ((fun c : Node => !c.isComment) ∘ Node.shift Sketch.wrapperHead.length) =
        fun c => !c.isComment := by
      funext c
      simp
    rw [hcomp]
    refine List.map_congr_left fun c hc' => ?_
    have hmem : c ∈ list.children := (List.mem_filter.mp (List.mem_filter.mp hc').1).1
    exact shift_text c _ _ ((h.childOf? hc).child hmem).stop_le

theorem settingOf?_wrap {n : Node} (h : EndsBy source.length n) :
    settingOf? (sh.wrap source members) (n.shift Sketch.wrapperHead.length) =
      settingOf? (plain top source members) n := by
  have htext : (sh.wrap source members).textOf
      ((n.shift Sketch.wrapperHead.length).childOf? .name) =
        (plain top source members).textOf (n.childOf? .name) := by
    rw [shift_childOf?]
    exact textOf_wrap sh top members fun c hc => (h.childOf? hc).stop_le
  have hobject : ((n.shift Sketch.wrapperHead.length).childOf? .object).isSome =
      (n.childOf? .object).isSome := by
    rw [shift_childOf?, Option.isSome_map]
  unfold settingOf?
  rw [shift_kind, hobject, htext, argumentTexts_wrap sh top members h]

theorem ownsSketchMethod_wrap :
    ownsSketchMethod (sh.wrap source members) classMethodDepth (sh.bodyOf members) = true := by
  have hbody : (sh.bodyOf members).kind = "class_body" := rfl
  simp [ownsSketchMethod, classBody?_wrap, hbody]

theorem ownsSketchMethod_plain (hmode : (plain top source members).mode = .active) :
    ownsSketchMethod (plain top source members) topMethodDepth (plain top source members).root =
      true := by
  have hwrapped : (plain top source members).isWrapped = false := rfl
  unfold ownsSketchMethod
  rw [if_pos (by rfl), hmode, hwrapped]
  rfl

theorem ownsSketchMethod_deep (hmode : (plain top source members).mode = .active) (owner : Node)
    (depth : Nat) :
    ownsSketchMethod (sh.wrap source members) (depth + 7)
        (owner.shift Sketch.wrapperHead.length) = false ∧
      ownsSketchMethod (plain top source members) (depth + 5) owner = false := by
  unfold ownsSketchMethod
  rw [classBody?_plain top members hmode, shift_kind]
  constructor
  · simp [topMethodDepth, classMethodDepth]
  · simp [topMethodDepth]

theorem classify_wrap (entryMethod : String) (hmode : (plain top source members).mode = .active)
    {below : List Node} (h : ∀ a ∈ below, EndsBy source.length a) :
    classify (sh.wrap source members) entryMethod
        (below.map (Node.shift Sketch.wrapperHead.length) ++
          [sh.bodyOf members, sh.classOf members, sh.topOf members]) =
      classify (plain top source members) entryMethod
        (below ++ [(plain top source members).root]) := by
  have hbody : (sh.bodyOf members).kind = "class_body" := rfl
  have hroot : (plain top source members).root.kind = "program" := rfl
  have hwmode : (sh.wrap source members).mode = .active := rfl
  rcases below with _ | ⟨statement, _ | ⟨container, _ | ⟨method, above⟩⟩⟩
  · simp [classify, hbody]
  · simp [classify, hbody, hroot, hmode]
  · simp [classify, hbody, hmode, hwmode, globalDepth, topMethodDepth]
  · -- only a method that is itself a member can tell the trees apart, and it counts in both
    have hname : (sh.wrap source members).textOf
        ((method.shift Sketch.wrapperHead.length).childOf? .name) =
          (plain top source members).textOf (method.childOf? .name) := by
      rw [shift_childOf?]
      exact textOf_wrap sh top members fun c hc => ((h method (by simp)).childOf? hc).stop_le
    rcases above with _ | ⟨owner, above⟩
    · have hw : ownsSketchMethod (sh.wrap source members) 6 (sh.bodyOf members) = true :=
        sh.ownsSketchMethod_wrap members
      have hp : ownsSketchMethod (plain top source members) 4 (plain top source members).root =
          true := ownsSketchMethod_plain top members hmode
      simp [classify, hname, hw, hp, hmode, hwmode, globalDepth, topMethodDepth]
    · obtain ⟨hw, hp⟩ := sh.ownsSketchMethod_deep top members hmode owner above.length
      simp [classify, hname, hw, hp, hmode, hwmode, globalDepth, topMethodDepth]

def above (sh : Shell) (members : List Node) : List Node :=
  [sh.bodyOf members, sh.classOf members, sh.topOf members]

theorem calls_member (entryMethod : String) (hmode : (plain top source members).mode = .active)
    {m : Node} (h : EndsBy source.length m) :
    (preorder (sh.above members) (m.shift Sketch.wrapperHead.length)).filterMap
        (call? (sh.wrap source members) entryMethod) =
      (preorder [(plain top source members).root] m).filterMap
        (call? (plain top source members) entryMethod) := by
  have hw := preorder_append [] (sh.above members) (m.shift Sketch.wrapperHead.length)
  have hs := preorder_shift Sketch.wrapperHead.length [] m
  have hp := preorder_append [] [(plain top source members).root] m
  rw [List.nil_append] at hw hp
  rw [List.map_nil] at hs
  rw [hw, hs, hp, List.filterMap_map, List.filterMap_map, List.filterMap_map]
  -- one node at a time: all that is known of a call is the same for both
  refine List.filterMap_congr fun v hv => ?_
  obtain ⟨hnode, hancestors⟩ := h.of_mem_preorder (by simp) hv
  have hset := sh.settingOf?_wrap top members hnode
  have hargs := sh.argumentTexts_wrap top members hnode
  have hscope := sh.classify_wrap top members entryMethod hmode hancestors
  have hstart (x : Nat) : (sh.wrap source members).ownOffset (x + Sketch.wrapperHead.length) =
      (plain top source members).ownOffset x := by
    change ((x + Sketch.wrapperHead.length : Nat) : Int) - (Sketch.wrapperHead.length : Nat) =
      (x : Int) - (0 : Nat)
    omega
  simp only [Function.comp_apply, call?, Visited.under, Visited.shift, hset]
  congr 1
  funext k
  simp only [callAt, shift_start, shift_stop, shift_row, hargs, hstart, above, hscope]

theorem callsOf_wrap (entryMethod : String) :
    callsOf (sh.wrap source members) entryMethod = members.flatMap fun m =>
      (preorder (sh.above members) (m.shift Sketch.wrapperHead.length)).filterMap
        (call? (sh.wrap source members) entryMethod) := by
  have hfront (ancestors : List Node) : (sh.front.flatMap fun n =>
      (preorder ancestors n).filterMap (call? (sh.wrap source members) entryMethod)) = [] := by
    refine List.flatMap_eq_nil_iff.mpr fun n hn => ?_
    obtain ⟨hc, hk, -⟩ := sh.front_token n hn
    rw [filterMap_call? hk, hc, List.flatMap_nil]
  rw [callsOf_eq]
  change (preorder [] (sh.topOf members)).filterMap _ = _
  -- down through the top and the class to its body
  rw [topOf, filterMap_call?_node (by decide), List.flatMap_singleton]
  rw [classOf, filterMap_call?_node (by decide), List.flatMap_append, hfront, List.nil_append,
    List.flatMap_singleton]
  rw [bodyOf, filterMap_call?_node (by decide), inBraces, List.flatMap_cons, List.flatMap_append,
    List.flatMap_singleton, List.flatMap_map, filterMap_call?_node (by decide),
    filterMap_call?_node (by decide), List.flatMap_nil, List.nil_append, List.flatMap_nil,
    List.append_nil]
  rfl

theorem callsOf_plain (entryMethod : String) :
    callsOf (plain top source members) entryMethod = members.flatMap fun m =>
      (preorder [(plain top source members).root] m).filterMap
        (call? (plain top source members) entryMethod) := by
  rw [callsOf_eq]
  exact filterMap_call?_node (by decide) entryMethod []

theorem filter_isNamed_inBraces : (sh.inBraces members).filter Node.isNamed =
    (members.filter Node.isNamed).map (Node.shift Sketch.wrapperHead.length) := by
  have hmembers : (members.map (Node.shift Sketch.wrapperHead.length)).filter Node.isNamed =
      (members.filter Node.isNamed).map (Node.shift Sketch.wrapperHead.length) := by
    rw [List.filter_map]
    congr 2
    funext m
    exact shift_isNamed _ m
  rw [inBraces, List.filter_cons_of_neg (by simp [Stretch.node, Node.isNamed]), List.filter_append,
    List.filter_cons_of_neg (by simp [Stretch.node, Node.isNamed]), List.filter_nil,
    List.append_nil, hmembers]

theorem methodNames_wrap (hmode : (plain top source members).mode = .active)
    (h : ∀ m ∈ members, EndsBy source.length m) :
    (sh.wrap source members).methodNames = (plain top source members).methodNames := by
  unfold Sketch.methodNames
  rw [classBody?_wrap, classBody?_plain top members hmode]
  change (((sh.inBraces members).filter Node.isNamed).filter _).map _ =
    ((members.filter Node.isNamed).filter _).map _
  rw [filter_isNamed_inBraces, List.filter_map, List.map_map]
  have hkind : ((fun c : Node => decide (c.kind = "method_declaration")) ∘
      Node.shift Sketch.wrapperHead.length) = fun c => decide (c.kind = "method_declaration") := by
    funext c
    rw [Function.comp_apply, shift_kind]
  rw [hkind]
  refine List.map_congr_left fun m hm => ?_
  have hmem : m ∈ members := (List.mem_filter.mp (List.mem_filter.mp hm).1).1
  rw [Function.comp_apply, shift_childOf?]
  exact textOf_wrap sh top members fun c hc => ((h m hmem).childOf? hc).stop_le

/-- What is put around the sketch does not depend on the class that it was read in, nor does how wide
it gets. -/
theorem frame_wrap (hmode : (plain top source members).mode = .active)
    (himports : (plain top source members).imports = []) (c : Config) (name package : String)
    (accessors : List Accessor) (hasMain : Bool) :
    Generate.header c name package (sh.wrap source members) =
        Generate.header c name package (plain top source members) ∧
      Generate.depth (sh.wrap source members) hasMain =
        Generate.depth (plain top source members) hasMain ∧
      Generate.otherEdits c name (sh.wrap source members) accessors hasMain =
        Generate.otherEdits c name (plain top source members) accessors hasMain ∧
      Generate.closing c name (sh.wrap source members) accessors hasMain =
        Generate.closing c name (plain top source members) accessors hasMain := by
  have hwmode : (sh.wrap source members).mode = .active := rfl
  have hwimports : (sh.wrap source members).imports = [] := rfl
  refine ⟨?_, ?_, ?_, ?_⟩
  · rw [Generate.header, Generate.header, hmode, himports, hwmode, hwimports]
  · rw [Generate.depth, Generate.depth, hmode, hwmode]
    rfl
  · rw [Generate.otherEdits, Generate.otherEdits, hmode, himports, hwmode, hwimports]
    rfl
  · rw [Generate.closing, Generate.closing, hmode, hwmode]

/-- A sketch of methods comes to the same inside a class made up for it as without: the same calls,
the same survey, the same methods and the same class file, whatever is reported where. -/
theorem wrap_agrees (sh : Shell) (top : Stretch) (source : Bytes) (members : List Node)
    (hmode : (plain top source members).mode = .active)
    (himports : (plain top source members).imports = [])
    (h : ∀ m ∈ members, ∀ n ∈ subtrees m, n.stop ≤ source.length) :
    (∀ entryMethod : String,
      callsOf (sh.wrap source members) entryMethod =
          callsOf (plain top source members) entryMethod ∧
        survey (sh.wrap source members) entryMethod =
          survey (plain top source members) entryMethod) ∧
      (sh.wrap source members).methodNames = (plain top source members).methodNames ∧
      ∀ (σ : Type) (report : σ → Warning → σ) (name package : String) (c : Config) (log : σ),
        Generate.assemble report source name package c (sh.wrap source members) log =
          Generate.assemble report source name package c (plain top source members) log := by
  -- calls come from members only, and each member has the same in both
  have hcalls (entryMethod : String) : callsOf (sh.wrap source members) entryMethod =
      callsOf (plain top source members) entryMethod := by
    rw [callsOf_wrap, callsOf_plain]
    exact List.flatMap_congr fun m hm => sh.calls_member top members entryMethod hmode (h m hm)
  have hsurvey (entryMethod : String) : survey (sh.wrap source members) entryMethod =
      survey (plain top source members) entryMethod := by
    rw [survey_eq, survey_eq, hcalls]
  have hnames := sh.methodNames_wrap top members hmode h
  refine ⟨fun entryMethod => ⟨hcalls entryMethod, hsurvey entryMethod⟩, hnames, ?_⟩
  intro σ report name package c log
  have hframe := sh.frame_wrap top members hmode himports c name package
  have hheader := (hframe [] true).1
  have hwmode : (sh.wrap source members).mode = .active := rfl
  have hdepth (hasMain : Bool) := (hframe [] hasMain).2.1
  unfold Generate.assemble
  rw [hsurvey, hnames, hheader]
  cases survey (plain top source members) c.entryMethod with
  | error e => rfl
  | ok found => simp only [hdepth, (hframe _ _).2.2.1, (hframe _ _).2.2.2, hwmode, hmode]

/-- The tree of a class with the same method as the sketch, from a byte on. -/
def helperAt (k : Nat) : Node :=
  .mk none "class_declaration" true k (k + 40) 0 [
    .mk none "class" false k (k + 5) 0 [],
    .mk (some .name) "identifier" true (k + 6) (k + 7) 0 [],
    .mk (some .body) "class_body" true (k + 8) (k + 40) 0 [
      .mk none "\x7b" false (k + 8) (k + 9) 0 [], setupAt (k + 10),
      .mk none "\x7d" false (k + 39) (k + 40) 0 []]]

/-- What a class made up for a sketch of one line and 69 bytes adds to the tree. -/
def oneLine : Shell where
  top := ⟨0, 97, 0⟩
  cls := ⟨0, 96, 0⟩
  body := ⟨23, 96, 0⟩
  opening := ⟨23, 24, 0⟩
  closing := ⟨95, 96, 1⟩
  front := [.mk none "class" false 0 5 0 [], .mk (some .name) "identifier" true 6 22 0 []]
  front_token := by decide +kernel

/-- A sketch with a helper class: in either tree the call in the sketch's own method counts and the
call in the helper class does not. -/
theorem wrap_agrees_helper_class :
    let source := Utf8.encode
      "void setup() \x7b size(1, 2); \x7d class A \x7b void setup() \x7b size(1, 2); \x7d \x7d"
    let members := [setupAt 0, helperAt 29]
    (plain ⟨0, 69, 0⟩ source members).mode = .active ∧
      (callsOf (oneLine.wrap source members) "setup").map (fun c => (c.site.start, c.scope)) =
        [(15, .entryMethod), (54, .invalid)] ∧
      survey (oneLine.wrap source members) "setup" =
        survey (plain ⟨0, 69, 0⟩ source members) "setup" := by
  intro source members
  have hmode : (plain ⟨0, 69, 0⟩ source members).mode = .active := by decide +kernel
  have himports : (plain ⟨0, 69, 0⟩ source members).imports = [] := by decide +kernel
  have hbound : ∀ m ∈ members, ∀ n ∈ subtrees m, n.stop ≤ source.length := by decide +kernel
  obtain ⟨hcalls, hsurvey⟩ :=
    (wrap_agrees oneLine ⟨0, 69, 0⟩ source members hmode himports hbound).1 "setup"
  refine ⟨hmode, ?_, hsurvey⟩
  rw [hcalls]
  decide +kernel

end Shell

end Sketchbook
