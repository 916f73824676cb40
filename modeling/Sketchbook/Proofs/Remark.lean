import Mathlib.Logic.Relation
import Sketchbook.Proofs.Spacing
import Sketchbook.Proofs.Wrapping

namespace Sketchbook

open Sketchbook.Text
open Sketchbook.Syntax (Node Role)

namespace Syntax.Node

mutual

/-- Whether a node is a comment as it stands in a tree: it has a name, plays no role and holds
nothing but comments, if anything at all. -/
def isRemark : Node → Bool
  | mk r d n s e w cs => (mk r d n s e w cs).isComment && n && r = none && allRemarks cs

def allRemarks : List Node → Bool
  | [] => true
  | n :: rest => isRemark n && allRemarks rest

end

mutual

def bare : Node → Node
  | mk r d n s e w cs => mk r d n s e w (bareAll cs)

def bareAll : List Node → List Node
  | [] => []
  | n :: rest => if n.isRemark then bareAll rest else bare n :: bareAll rest

end

theorem bareAll_eq_map (ns : List Node) :
    bareAll ns = (ns.filter fun n => !n.isRemark).map bare := by
  induction ns with
  | nil => rfl
  | cons n ns ih =>
    rw [bareAll, ih]
    cases hn : n.isRemark <;> simp [hn]

variable (n : Node)

@[simp] theorem bare_role? : n.bare.role? = n.role? := by
  cases n
  rfl

@[simp] theorem bare_kind : n.bare.kind = n.kind := by
  cases n
  rfl

@[simp] theorem bare_isNamed : n.bare.isNamed = n.isNamed := by
  cases n
  rfl

@[simp] theorem bare_start : n.bare.start = n.start := by
  cases n
  rfl

@[simp] theorem bare_stop : n.bare.stop = n.stop := by
  cases n
  rfl

@[simp] theorem bare_row : n.bare.row = n.row := by
  cases n
  rfl

@[simp] theorem bare_children :
    n.bare.children = (n.children.filter fun c => !c.isRemark).map bare := by
  cases n with
  | mk r d m s e w cs => exact bareAll_eq_map cs

@[simp] theorem bare_isComment : n.bare.isComment = n.isComment := by
  simp [isComment]

@[simp] theorem bare_isPreamble : n.bare.isPreamble = n.isPreamble := by
  simp [isPreamble]

@[simp] theorem bare_text (source : Bytes) : n.bare.text source = n.text source := by
  simp [text]

variable {n}

theorem allRemarks_eq_all (ns : List Node) : allRemarks ns = ns.all isRemark := by
  induction ns with
  | nil => rfl
  | cons n ns ih => rw [allRemarks, ih, List.all_cons]

theorem isRemark_iff : n.isRemark = true ↔ n.isComment = true ∧ n.isNamed = true ∧
    n.role? = none ∧ ∀ c ∈ n.children, c.isRemark = true := by
  cases n with
  | mk r d m s e w cs =>
    rw [isRemark, allRemarks_eq_all]
    simp [isNamed, role?, children, and_assoc]

theorem kind_ne_of_isRemark (h : n.isRemark = true) {kind : String} (hline : kind ≠ "line_comment")
    (hblock : kind ≠ "block_comment") : n.kind ≠ kind := by
  have hcomment := (isRemark_iff.mp h).1
  rintro rfl
  simp [isComment, hline, hblock] at hcomment

/-- What is looked for among the children of a node is found without the comments as well, unless it
is a comment. -/
theorem filter_bare (n : Node) {p : Node → Bool} (hbare : ∀ c : Node, p c.bare = p c)
    (hremark : ∀ c : Node, c.isRemark = true → p c = false) :
    n.bare.children.filter p = (n.children.filter p).map bare := by
  have hcomp : p ∘ bare = p := funext hbare
  rw [bare_children, List.filter_map, hcomp, List.filter_filter]
  congr 1
  refine List.filter_congr fun c _ => ?_
  cases hc : c.isRemark with
  | true => simp [hremark c hc]
  | false => simp

theorem bare_childOf? (n : Node) (r : Role) : n.bare.childOf? r = (n.childOf? r).map bare := by
  unfold childOf?
  rw [← List.head?_filter, ← List.head?_filter, filter_bare, List.head?_map]
  · intro c
    rw [bare_role?]
  · intro c hc
    rw [(isRemark_iff.mp hc).2.2.1]
    rfl

theorem filter_kind_bare (n : Node) {kind : String} (hline : kind ≠ "line_comment")
    (hblock : kind ≠ "block_comment") :
    (n.bare.namedChildren.filter fun c => c.kind = kind) =
      (n.namedChildren.filter fun c => c.kind = kind).map bare := by
  unfold namedChildren
  rw [List.filter_filter, List.filter_filter, filter_bare]
  · intro c
    rw [bare_kind, bare_isNamed]
  · intro c hc
    simp [kind_ne_of_isRemark hc hline hblock]

theorem filter_isComment_bare (n : Node) :
    (n.bare.namedChildren.filter fun c => !c.isComment) =
      (n.namedChildren.filter fun c => !c.isComment).map bare := by
  unfold namedChildren
  rw [List.filter_filter, List.filter_filter, filter_bare]
  · intro c
    rw [bare_isComment, bare_isNamed]
  · intro c hc
    simp [(isRemark_iff.mp hc).1]

theorem bare_bodyChildren (n : Node) : n.bare.bodyChildren = n.bodyChildren.map bare := by
  unfold bodyChildren namedChildren
  rw [List.filter_filter, List.filter_filter, filter_bare]
  · intro c
    rw [bare_isComment, bare_isPreamble, bare_isNamed]
  · intro c hc
    simp [(isRemark_iff.mp hc).1]

theorem textOf_bare (source : Bytes) (n? : Option Node) :
    textOf source (n?.map bare) = textOf source n? := by
  cases n? with
  | none => rfl
  | some n => exact bare_text n source

/-- A comment is put into a tree, at any place among the children of any of its nodes. -/
inductive AddsRemark : Node → Node → Prop where
  | here {r : Option Role} {d : String} {m : Bool} {s e w : Nat} (front back : List Node)
      {c : Node} (hc : c.isRemark = true) :
      AddsRemark (mk r d m s e w (front ++ back)) (mk r d m s e w (front ++ c :: back))
  | deeper {r : Option Role} {d : String} {m : Bool} {s e w : Nat} (front back : List Node)
      {n n' : Node} (hn : AddsRemark n n') :
      AddsRemark (mk r d m s e w (front ++ n :: back)) (mk r d m s e w (front ++ n' :: back))

def Remarked : Node → Node → Prop := Relation.ReflTransGen AddsRemark

/-- A comment that is put into a tree makes no node a comment that was none, and the tree is the same
without it. -/
theorem AddsRemark.bare_eq {n n' : Node} (h : AddsRemark n n') :
    n'.isRemark = n.isRemark ∧ n'.bare = n.bare := by
  induction h with
  | here front back hc =>
    -- a comment in a comment does not make it another node
    constructor
    · rw [Bool.eq_iff_iff, isRemark_iff, isRemark_iff]
      refine and_congr Iff.rfl (and_congr Iff.rfl (and_congr Iff.rfl ?_))
      simp [children, or_imp, forall_and, hc]
    · rw [bare, bare, bareAll_eq_map, bareAll_eq_map]
      simp [hc]
  | deeper front back hn ih =>
    -- the child is left out of both trees or of none
    obtain ⟨hremark, hbare⟩ := ih
    constructor
    · rw [Bool.eq_iff_iff, isRemark_iff, isRemark_iff]
      refine and_congr Iff.rfl (and_congr Iff.rfl (and_congr Iff.rfl ?_))
      simp [children, or_imp, forall_and, hremark]
    · rw [bare, bare, bareAll_eq_map, bareAll_eq_map]
      simp [List.filter_cons, hremark, apply_ite, hbare]

theorem Remarked.bare_eq {n n' : Node} (h : Remarked n n') : n'.bare = n.bare := by
  induction h with
  | refl => rfl
  | tail _ hstep ih => rw [hstep.bare_eq.2, ih]

end Syntax.Node

open Sketchbook.Settings Sketchbook.Editing
open Syntax.Node

namespace Sketch

theorem extendsBase_bare (source : Bytes) (n : Node) :
    extendsBase source n.bare = extendsBase source n := by
  unfold extendsBase
  rw [bare_childOf?]
  cases n.childOf? .superclass with
  | none => rfl
  | some c => simp only [Option.map_some, bare_text]

theorem findSketchClass?_bare (source : Bytes) (root : Node) :
    findSketchClass? source root.bare = (findSketchClass? source root).map Node.bare := by
  unfold findSketchClass?
  rw [bare_bodyChildren, List.find?_map]
  congr 2
  funext c
  rw [Function.comp_apply, bare_kind, extendsBase_bare]

theorem detectMode_bare (source : Bytes) (root : Node) :
    detectMode source root.bare = detectMode source root := by
  have hany : ((root.bodyChildren.map Node.bare).any fun c => c.kind = "method_declaration") =
      root.bodyChildren.any fun c => c.kind = "method_declaration" := by
    rw [List.any_map]
    congr 1
    funext c
    rw [Function.comp_apply, bare_kind]
  unfold detectMode
  rw [findSketchClass?_bare, bare_bodyChildren, Option.isSome_map, hany]

theorem importsIn_bare (source : Bytes) (c : Node) :
    importsIn source c.bare = importsIn source c := by
  have hmap (ns : List Node) : ((ns.map Node.bare).map fun n => Import.mk n.start n.stop
      (n.text source)) = ns.map fun n => ⟨n.start, n.stop, n.text source⟩ := by
    rw [List.map_map]
    refine List.map_congr_left fun n _ => ?_
    simp
  unfold importsIn
  rw [bare_kind]
  split_ifs with he
  · -- the imports that stand at an error
    rw [filter_kind_bare c (by decide) (by decide), hmap]
  · by_cases hk : c.kind = "import_declaration"
    · simp [hk]
    · simp [hk]

theorem importsIn_of_isRemark (source : Bytes) {c : Node} (hc : c.isRemark = true) :
    importsIn source c = [] := by
  have herror : c.kind ≠ "ERROR" := kind_ne_of_isRemark hc (by decide) (by decide)
  have himport : c.kind ≠ "import_declaration" := kind_ne_of_isRemark hc (by decide) (by decide)
  simp [importsIn, herror, himport]

theorem findImports_bare (source : Bytes) (root : Node) :
    findImports source root.bare = findImports source root := by
  have hflat (ns : List Node) : ((ns.filter fun c => !c.isRemark).flatMap (importsIn source)) =
      ns.flatMap (importsIn source) := by
    induction ns with
    | nil => rfl
    | cons c ns ih =>
      cases hc : c.isRemark with
      | true => simp [hc, ih, importsIn_of_isRemark source hc]
      | false => simp [hc, ih]
  have hnamed : root.bare.namedChildren =
      (root.namedChildren.filter fun c => !c.isRemark).map Node.bare := by
    have hcomp : Node.isNamed ∘ Node.bare = Node.isNamed := funext bare_isNamed
    unfold namedChildren
    rw [bare_children, List.filter_map, hcomp, List.filter_filter, List.filter_filter]
    simp only [Bool.and_comm]
  rw [findImports_eq_flatMap, findImports_eq_flatMap, hnamed, List.flatMap_map, ← hflat]
  exact List.flatMap_congr fun c _ => importsIn_bare source c

def bare (s : Sketch) : Sketch := { s with root := s.root.bare }

variable (s : Sketch)

theorem sketchClass?_bare : s.bare.sketchClass? = s.sketchClass?.map Node.bare := by
  have hmode : s.bare.mode = s.mode := rfl
  have hwrapped : s.bare.isWrapped = s.isWrapped := rfl
  have hroot : s.bare.root = s.root.bare := rfl
  unfold sketchClass?
  rw [hmode, hwrapped, hroot]
  cases s.mode with
  | static => rfl
  | active =>
    rw [bare_bodyChildren, List.find?_map]
    cases s.isWrapped with
    | false => rfl
    | true =>
      simp only [↓reduceIte]
      congr 2
      funext c
      rw [Function.comp_apply, bare_kind]
  | java => exact findSketchClass?_bare s.source s.root

theorem classBody?_bare : s.bare.classBody? = s.classBody?.map Node.bare := by
  unfold classBody?
  rw [sketchClass?_bare]
  cases s.sketchClass? with
  | none => rfl
  | some c => exact bare_childOf? c .body

theorem methodNames_bare : s.bare.methodNames = s.methodNames := by
  have hcontainer : (s.classBody?.map Node.bare).getD s.root.bare =
      (s.classBody?.getD s.root).bare := by
    cases s.classBody? <;> rfl
  unfold methodNames
  rw [classBody?_bare]
  change ((((s.classBody?.map Node.bare).getD s.root.bare).namedChildren.filter _).map _) = _
  rw [hcontainer, filter_kind_bare _ (by decide) (by decide), List.map_map]
  refine List.map_congr_left fun c _ => ?_
  rw [Function.comp_apply, bare_childOf?]
  exact textOf_bare s.source _

end Sketch

namespace Settings

variable (s : Sketch)

theorem argumentTexts_bare (n : Node) : argumentTexts s.bare n.bare = argumentTexts s n := by
  unfold argumentTexts
  rw [bare_childOf?]
  cases n.childOf? .arguments with
  | none => rfl
  | some list =>
    simp only [Option.map_some]
    rw [filter_isComment_bare, List.map_map]
    exact List.map_congr_left fun c _ => bare_text c s.source

theorem settingOf?_bare (n : Node) : settingOf? s.bare n.bare = settingOf? s n := by
  have htext : s.bare.textOf (n.bare.childOf? .name) = s.textOf (n.childOf? .name) := by
    rw [bare_childOf?]
    exact textOf_bare s.source _
  have hobject : (n.bare.childOf? .object).isSome = (n.childOf? .object).isSome := by
    rw [bare_childOf?, Option.isSome_map]
  unfold settingOf?
  rw [bare_kind, hobject, htext, argumentTexts_bare]

theorem ownsSketchMethod_bare (depth : Nat) (owner : Node) :
    ownsSketchMethod s.bare depth owner.bare = ownsSketchMethod s depth owner := by
  have hmode : s.bare.mode = s.mode := rfl
  have hwrapped : s.bare.isWrapped = s.isWrapped := rfl
  unfold ownsSketchMethod
  rw [bare_kind, hmode, hwrapped, Sketch.classBody?_bare]
  cases s.classBody? with
  | none => rfl
  | some body => simp only [Option.map_some, bare_start, bare_stop]

theorem classify_bare (entryMethod : String) (ancestors : List Node) :
    classify s.bare entryMethod (ancestors.map Node.bare) = classify s entryMethod ancestors := by
  have hmode : s.bare.mode = s.mode := rfl
  -- depth is counted in nodes above, of which none is left out
  rcases ancestors with _ | ⟨statement, _ | ⟨container, _ | ⟨method, _ | ⟨owner, above⟩⟩⟩⟩
  · rfl
  · rfl
  · simp [classify, hmode]
  · simp [classify, hmode]
  · have hname : s.bare.textOf (method.bare.childOf? .name) = s.textOf (method.childOf? .name) := by
      rw [bare_childOf?]
      exact textOf_bare s.source _
    simp [classify, hmode, hname, ownsSketchMethod_bare]

theorem call?_bare (entryMethod : String) (n : Node) (ancestors : List Node) :
    call? s.bare entryMethod ⟨n.bare, ancestors.map Node.bare⟩ =
      call? s entryMethod ⟨n, ancestors⟩ := by
  have hown (i : Nat) : s.bare.ownOffset i = s.ownOffset i := rfl
  -- places are those in the text, which has not changed
  simp only [call?, settingOf?_bare]
  congr 1
  funext k
  simp only [callAt, bare_start, bare_stop, bare_row, argumentTexts_bare, classify_bare, hown]

theorem filterMap_call?_of_isRemark (entryMethod : String) {n : Node} (hn : n.isRemark = true)
    (ancestors : List Node) : (preorder ancestors n).filterMap (call? s entryMethod) = [] := by
  induction n using node_induction generalizing ancestors with
  | step n ih =>
    rw [filterMap_call? (kind_ne_of_isRemark hn (by decide) (by decide)), List.flatMap_eq_nil_iff]
    intro c hc
    exact ih c hc ((isRemark_iff.mp hn).2.2.2 c hc) _

theorem calls_bare (entryMethod : String) (n : Node) (ancestors : List Node) :
    (preorder (ancestors.map Node.bare) n.bare).filterMap (call? s.bare entryMethod) =
      (preorder ancestors n).filterMap (call? s entryMethod) := by
  induction n using node_induction generalizing ancestors with
  | step n ih =>
    rw [filterMap_preorder, filterMap_preorder, call?_bare, bare_children, List.flatMap_map]
    congr 1
    -- of the children, those that are left out hold no calls
    have hkept (cs : List Node) (hcs : ∀ c ∈ cs, c ∈ n.children) :
        ((cs.filter fun c => !c.isRemark).flatMap fun c =>
          (preorder (n.bare :: ancestors.map Node.bare) c.bare).filterMap
            (call? s.bare entryMethod)) =
          cs.flatMap fun c => (preorder (n :: ancestors) c).filterMap (call? s entryMethod) := by
      induction cs with
      | nil => rfl
      | cons c cs ihcs =>
        have hrest := ihcs fun d hd => hcs d (List.mem_cons_of_mem c hd)
        cases hc : c.isRemark with
        | true =>
          rw [List.filter_cons_of_neg (by simp [hc]), hrest, List.flatMap_cons,
            filterMap_call?_of_isRemark s entryMethod hc, List.nil_append]
        | false =>
          rw [List.filter_cons_of_pos (by simp [hc]), List.flatMap_cons, hrest, List.flatMap_cons]
          congr 1
          exact ih c (hcs c List.mem_cons_self) (n :: ancestors)
    exact hkept n.children fun c hc => hc

theorem callsOf_bare (entryMethod : String) : callsOf s.bare entryMethod = callsOf s entryMethod := by
  rw [callsOf_eq, callsOf_eq]
  exact calls_bare s entryMethod s.root []

theorem survey_bare (entryMethod : String) : survey s.bare entryMethod = survey s entryMethod := by
  rw [survey_eq, survey_eq, callsOf_bare]

end Settings

/-- What is found in a tree does not depend on the comments in it: the calls and what they come to,
the imports, where the class of the sketch has its body, the methods of the sketch and the way it is
written. -/
theorem remarked_agrees (s : Sketch) (root : Node) (h : Remarked s.root root) :
    let t : Sketch := { s with root }
    (∀ entryMethod : String, callsOf t entryMethod = callsOf s entryMethod ∧
      survey t entryMethod = survey s entryMethod) ∧
    Sketch.findImports s.source root = Sketch.findImports s.source s.root ∧
    t.classBody?.map (fun b => (b.start, b.stop)) =
      s.classBody?.map (fun b => (b.start, b.stop)) ∧
    t.methodNames = s.methodNames ∧
    Sketch.detectMode s.source root = Sketch.detectMode s.source s.root := by
  intro t
  -- without comments both trees are the same, and nothing is found there that was not found before
  have hbare : t.bare = s.bare := congrArg (fun root => { s with root }) h.bare_eq
  have hspan (u : Sketch) : u.bare.classBody?.map (fun b => (b.start, b.stop)) =
      u.classBody?.map (fun b => (b.start, b.stop)) := by
    rw [Sketch.classBody?_bare, Option.map_map]
    congr 1
    funext b
    simp
  refine ⟨fun entryMethod => ⟨?_, ?_⟩, ?_, ?_, ?_, ?_⟩
  · rw [← callsOf_bare t, hbare, callsOf_bare]
  · rw [← survey_bare t, hbare, survey_bare]
  · rw [← Sketch.findImports_bare s.source root, h.bare_eq, Sketch.findImports_bare]
  · rw [← hspan t, hbare, hspan]
  · rw [← Sketch.methodNames_bare t, hbare, Sketch.methodNames_bare]
  · rw [← Sketch.detectMode_bare s.source root, h.bare_eq, Sketch.detectMode_bare]

/-- The tree of `smooth(/**/4);` with some nodes in the place of the comment. -/
def smoothing (remarks : List Node) : Node :=
  .mk none "program" true 0 14 0 [
    .mk none "expression_statement" true 0 14 0 [
      .mk none "method_invocation" true 0 13 0 [
        .mk (some .name) "identifier" true 0 6 0 [],
        .mk (some .arguments) "argument_list" true 6 13 0 ([.mk none "(" false 6 7 0 []] ++
          (remarks ++ [.mk none "decimal_integer_literal" true 11 12 0 [],
            .mk none ")" false 12 13 0 []]))],
      .mk none ";" false 13 14 0 []]]

/-- With a comment in front of its argument, a call of `smooth` is still one with one argument. -/
theorem remarked_agrees_argument :
    let note : Node := .mk none "block_comment" true 7 11 0 []
    let source := Utf8.encode "smooth(/**/4);"
    Remarked (smoothing []) (smoothing [note]) ∧
      (callsOf { root := smoothing [note], source, mode := .static } "setup").map
        (fun c => (c.site.arguments, c.assessment.valid)) = [(["4"], true)] := by
  intro note source
  have hnote : note.isRemark = true := by decide
  have hadds : AddsRemark (smoothing []) (smoothing [note]) :=
    .deeper [] [] (.deeper [] [_] (.deeper [_] [] (.here [_] _ hnote)))
  have hcalls := ((remarked_agrees { root := smoothing [], source, mode := .static }
    (smoothing [note]) (.single hadds)).1 "setup").1
  refine ⟨.single hadds, ?_⟩
  rw [hcalls]
  decide +kernel

/-- The body of the sketch's class, if it has one, does not end in a comment. -/
def Sketch.EndsInToken (s : Sketch) : Prop :=
  ∀ body, s.classBody? = some body → ∀ c, body.children.getLast? = some c → c.isRemark = false

theorem closingBrace?_bare {body : Node}
    (h : ∀ c, body.children.getLast? = some c → c.isRemark = false) :
    Generate.closingBrace? body.bare = (Generate.closingBrace? body).map Node.bare := by
  unfold Generate.closingBrace?
  rw [bare_children]
  cases hlast : body.children.getLast? with
  | none =>
    rw [List.getLast?_eq_none_iff.mp hlast]
    rfl
  | some c =>
    -- the last child is not left out, so it stays the last one
    obtain ⟨front, hfront⟩ := List.getLast?_eq_some_iff.mp hlast
    have hkept : (body.children.filter fun c => !c.isRemark) =
        (front.filter fun c => !c.isRemark) ++ [c] := by
      rw [hfront, List.filter_append, List.filter_cons_of_pos (by simp [h c hlast]),
        List.filter_nil]
    rw [hkept, List.map_append, List.map_singleton, List.getLast?_concat]
    rw [Option.filter_some, Option.filter_some, bare_kind]
    split_ifs <;> rfl

theorem memberEdits_bare {s : Sketch} (h : s.EndsInToken) (c : Config) (name : String)
    (accessors : List Accessor) (hasMain : Bool) :
    Generate.memberEdits c name s.bare accessors hasMain =
      Generate.memberEdits c name s accessors hasMain := by
  unfold Generate.memberEdits
  rw [Sketch.sketchClass?_bare, Sketch.classBody?_bare]
  cases s.sketchClass? with
  | none => rfl
  | some cls =>
    cases hbody : s.classBody? with
    | none => rfl
    | some body =>
      simp only [Option.map_some]
      rw [closingBrace?_bare (h body hbody), bare_childOf?]
      cases Generate.closingBrace? body with
      | none => rfl
      | some brace =>
        have hstart : s.bare.ownOffset brace.bare.start = s.ownOffset brace.start := by
          rw [bare_start]
          rfl
        simp only [Option.map_some, hstart]
        cases cls.childOf? .name with
        | none => rfl
        | some n =>
          have htext : n.bare.text s.bare.source = n.text s.source := bare_text n s.source
          simp only [Option.map_some, htext]

theorem depth_bare {s : Sketch} (h : s.EndsInToken) (hasMain : Bool) :
    Generate.depth s.bare hasMain = Generate.depth s hasMain := by
  have hbrace : (s.bare.classBody?.bind Generate.closingBrace?).isNone =
      (s.classBody?.bind Generate.closingBrace?).isNone := by
    rw [Sketch.classBody?_bare]
    cases hbody : s.classBody? with
    | none => rfl
    | some body =>
      rw [Option.map_some, Option.bind_some, Option.bind_some, closingBrace?_bare (h body hbody),
        Option.isNone_map]
  have hmode : s.bare.mode = s.mode := rfl
  rw [Generate.depth, Generate.depth, hbrace, hmode]

/-- The class file of a sketch does not depend on comments, as long as the brace that closes the body
of its class stays the last of what the body holds. -/
theorem assemble_remarked {σ : Type} (report : σ → Warning → σ) (source : Bytes)
    (name package : String) (c : Config) (s : Sketch) (root : Node) (h : Remarked s.root root)
    (hs : s.EndsInToken) (ht : Sketch.EndsInToken { s with root }) (log : σ) :
    Generate.assemble report source name package c { s with root } log =
      Generate.assemble report source name package c s log := by
  have hassemble {u : Sketch} (hu : u.EndsInToken) :
      Generate.assemble report source name package c u.bare log =
        Generate.assemble report source name package c u log := by
    have hother (accessors : List Accessor) (hasMain : Bool) :
        Generate.otherEdits c name u.bare accessors hasMain =
          Generate.otherEdits c name u accessors hasMain := by
      rw [Generate.otherEdits, memberEdits_bare hu]
      rfl
    unfold Generate.assemble
    rw [survey_bare, Sketch.methodNames_bare]
    cases survey u c.entryMethod with
    | error e => rfl
    | ok found =>
      simp only [hother, depth_bare hu]
      rfl
  have hbare : Sketch.bare { s with root } = s.bare :=
    congrArg (fun root => { s with root }) h.bare_eq
  rw [← hassemble ht, hbare, hassemble hs]

end Sketchbook
